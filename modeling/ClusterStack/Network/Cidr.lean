/-!
# Address ranges

A range of IPv4 addresses is written as four numbers separated by points, a slash, and the number of
leading bits that the addresses share.
-/

set_option autoImplicit false

namespace ClusterStack.Cidr

/-- Why a text is not an address range. -/
inductive Problem where
  | noSlash (text : String)
  | octetCount (address : String)
  | octet (text : String)
  | lengthTooLarge (length : Nat)
  | lengthNotANumber (text : String)
  deriving DecidableEq, Repr

def Problem.message : Problem → String
  | .noSlash text => s!"Invalid CIDR format '{text}': expected IP/prefix"
  | .octetCount address => s!"Invalid IP address '{address}': expected 4 octets"
  | .octet text => s!"Invalid octet '{text}' in IP address: must be 0-255"
  | .lengthTooLarge length => s!"Invalid prefix length '{length}': must be 0-32"
  | .lengthNotANumber text => s!"Invalid prefix length '{text}': must be a number"

def decimal? (chars : List Char) : Option Nat :=
  if chars.isEmpty || !chars.all Char.isDigit then none
  else some (chars.foldl (fun value c => value * 10 + (c.toNat - 48)) 0)

/-- The value of a number of eight bits; it may be signed with a plus. -/
def byte? (chars : List Char) : Option Nat :=
  let digits := match chars with
    | '+' :: rest => rest
    | _ => chars
  (decimal? digits).filter (· < 256)

/-- The pieces of a text between the occurrences of a separator. -/
def pieces (separator : Char) : List Char → List (List Char)
  | [] => [[]]
  | c :: rest =>
    if c = separator then [] :: pieces separator rest
    else match pieces separator rest with
      | [] => [[c]]
      | first :: others => (c :: first) :: others

/-- Checks that a text is an address range, its parts from left to right. -/
def check (text : String) : Except Problem Unit :=
  let chars := text.toList
  let address := chars.takeWhile (· ≠ '/')
  match chars.dropWhile (· ≠ '/') with
  | [] => .error (.noSlash text)
  | _ :: length =>
    let octets := pieces '.' address
    if octets.length ≠ 4 then .error (.octetCount (String.ofList address))
    else match octets.find? fun octet => (byte? octet).isNone with
      | some wrong => .error (.octet (String.ofList wrong))
      | none =>
        match byte? length with
        | none => .error (.lengthNotANumber (String.ofList length))
        | some value => if value ≤ 32 then .ok () else .error (.lengthTooLarge value)

end ClusterStack.Cidr
