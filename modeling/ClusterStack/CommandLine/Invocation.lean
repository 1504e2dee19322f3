/-!
# Invocations

What is asked for on the command line: `compile` with a file, a stage, an output file and a choice of
layout, or `validate` with a file and a stage. Options may be written apart from their value, with an
equals sign, or, if short, run together with it. Everything after `--` is a file.
-/

set_option autoImplicit false

namespace ClusterStack

/-- What to do with the compiled template. -/
inductive Action where
  | compile (output : Option String) (compact : Bool)
  | validate
  deriving DecidableEq, Repr

/-- A command with its arguments. -/
structure Invocation where
  action : Action
  file : String
  stage : Option String
  deriving DecidableEq, Repr

namespace Invocation

/-- The commands. -/
inductive Command where
  | compile
  | validate
  deriving DecidableEq, Repr

/-- The options of both commands. -/
inductive Setting where
  | stage
  | output
  | compact
  deriving DecidableEq, Repr

def Command.ofWord? (word : String) : Option Command :=
  if word = "compile" then some .compile
  else if word = "validate" then some .validate
  else none

/-- Whether a command has a setting; output and layout are for `compile` alone. -/
def Command.allows : Command → Setting → Bool
  | .compile, _ => true
  | .validate, .stage => true
  | .validate, .output => false
  | .validate, .compact => false

def Setting.ofName? (name : String) : Option Setting :=
  if name = "stage" then some .stage
  else if name = "output" then some .output
  else if name = "compact" then some .compact
  else none

def Setting.ofLetter? (letter : Char) : Option Setting :=
  if letter = 's' then some .stage
  else if letter = 'o' then some .output
  else none

/-- What has been given so far, and where the reading of arguments stands. -/
structure Reading where
  file : Option String
  stage : Option String
  output : Option String
  compact : Bool
  pending : Option Setting
  literal : Bool
  deriving DecidableEq, Repr

/-- An argument that starts like an option: with a hyphen that does not stand alone. -/
def isOption (argument : String) : Bool :=
  match argument.toList with
  | '-' :: _ :: _ => true
  | _ => false

/-- The setting that an option names, and the value that is attached to it. -/
def settingOf? (argument : String) : Option (Setting × Option String) :=
  match argument.toList with
  | '-' :: '-' :: rest =>
    let attached := match rest.dropWhile (· ≠ '=') with
      | '=' :: value => some (String.ofList value)
      | _ => none
    (Setting.ofName? (String.ofList (rest.takeWhile (· ≠ '=')))).map (·, attached)
  | '-' :: letter :: rest =>
    let attached := match rest with
      | [] => none
      | '=' :: value => some (String.ofList value)
      | value => some (String.ofList value)
    (Setting.ofLetter? letter).map (·, attached)
  | _ => none

namespace Reading

def start : Reading :=
  ⟨none, none, none, false, none, false⟩

/-- Takes the file, which must have a name and be the only one. -/
def takeFile? (reading : Reading) (file : String) : Option Reading :=
  if reading.file.isSome || file.isEmpty then none else some { reading with file := some file }

/-- Takes the value of a setting that has none yet. The output must have a name. -/
def takeValue? (reading : Reading) (setting : Setting) (value : String) : Option Reading :=
  match setting with
  | .stage =>
    if reading.stage.isSome then none
    else some { reading with stage := some value, pending := none }
  | .output =>
    if reading.output.isSome || value.isEmpty then none
    else some { reading with output := some value, pending := none }
  | .compact => none

def takeOption? (command : Command) (reading : Reading) (argument : String) : Option Reading :=
  match settingOf? argument with
  | none => none
  | some (setting, attached) =>
    if command.allows setting then
      match setting, attached with
      | .compact, none => if reading.compact then none else some { reading with compact := true }
      | .compact, some _ => none
      | setting, some value => reading.takeValue? setting value
      | setting, none => some { reading with pending := some setting }
    else
      none

def take? (command : Command) (reading : Reading) (argument : String) : Option Reading :=
  if reading.literal then reading.takeFile? argument
  else match reading.pending with
    | some setting =>
      if isOption argument then none else reading.takeValue? setting argument
    | none =>
      if argument = "--" then some { reading with literal := true }
      else if isOption argument then reading.takeOption? command argument
      else reading.takeFile? argument

def finish? (command : Command) (reading : Reading) : Option Invocation :=
  if reading.pending.isSome then none
  else some {
    action := match command with
      | .compile => .compile reading.output reading.compact
      | .validate => .validate
    file := reading.file.getD "serverless.yml"
    stage := reading.stage }

end Reading

/-- The invocation that the arguments spell; none where they are misused. -/
def ofArguments? : List String → Option Invocation
  | [] => none
  | word :: arguments => do
    let command ← Command.ofWord? word
    let reading ← arguments.foldlM (Reading.take? command) .start
    reading.finish? command

end Invocation

end ClusterStack
