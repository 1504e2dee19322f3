import ClusterStack.Proofs.Naming.Label

/-!
# Numbered ids

Most ids end with the stage or with a number after it. Nothing stands between the owner, the tag of the
role, the stage and the number, and the stage may end in digits as the owner may end in a tag. All the same
the id tells the owner, the role and the number, but for the one role whose tag ends in another role's tag.
-/

set_option autoImplicit false

namespace ClusterStack

/-- The mark of the only instance of a role, or of one that has a number. -/
def Mark.counted : Option Nat → Mark
  | none => .single
  | some n => .number n

theorem Mark.isPlain_counted (number : Option Nat) : (counted number).IsPlain := by
  cases number with
  | none => exact trivial
  | some n => exact trivial

theorem Mark.counted_injective : Function.Injective counted := by
  intro m n same
  cases m with
  | none =>
    cases n with
    | none => rfl
    | some n => cases same
  | some m =>
    cases n with
    | none => cases same
    | some n =>
      cases same
      rfl

namespace Deployment

/-- The id of a resource, with its number in decimal where the role has several instances. -/
def countedId (deployment : Deployment) (owner : String) (role : Role) : Option Nat → String
  | none => deployment.logicalId owner role
  | some n => deployment.numberedId owner role (toString n)

variable {deployment : Deployment} {a b : String} {r s : Role} {m n : Option Nat}

theorem countedId_eq_idOf : deployment.countedId a r m = deployment.idOf ⟨a, r, .counted m⟩ := by
  cases m with
  | none => exact deployment.logicalId_eq_idOf a r
  | some n => rfl

/-- Whatever the stage and the owners are called, an id belongs to one owner, one role and one number. -/
theorem countedId_eq_countedId_iff (first : r ≠ .loadBalancerIngress) (second : s ≠ .loadBalancerIngress) :
    deployment.countedId a r m = deployment.countedId b s n ↔ a = b ∧ r = s ∧ m = n := by
  constructor
  · intro same
    rw [countedId_eq_idOf, countedId_eq_idOf] at same
    have plain : ∀ owner role number, role ≠ .loadBalancerIngress →
        (Label.mk owner role (.counted number)).IsPlain := by
      intro owner role number other
      exact ⟨Mark.isPlain_counted number, other⟩
    have labels := Label.eq_of_idOf_eq (plain a r m first) (plain b s n second) same
    rw [Label.mk.injEq] at labels
    obtain ⟨owners, roles, marks⟩ := labels
    exact ⟨owners, roles, Mark.counted_injective marks⟩
  · intro same
    obtain ⟨rfl, rfl, rfl⟩ := same
    rfl

/-- On a stage that is a number, the second of two subnets and the only instance of the role next to it. -/
theorem countedId_eq_countedId_iff_numberedStage :
    (Role.subnet ≠ .loadBalancerIngress ∧ Role.subnet ≠ .loadBalancerIngress) ∧
      ((ofService "1" "my-app").countedId "MyappApi" .subnet (some 1) =
          (ofService "1" "my-app").countedId "MyappApi" .subnet none ↔
        "MyappApi" = "MyappApi" ∧ Role.subnet = .subnet ∧ some 1 = none) :=
  ⟨by decide, countedId_eq_countedId_iff (by decide) (by decide)⟩

/-- Leave to enter the containers has the id of a load balancer, of another owner. -/
theorem countedId_loadBalancerIngress :
    deployment.countedId a .loadBalancerIngress m =
      deployment.countedId (a ++ "ECSSecGroupIngress") .loadBalancer m := by
  have tags : Role.loadBalancerIngress.tag = "ECSSecGroupIngress" ++ Role.loadBalancer.tag := by decide
  cases m with
  | none => simp only [countedId, logicalId, tags, String.append_assoc]
  | some n => simp only [countedId, numberedId, logicalId, tags, String.append_assoc]

end Deployment

end ClusterStack
