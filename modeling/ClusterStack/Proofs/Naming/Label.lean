import ClusterStack.Proofs.Naming.Mark
import Mathlib.Data.List.Perm.Basic

/-!
# Labels

A generated resource is told from all others by its owner, its role and its mark. Its id is their
texts one after the other, with the stage before the mark and nothing in between. Where marks are
plain, no two resources share an id, whatever the stage and the owners are called.
-/

set_option autoImplicit false

namespace ClusterStack

/-- What tells a generated resource from all others of a deployment. -/
structure Label where
  owner : String
  role : Role
  mark : Mark
  deriving DecidableEq, Repr

def Deployment.idOf (deployment : Deployment) (label : Label) : String :=
  deployment.numberedId label.owner label.role label.mark.text

theorem Deployment.logicalId_eq_idOf (deployment : Deployment) (owner : String) (role : Role) :
    deployment.logicalId owner role = deployment.idOf ⟨owner, role, .single⟩ := by
  simp only [Deployment.idOf, Deployment.numberedId, Mark.text, String.append_empty]

namespace Role

def all : List Role := [
  .cluster, .containerSecurityGroup, .selfIngress, .vpc, .internetGateway, .gatewayAttachment,
  .routeTable, .route, .subnet, .routeTableAssociation, .loadBalancer, .loadBalancerListener,
  .loadBalancerSecurityGroup, .loadBalancerIngress, .listenerRule, .targetGroup, .taskDefinition,
  .container, .service, .logGroup, .schedulerRule, .executionRole, .scalingRole, .scalingTarget,
  .scalingPolicy, .scalingPolicyIn, .scalingPolicyOut, .scalingAlarmIn, .scalingAlarmOut]

theorem mem_all (role : Role) : role ∈ all := by
  cases role <;> decide

theorem not_isInitial_of_mem_tag {role : Role} {c : Char} (member : c ∈ role.tag.toList) :
    Mark.isInitial c = false := by
  have every : (all.all fun role => role.tag.toList.all fun c => !Mark.isInitial c) = true := by
    decide +kernel
  have letters := List.all_eq_true.mp every role role.mem_all
  simpa using List.all_eq_true.mp letters c member

theorem exists_not_isPart (role : Role) : ∃ c ∈ role.tag.toList, Mark.isPart c = false := by
  have every : (all.all fun role => role.tag.toList.any fun c => !Mark.isPart c) = true := by
    decide +kernel
  simpa using List.all_eq_true.mp every role role.mem_all

/-- A tag ends in another one only where leave to enter the containers ends in the load balancer. -/
theorem eq_of_tag_suffix {a b : Role} (within : a.tag.toList <:+ b.tag.toList)
    (other : b ≠ .loadBalancerIngress) : a = b := by
  have every : ∀ a ∈ all, ∀ b ∈ all, b ≠ .loadBalancerIngress →
      a.tag.toList <:+ b.tag.toList → a = b := by decide +kernel
  exact every a a.mem_all b b.mem_all other within

theorem not_tag_infix_pseudoParameter (role : Role) : ¬role.tag.toList <:+: "AWS::Region".toList ∧
    ¬role.tag.toList <:+: "AWS::NoValue".toList := by
  have every : ∀ role ∈ all, ¬role.tag.toList <:+: "AWS::Region".toList ∧
      ¬role.tag.toList <:+: "AWS::NoValue".toList := by decide +kernel
  exact every role role.mem_all

end Role

private theorem perm_of_append_comm {α : Type} {front back stage : List α}
    (same : stage ++ back = front ++ stage) : front.Perm back := by
  have turned : (back ++ stage).Perm (front ++ stage) := by
    rw [← same]
    exact List.perm_append_comm
  exact ((List.perm_append_right_iff stage).mp turned).symm

/-- Where a stage stands at the end of one text and a surplus follows it in another, equal one, the front
of the former goes on with what the surplus has been moved to. -/
private theorem exists_moved {front longer stage surplus : List Char}
    (shifted : front ++ (stage ++ surplus) = longer ++ stage) :
    ∃ moved, longer = front ++ moved ∧ stage ++ surplus = moved ++ stage := by
  rcases List.append_eq_append_iff.mp shifted with ⟨moved, first, second⟩ | ⟨back, first, second⟩
  · exact ⟨moved, first, second⟩
  · have lengths := congrArg List.length second
    simp only [List.length_append] at lengths
    have noBack : back = [] := List.eq_nil_of_length_eq_zero (by omega)
    have noSurplus : surplus = [] := List.eq_nil_of_length_eq_zero (by omega)
    refine ⟨[], ?_, ?_⟩
    · rw [first, noBack, List.append_nil, List.append_nil]
    · rw [noSurplus, List.append_nil, List.nil_append]

namespace Label

variable {deployment : Deployment} {a b : Label}

private theorem toList_idOf (deployment : Deployment) (label : Label) :
    (deployment.idOf label).toList = label.owner.toList ++ label.role.tag.toList ++
      (deployment.stageToken.toList ++ label.mark.text.toList) := by
  simp only [Deployment.idOf, Deployment.numberedId, Deployment.logicalId, String.toList_append,
    List.append_assoc]

theorem idOf_ne_pseudoParameter (deployment : Deployment) (label : Label) :
    deployment.idOf label ≠ "AWS::Region" ∧ deployment.idOf label ≠ "AWS::NoValue" := by
  have within : label.role.tag.toList <:+: (deployment.idOf label).toList := by
    rw [toList_idOf, List.append_assoc]
    exact List.infix_append' _ _ _
  obtain ⟨region, noValue⟩ := label.role.not_tag_infix_pseudoParameter
  exact ⟨fun same => region (same ▸ within), fun same => noValue (same ▸ within)⟩

/-- Of two labels with one id, a plain one has no longer mark than the other. Otherwise the surplus
of its mark would have to be found, rearranged, at the end of the other's tag. -/
theorem length_mark_le (plain : a.mark.IsPlain) (same : deployment.idOf a = deployment.idOf b) :
    a.mark.text.toList.length ≤ b.mark.text.toList.length := by
  by_contra longer
  have same := congrArg String.toList same
  simp only [toList_idOf] at same
  have ends : b.mark.text.toList <:+ a.mark.text.toList := by
    have left : a.mark.text.toList <:+ a.owner.toList ++ a.role.tag.toList ++
        (deployment.stageToken.toList ++ a.mark.text.toList) :=
      (List.suffix_append _ _).trans (List.suffix_append _ _)
    have right : b.mark.text.toList <:+ a.owner.toList ++ a.role.tag.toList ++
        (deployment.stageToken.toList ++ a.mark.text.toList) := by
      rw [same]
      exact (List.suffix_append _ _).trans (List.suffix_append _ _)
    exact List.suffix_of_suffix_length_le right left (by omega)
  obtain ⟨surplus, split⟩ := ends
  have shifted : (a.owner.toList ++ a.role.tag.toList) ++ (deployment.stageToken.toList ++ surplus) =
      (b.owner.toList ++ b.role.tag.toList) ++ deployment.stageToken.toList := by
    have extended : (a.owner.toList ++ a.role.tag.toList ++
        (deployment.stageToken.toList ++ surplus)) ++ b.mark.text.toList =
          (b.owner.toList ++ b.role.tag.toList ++ deployment.stageToken.toList) ++
            b.mark.text.toList := by
      simpa only [List.append_assoc, split] using same
    exact List.append_cancel_right extended
  obtain ⟨front, ownerTag, moved⟩ := exists_moved shifted
  have rearranged := perm_of_append_comm moved
  obtain ⟨c, rest, begins⟩ : ∃ c rest, surplus = c :: rest := by
    cases surplus with
    | nil =>
      rw [List.nil_append] at split
      exact absurd (split ▸ Nat.le_refl _) longer
    | cons c rest => exact ⟨c, rest, rfl⟩
  have initial : Mark.isInitial c = true := by
    have written : a.mark.text.toList = c :: (rest ++ b.mark.text.toList) := by
      rw [← split, begins, List.cons_append]
    exact Mark.isInitial_head plain written
  have member : c ∈ front := rearranged.mem_iff.mpr (by simp [begins])
  have tagEnds : b.role.tag.toList <:+ a.owner.toList ++ a.role.tag.toList ++ front := by
    rw [← ownerTag]
    exact List.suffix_append _ _
  rcases List.suffix_or_suffix_of_suffix tagEnds (List.suffix_append _ _) with inside | covers
  · -- The whole tag would be made of characters of the mark.
    obtain ⟨d, letter, foreign⟩ := b.role.exists_not_isPart
    have inMark : d ∈ a.mark.text.toList := by
      rw [← split]
      exact List.mem_append_left _ (rearranged.mem_iff.mp (inside.subset letter))
    rw [Mark.isPart_of_mem plain inMark] at foreign
    exact absurd foreign (by decide)
  · -- The tag would have the character that the mark begins with.
    rw [Role.not_isInitial_of_mem_tag (covers.subset member)] at initial
    exact absurd initial (by decide)

/-- Labels with one id whose marks are equally long are equal, but for the tag that ends in another. -/
theorem eq_of_length_eq (same : deployment.idOf a = deployment.idOf b)
    (aligned : a.mark.text.toList.length = b.mark.text.toList.length)
    (aOther : a.role ≠ .loadBalancerIngress) (bOther : b.role ≠ .loadBalancerIngress) :
    a.owner = b.owner ∧ a.role = b.role ∧ a.mark.text = b.mark.text := by
  have same := congrArg String.toList same
  simp only [toList_idOf] at same
  obtain ⟨fronts, ends⟩ := List.append_inj' same (by simp [aligned])
  have marks : a.mark.text = b.mark.text :=
    String.toList_injective (List.append_cancel_left ends)
  have roles : a.role = b.role := by
    have left : a.role.tag.toList <:+ a.owner.toList ++ a.role.tag.toList := List.suffix_append _ _
    have right : b.role.tag.toList <:+ a.owner.toList ++ a.role.tag.toList := by
      rw [fronts]
      exact List.suffix_append _ _
    rcases List.suffix_or_suffix_of_suffix left right with inside | covers
    · exact Role.eq_of_tag_suffix inside bOther
    · exact (Role.eq_of_tag_suffix covers aOther).symm
  rw [roles] at fronts
  exact ⟨String.toList_injective (List.append_cancel_right fronts), roles, marks⟩

/-- Of two labels of one owner with one id, the tag of one begins with the tag of the other. -/
theorem tags_comparable (same : deployment.idOf a = deployment.idOf b) (owner : a.owner = b.owner) :
    a.role.tag.toList <+: b.role.tag.toList ∨ b.role.tag.toList <+: a.role.tag.toList := by
  have same := congrArg String.toList same
  simp only [toList_idOf, owner, List.append_assoc, List.append_cancel_left_eq] at same
  have first : a.role.tag.toList <+:
      b.role.tag.toList ++ (deployment.stageToken.toList ++ b.mark.text.toList) := by
    rw [← same]
    exact List.prefix_append _ _
  exact List.prefix_or_prefix_of_prefix first (List.prefix_append _ _)

/-- The mark is plain, and the role is not the one whose tag ends in another role's tag. -/
structure IsPlain (label : Label) : Prop where
  mark : label.mark.IsPlain
  role : label.role ≠ .loadBalancerIngress

/-- Distinct plain labels have distinct ids. -/
theorem eq_of_idOf_eq (aPlain : a.IsPlain) (bPlain : b.IsPlain)
    (same : deployment.idOf a = deployment.idOf b) : a = b := by
  have aligned : a.mark.text.toList.length = b.mark.text.toList.length :=
    Nat.le_antisymm (length_mark_le aPlain.mark same) (length_mark_le bPlain.mark same.symm)
  obtain ⟨owners, roles, texts⟩ := eq_of_length_eq same aligned aPlain.role bPlain.role
  have marks := Mark.text_injective aPlain.mark bPlain.mark texts
  cases a
  cases b
  simp only at owners roles marks
  rw [owners, roles, marks]

end Label

end ClusterStack
