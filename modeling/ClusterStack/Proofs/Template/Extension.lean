import ClusterStack.Proofs.Template.Growth

/-!
# Extended templates

A template extends another if it has everything that is there, in the same order and in between
whatever is new. Only a load balancer may be another one, and only by its security groups.
-/

set_option autoImplicit false

namespace ClusterStack

namespace Resource

def propertiesBut (key : String) (resource : Resource) : List (String × Value) :=
  resource.properties.filter (·.1 != key)

theorem propertiesBut_make (key : String) (kind : ResourceKind) (properties : List (String × Option Value))
    (dependsOn : List String) : (make kind properties dependsOn).propertiesBut key =
      (properties.filter (·.1 != key)).filterMap fun entry => entry.2.map (entry.1, ·) := by
  rw [propertiesBut, make, List.filter_filterMap, List.filterMap_filter]
  refine List.filterMap_congr fun entry _ => ?_
  cases entry.2 <;> simp [Option.filter]

/-- The resource has not changed. If it is a load balancer, its security groups may have. -/
structure KeptAs (before after : Resource) : Prop where
  unchanged : before.kind ≠ .loadBalancer → after = before
  kind : after.kind = before.kind
  deletionPolicy : after.deletionPolicy = before.deletionPolicy
  properties : after.propertiesBut "SecurityGroups" = before.propertiesBut "SecurityGroups"
  dependsOn : after.dependsOn = before.dependsOn

theorem KeptAs.refl (resource : Resource) : resource.KeptAs resource :=
  ⟨fun _ => rfl, rfl, rfl, rfl, rfl⟩

end Resource

/-- Every entry of the old list is among the new ones, in the same order. -/
def KeptIn (old new : List (String × Resource)) : Prop :=
  ∃ kept, List.Forall₂ (fun before after => after.1 = before.1 ∧ before.2.KeptAs after.2) old kept ∧
    kept.Sublist new

namespace KeptIn

variable {old new front newFront : List (String × Resource)}

theorem of_sublist (within : old.Sublist new) : KeptIn old new :=
  ⟨old, List.forall₂_same.mpr fun entry _ => ⟨rfl, .refl entry.2⟩, within⟩

theorem append (fronts : KeptIn front newFront) (backs : KeptIn old new) :
    KeptIn (front ++ old) (newFront ++ new) := by
  obtain ⟨keptFront, frontRelated, frontWithin⟩ := fronts
  obtain ⟨kept, related, within⟩ := backs
  exact ⟨keptFront ++ kept, List.rel_append frontRelated related, frontWithin.append within⟩

theorem exists_of_mem (keptIn : KeptIn old new) {key : String} {before : Resource}
    (member : (key, before) ∈ old) : ∃ after, (key, after) ∈ new ∧ before.KeptAs after := by
  obtain ⟨kept, related, within⟩ := keptIn
  obtain ⟨⟨_, after⟩, listed, rfl, same⟩ := exists_of_forall₂_left related member
  exact ⟨after, within.subset listed, same⟩

theorem keys_sublist (keptIn : KeptIn old new) : (Entries.keys old).Sublist (Entries.keys new) := by
  obtain ⟨kept, related, within⟩ := keptIn
  have same : Entries.keys kept = Entries.keys old :=
    map_eq_of_forall₂ related fun _ _ _ holds => holds.1
  exact same ▸ within.map Prod.fst

end KeptIn

namespace Template

/-- The new template has all that the old one has, and the keys of the old one in their order. -/
structure ExtendedBy (old new : Template) : Prop where
  outputs : old.outputs.entries.Sublist new.outputs.entries
  resources : ∀ key before, (key, before) ∈ old.resources.entries →
    ∃ after, (key, after) ∈ new.resources.entries ∧ before.KeptAs after
  keys : old.resources.keys.Sublist new.resources.keys

variable {left right leftLarger rightLarger template larger : Template} {declarations : List Declaration}

/-- A declaration adds the same to two templates, unless it is shared and only one of them has its key. -/
private theorem exists_added_of_declare {declaration : Declaration}
    (first : left.declare declaration = .ok leftLarger)
    (second : right.declare declaration = .ok rightLarger)
    (alike : ∀ key definition, .sharedResource key definition = declaration →
      (key ∈ left.resources.keys ↔ key ∈ right.resources.keys)) :
    ∃ added, leftLarger.resources.entries = left.resources.entries ++ added ∧
      rightLarger.resources.entries = right.resources.entries ++ added := by
  cases declaration with
  | resource key definition =>
    exact ⟨_, (addResource_eq_ok.mp first).2.1, (addResource_eq_ok.mp second).2.1⟩
  | output key definition =>
    refine ⟨[], ?_, ?_⟩
    · rw [(addOutput_eq_ok.mp first).2.1, List.append_nil]
    · rw [(addOutput_eq_ok.mp second).2.1, List.append_nil]
  | sharedResource key definition =>
    have both := alike key definition rfl
    rcases addSharedResource_eq_ok.mp first with leftAdded | ⟨rfl, _, here, -⟩ <;>
      rcases addSharedResource_eq_ok.mp second with rightAdded | ⟨rfl, _, there, -⟩
    · exact ⟨_, (addResource_eq_ok.mp leftAdded).2.1, (addResource_eq_ok.mp rightAdded).2.1⟩
    -- One template cannot enter what the other one finds.
    · exact absurd (both.mpr (Registry.mem_keys.mpr ⟨_, there⟩)) (addResource_eq_ok.mp leftAdded).1
    · exact absurd (both.mp (Registry.mem_keys.mpr ⟨_, here⟩)) (addResource_eq_ok.mp rightAdded).1
    · exact ⟨[], (List.append_nil _).symm, (List.append_nil _).symm⟩

/-- Declarations add the same to two templates that agree on which of the shared ones are there. -/
theorem exists_added (first : left.declareAll declarations = .ok leftLarger)
    (second : right.declareAll declarations = .ok rightLarger)
    (alike : ∀ key definition, .sharedResource key definition ∈ declarations →
      (key ∈ left.resources.keys ↔ key ∈ right.resources.keys)) :
    ∃ added, leftLarger.resources.entries = left.resources.entries ++ added ∧
      rightLarger.resources.entries = right.resources.entries ++ added := by
  induction declarations generalizing left right with
  | nil =>
    cases first
    cases second
    exact ⟨[], (List.append_nil _).symm, (List.append_nil _).symm⟩
  | cons declaration rest ih =>
    rw [declareAll, List.foldlM_cons, bind_eq_ok] at first second
    obtain ⟨leftNext, leftEntered, first⟩ := first
    obtain ⟨rightNext, rightEntered, second⟩ := second
    obtain ⟨added, leftEntries, rightEntries⟩ := exists_added_of_declare leftEntered rightEntered
      fun key definition same => alike key definition (same ▸ .head _)
    have nextAlike : ∀ key definition, .sharedResource key definition ∈ rest →
        (key ∈ leftNext.resources.keys ↔ key ∈ rightNext.resources.keys) := by
      intro key definition member
      simp only [Registry.keys, leftEntries, rightEntries, Entries.keys_append, List.mem_append]
      exact or_congr_left (alike key definition (.tail _ member))
    obtain ⟨further, leftFurther, rightFurther⟩ := ih first second nextAlike
    refine ⟨added ++ further, ?_, ?_⟩
    · rw [leftFurther, leftEntries, List.append_assoc]
    · rw [rightFurther, rightEntries, List.append_assoc]

end Template

end ClusterStack
