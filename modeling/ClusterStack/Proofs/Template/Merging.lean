import ClusterStack.Proofs.Template.Growth

/-!
# Merging templates

A merge goes through if the templates have no key in common, and then it puts their entries one behind
the other, however several merges are nested. Otherwise it stops at the first entry whose key is taken.
-/

set_option autoImplicit false

namespace ClusterStack.Template

variable {template other left larger : Template} {declarations before after : List Declaration}
  {declaration : Declaration} {reason : CompileError}

section Refused

theorem declareUntilRefused_eq_none :
    template.declareUntilRefused declarations = (left, none) ↔ template.declareAll declarations = .ok left := by
  induction declarations generalizing template with
  | nil => simp [declareUntilRefused, declareAll, pure, Except.pure]
  | cons declaration rest ih =>
    rw [declareUntilRefused, declareAll, List.foldlM_cons]
    cases template.declare declaration with
    | ok next => exact ih
    | error reason => simp [bind, Except.bind]

/-- What is left when a declaration is refused are all those before it. -/
theorem declareUntilRefused_eq_some :
    template.declareUntilRefused declarations = (left, some reason) ↔
      ∃ before declaration after, declarations = before ++ declaration :: after ∧
        template.declareAll before = .ok left ∧ left.declare declaration = .error reason := by
  induction declarations generalizing template with
  | nil => simp [declareUntilRefused]
  | cons first rest ih =>
    rw [declareUntilRefused]
    constructor
    · intro stopped
      cases outcome : template.declare first with
      | error other =>
        simp only [outcome, Prod.mk.injEq, Option.some.injEq] at stopped
        obtain ⟨rfl, rfl⟩ := stopped
        exact ⟨[], first, rest, rfl, rfl, outcome⟩
      | ok next =>
        simp only [outcome] at stopped
        obtain ⟨before, declaration, after, rfl, entered, refused⟩ := ih.mp stopped
        refine ⟨first :: before, declaration, after, rfl, ?_, refused⟩
        rw [declareAll, List.foldlM_cons, bind_eq_ok]
        exact ⟨next, outcome, entered⟩
    · rintro ⟨before, declaration, after, split, entered, refused⟩
      cases before with
      | nil =>
        cases entered
        cases split
        rw [refused]
      | cons head before =>
        cases split
        rw [declareAll, List.foldlM_cons, bind_eq_ok] at entered
        obtain ⟨next, accepted, entered⟩ := entered
        rw [accepted]
        exact ih.mpr ⟨before, declaration, after, rfl, entered, refused⟩

theorem not_shared_of_split (split : other.declarations = before ++ declaration :: after) (key : String)
    (definition : Resource) : .sharedResource key definition ∉ before := by
  have absent : .sharedResource key definition ∉ other.declarations := not_shared_declarations other
  rw [split, List.mem_append, not_or] at absent
  exact absent.1

/-- The keys of a template are distinct, so an entry of it never clashes with one before it. -/
theorem clash_append_iff (split : other.declarations = before ++ declaration :: after)
    {resources : List (String × Resource)} {outputs : List (String × Output)} :
    Clash (resources ++ before.filterMap Declaration.resource?)
        (outputs ++ before.filterMap Declaration.output?) declaration reason ↔
      Clash resources outputs declaration reason := by
  refine ⟨fun clash => ?_, fun clash => clash.mono (List.subset_append_left _ _) (List.subset_append_left _ _)⟩
  cases clash with
  | @resource key definition taken =>
    have distinct := other.resources.distinct
    rw [← filterMap_resource_declarations other, split, List.filterMap_append, Entries.keys_append,
      List.nodup_append'] at distinct
    rw [Entries.keys_append, List.mem_append] at taken
    rcases taken with old | new
    · exact .resource old
    · exact absurd (by simp [Declaration.resource?]) (distinct.2.2 new)
  | @output key definition taken =>
    have distinct := other.outputs.distinct
    rw [← filterMap_output_declarations other, split, List.filterMap_append, Entries.keys_append,
      List.nodup_append'] at distinct
    rw [Entries.keys_append, List.mem_append] at taken
    rcases taken with old | new
    · exact .output old
    · exact absurd (by simp [Declaration.output?]) (distinct.2.2 new)
  | @sharedResource key _ definition _ _ =>
    have member : .sharedResource key definition ∈ other.declarations := by simp [split]
    exact absurd member (not_shared_declarations other)

theorem entries_of_front (split : other.declarations = before ++ declaration :: after)
    (entered : template.declareAll before = .ok left) :
    left.resources.entries = template.resources.entries ++ before.filterMap Declaration.resource? ∧
      left.outputs.entries = template.outputs.entries ++ before.filterMap Declaration.output? := by
  have alone := not_shared_of_split split
  refine ⟨?_, (grown_of_declareAll entered).outputs⟩
  rw [entries_of_declareAll entered alone, filterMap_owned_eq_resource alone]

/-- The entries in front of another one are entered exactly if none of them clashes with the template. -/
theorem exists_front_iff (split : other.declarations = before ++ declaration :: after) :
    (∃ left, template.declareAll before = .ok left) ↔ ∀ earlier ∈ before, ∀ cause,
      ¬ Clash template.resources.entries template.outputs.entries earlier cause := by
  have shorter : ∀ front earlier back, before = front ++ earlier :: back →
      other.declarations = front ++ earlier :: (back ++ declaration :: after) := by
    intro front earlier back within
    rw [split, within, List.append_assoc, List.cons_append]
  constructor
  · rintro ⟨left, entered⟩ earlier member cause clash
    obtain ⟨front, back, within⟩ := List.append_of_mem member
    rw [within, declareAll_append_eq_ok] at entered
    obtain ⟨between, first, entered⟩ := entered
    obtain ⟨resources, outputs⟩ := entries_of_front (shorter front earlier back within) first
    have refused : between.declare earlier = .error cause := by
      rw [declare_eq_error, resources, outputs]
      exact (clash_append_iff (shorter front earlier back within)).mpr clash
    rw [declareAll, List.foldlM_cons, refused] at entered
    cases entered
  · intro free
    cases outcome : template.declareAll before with
    | ok left => exact ⟨left, rfl⟩
    | error cause =>
      obtain ⟨front, earlier, back, within, clash⟩ := clash_of_declareAll_eq_error outcome
      have clash := (clash_append_iff (shorter front earlier back within)).mp clash
      exact absurd clash (free earlier (by simp [within]) cause)

/-- A merge that stops has entered what stands in front of the first entry that clashes with the template, and
tells the key of that entry. Resources stand in front of outputs. -/
structure StopsAt (template other left : Template) (reason : CompileError) (before : List Declaration)
    (declaration : Declaration) : Prop where
  place : ∃ after, other.declarations = before ++ declaration :: after
  free : ∀ earlier ∈ before, ∀ cause,
    ¬ Clash template.resources.entries template.outputs.entries earlier cause
  taken : Clash template.resources.entries template.outputs.entries declaration reason
  resources : left.resources.entries = template.resources.entries ++ before.filterMap Declaration.resource?
  outputs : left.outputs.entries = template.outputs.entries ++ before.filterMap Declaration.output?

theorem mergeUntilRefused_eq_some : template.mergeUntilRefused other = (left, some reason) ↔
    ∃ before declaration, StopsAt template other left reason before declaration := by
  rw [mergeUntilRefused, declareUntilRefused_eq_some]
  constructor
  · rintro ⟨before, declaration, after, split, entered, refused⟩
    obtain ⟨resources, outputs⟩ := entries_of_front split entered
    rw [declare_eq_error, resources, outputs, clash_append_iff split] at refused
    exact ⟨before, declaration, ⟨after, split⟩, (exists_front_iff split).mp ⟨left, entered⟩, refused,
      resources, outputs⟩
  · rintro ⟨before, declaration, ⟨after, split⟩, free, taken, resources, outputs⟩
    obtain ⟨state, entered⟩ := (exists_front_iff split).mpr free
    obtain ⟨sameResources, sameOutputs⟩ := entries_of_front split entered
    obtain rfl : left = state :=
      eq_of_entries_eq (resources.trans sameResources.symm) (outputs.trans sameOutputs.symm)
    refine ⟨before, declaration, after, split, entered, ?_⟩
    rw [declare_eq_error, resources, outputs]
    exact (clash_append_iff split).mpr taken

theorem merge_eq_error : template.merge other = .error reason ↔
    ∃ left, template.mergeUntilRefused other = (left, some reason) := by
  simp only [mergeUntilRefused, declareUntilRefused_eq_some]
  rw [merge, declareAll, foldlM_eq_error]
  constructor
  · rintro ⟨before, declaration, after, left, steps⟩
    exact ⟨left, before, declaration, after, steps⟩
  · rintro ⟨left, before, declaration, after, steps⟩
    exact ⟨before, declaration, after, left, steps⟩

end Refused

section Nested

variable {first second third : Template}

theorem merge_eq_ok : template.merge other = .ok larger ↔ template.Apart other ∧
    larger.resources.entries = template.resources.entries ++ other.resources.entries ∧
      larger.outputs.entries = template.outputs.entries ++ other.outputs.entries := by
  constructor
  · intro merged
    exact ⟨exists_merge_iff.mp ⟨larger, merged⟩, entries_of_merge_eq_ok merged⟩
  · rintro ⟨apart, resources, outputs⟩
    obtain ⟨result, merged⟩ := exists_merge_iff.mpr apart
    obtain ⟨sameResources, sameOutputs⟩ := entries_of_merge_eq_ok merged
    rw [merged, eq_of_entries_eq (resources.trans sameResources.symm) (outputs.trans sameOutputs.symm)]

theorem apart_of_merge_iff (merged : first.merge second = .ok larger) :
    larger.Apart third ↔ first.Apart third ∧ second.Apart third := by
  obtain ⟨resources, outputs⟩ := entries_of_merge_eq_ok merged
  have keys : larger.resources.keys = first.resources.keys ++ second.resources.keys := by
    rw [Registry.keys, resources, Entries.keys_append, Registry.keys, Registry.keys]
  have outputKeys : larger.outputs.keys = first.outputs.keys ++ second.outputs.keys := by
    rw [Registry.keys, outputs, Entries.keys_append, Registry.keys, Registry.keys]
  constructor
  · rintro ⟨apart, outputsApart⟩
    rw [keys, List.disjoint_append_left] at apart
    rw [outputKeys, List.disjoint_append_left] at outputsApart
    exact ⟨⟨apart.1, outputsApart.1⟩, ⟨apart.2, outputsApart.2⟩⟩
  · rintro ⟨left, right⟩
    constructor
    · rw [keys]
      exact List.disjoint_append_left.mpr ⟨left.resources, right.resources⟩
    · rw [outputKeys]
      exact List.disjoint_append_left.mpr ⟨left.outputs, right.outputs⟩

/-- Three templates of which no two have a key in common are put one behind the other. -/
def JoinOf (first second third larger : Template) : Prop :=
  [first, second, third].Pairwise Apart ∧
    larger.resources.entries =
      first.resources.entries ++ (second.resources.entries ++ third.resources.entries) ∧
    larger.outputs.entries = first.outputs.entries ++ (second.outputs.entries ++ third.outputs.entries)

theorem merge_left_eq_ok : (first.merge second >>= fun between => between.merge third) = .ok larger ↔
    JoinOf first second third larger := by
  rw [bind_eq_ok, JoinOf, List.pairwise_cons, List.pairwise_pair]
  constructor
  · rintro ⟨between, merged, joined⟩
    obtain ⟨apart, resources, outputs⟩ := merge_eq_ok.mp merged
    obtain ⟨rest, allResources, allOutputs⟩ := merge_eq_ok.mp joined
    obtain ⟨firstApart, secondApart⟩ := (apart_of_merge_iff merged).mp rest
    refine ⟨⟨by simp [apart, firstApart], secondApart⟩, ?_, ?_⟩
    · rw [allResources, resources, List.append_assoc]
    · rw [allOutputs, outputs, List.append_assoc]
  · rintro ⟨⟨firstApart, secondApart⟩, resources, outputs⟩
    obtain ⟨between, merged⟩ := exists_merge_iff.mpr (firstApart second (by simp))
    refine ⟨between, merged, merge_eq_ok.mpr ⟨?_, ?_, ?_⟩⟩
    · exact (apart_of_merge_iff merged).mpr ⟨firstApart third (by simp), secondApart⟩
    · rw [resources, (entries_of_merge_eq_ok merged).1, List.append_assoc]
    · rw [outputs, (entries_of_merge_eq_ok merged).2, List.append_assoc]

theorem merge_right_eq_ok : (second.merge third >>= fun between => first.merge between) = .ok larger ↔
    JoinOf first second third larger := by
  rw [bind_eq_ok, JoinOf, List.pairwise_cons, List.pairwise_pair]
  constructor
  · rintro ⟨between, merged, joined⟩
    obtain ⟨apart, resources, outputs⟩ := merge_eq_ok.mp merged
    obtain ⟨rest, allResources, allOutputs⟩ := merge_eq_ok.mp joined
    obtain ⟨secondApart, thirdApart⟩ := (apart_of_merge_iff merged).mp rest.symm
    refine ⟨⟨by simp [secondApart.symm, thirdApart.symm], apart⟩, ?_, ?_⟩
    · rw [allResources, resources]
    · rw [allOutputs, outputs]
  · rintro ⟨⟨firstApart, apart⟩, resources, outputs⟩
    obtain ⟨between, merged⟩ := exists_merge_iff.mpr apart
    refine ⟨between, merged, merge_eq_ok.mpr ⟨?_, ?_, ?_⟩⟩
    · exact ((apart_of_merge_iff merged).mpr
        ⟨(firstApart second (by simp)).symm, (firstApart third (by simp)).symm⟩).symm
    · rw [resources, (entries_of_merge_eq_ok merged).1]
    · rw [outputs, (entries_of_merge_eq_ok merged).2]

end Nested

/-- Merging puts one template behind the other if they have no key in common, and is refused at the first
entry whose key is taken if they have. The empty template changes nothing on either side, and of three
templates any two neighbours may be merged first. -/
theorem merge_laws (first second third : Template) :
    ((∃ larger, first.merge second = .ok larger) ↔ first.Apart second) ∧
    (∀ larger, first.merge second = .ok larger ↔ first.Apart second ∧
      larger.resources.entries = first.resources.entries ++ second.resources.entries ∧
        larger.outputs.entries = first.outputs.entries ++ second.outputs.entries) ∧
    (∀ larger, first.mergeUntilRefused second = (larger, none) ↔ first.merge second = .ok larger) ∧
    (∀ reason, (∃ left, first.mergeUntilRefused second = (left, some reason)) ↔
      first.merge second = .error reason) ∧
    (∀ left reason, first.mergeUntilRefused second = (left, some reason) ↔
      ∃ before declaration, StopsAt first second left reason before declaration) ∧
    empty.merge first = .ok first ∧ first.merge empty = .ok first ∧
    (∀ larger, (first.merge second >>= fun between => between.merge third) = .ok larger ↔
      (second.merge third >>= fun between => first.merge between) = .ok larger) := by
  refine ⟨exists_merge_iff, fun _ => merge_eq_ok, fun _ => declareUntilRefused_eq_none, ?_, ?_, merge_empty first,
    rfl, ?_⟩
  · intro reason
    exact merge_eq_error.symm
  · intro left reason
    exact mergeUntilRefused_eq_some
  · intro larger
    rw [merge_left_eq_ok, merge_right_eq_ok]

end ClusterStack.Template
