import Mathlib.Data.List.Forall2

/-!
# Outcomes of computations

A computation that may be refused, taken apart: what its success or its refusal says about the
steps that it is made of.
-/

set_option autoImplicit false

namespace ClusterStack

universe u

variable {α β ε : Type u}

theorem pure_eq_ok {value result : α} :
    (pure value : Except ε α) = .ok result ↔ result = value := by
  simp [pure, Except.pure, eq_comm]

theorem bind_eq_ok {computation : Except ε α} {next : α → Except ε β} {result : β} :
    (computation >>= next) = .ok result ↔
      ∃ value, computation = .ok value ∧ next value = .ok result := by
  cases computation with
  | error reason => simp [bind, Except.bind]
  | ok value => simp [bind, Except.bind]

theorem bind_eq_error {computation : Except ε α} {next : α → Except ε β} {reason : ε} :
    (computation >>= next) = .error reason ↔
      computation = .error reason ∨
        ∃ value, computation = .ok value ∧ next value = .error reason := by
  cases computation with
  | error other => simp [bind, Except.bind]
  | ok value => simp [bind, Except.bind]

theorem map_eq_ok {computation : Except ε α} {f : α → β} {result : β} :
    computation.map f = .ok result ↔ ∃ value, computation = .ok value ∧ f value = result := by
  cases computation with
  | error reason => simp [Except.map]
  | ok value => simp [Except.map]

theorem map_bind {γ : Type u} {f : β → γ} {computation : Except ε α} {next : α → Except ε β} :
    (computation >>= next).map f = computation >>= fun value => (next value).map f := by
  cases computation <;> rfl

theorem bind_map {γ : Type u} {f : α → β} {computation : Except ε α} {next : β → Except ε γ} :
    computation.map f >>= next = computation >>= fun value => next (f value) := by
  cases computation <;> rfl

theorem mapError_eq_ok {ζ : Type u} {f : ε → ζ} {computation : Except ε α} {value : α} :
    computation.mapError f = .ok value ↔ computation = .ok value := by
  cases computation <;> simp [Except.mapError]

theorem map_eq_error {computation : Except ε α} {f : α → β} {reason : ε} :
    computation.map f = .error reason ↔ computation = .error reason := by
  cases computation with
  | error other => simp [Except.map]
  | ok value => simp [Except.map]

theorem mapM_eq_ok {f : α → Except ε β} {items : List α} {results : List β} :
    items.mapM f = .ok results ↔ List.Forall₂ (fun item result => f item = .ok result) items results := by
  induction items generalizing results with
  | nil =>
    simp only [List.mapM_nil, List.forall₂_nil_left_iff]
    constructor
    · intro accepted
      cases accepted
      rfl
    · rintro rfl
      rfl
  | cons item rest ih =>
    simp only [List.mapM_cons, bind_eq_ok]
    constructor
    · rintro ⟨result, first, others, more, accepted⟩
      cases accepted
      exact .cons first (ih.mp more)
    · intro related
      cases related with
      | cons first more => exact ⟨_, first, _, ih.mpr more, rfl⟩

theorem mapM_eq_error {f : α → Except ε β} {items : List α} {reason : ε}
    (refused : items.mapM f = .error reason) : ∃ item ∈ items, f item = .error reason := by
  induction items with
  | nil => cases refused
  | cons item rest ih =>
    simp only [List.mapM_cons, bind_eq_error] at refused
    rcases refused with first | ⟨result, _, more | ⟨others, _, impossible⟩⟩
    · exact ⟨item, List.mem_cons_self, first⟩
    · obtain ⟨other, member, failed⟩ := ih more
      exact ⟨other, List.mem_cons_of_mem _ member, failed⟩
    · cases impossible

theorem forM_eq_error {f : α → Except ε PUnit.{u + 1}} {items : List α} {reason : ε}
    (refused : items.forM f = .error reason) : ∃ item ∈ items, f item = .error reason := by
  induction items with
  | nil => cases refused
  | cons item rest ih =>
    rw [List.forM_eq_forM, List.forM_cons, bind_eq_error] at refused
    rcases refused with first | ⟨_, -, more⟩
    · exact ⟨item, List.mem_cons_self, first⟩
    · obtain ⟨other, member, failed⟩ := ih more
      exact ⟨other, List.mem_cons_of_mem _ member, failed⟩

theorem mapM_congr {f g : α → Except ε β} {items : List α} (each : ∀ item ∈ items, f item = g item) :
    items.mapM f = items.mapM g := by
  induction items with
  | nil => rfl
  | cons first rest ih =>
    rw [List.mapM_cons, List.mapM_cons, each first (.head _), ih fun item member => each item (.tail _ member)]

/-- Where to prepare an item is to adapt its result, to prepare all of them is to adapt all results. -/
theorem mapM_map_adapt {γ δ : Type u} {f : α → Except ε β} {g : γ → Except ε δ} {prepare : α → γ}
    {adapt : β → δ} {items : List α} (each : ∀ item ∈ items, g (prepare item) = (f item).map adapt) :
    (items.map prepare).mapM g = (items.mapM f).map (List.map adapt) := by
  induction items with
  | nil => rfl
  | cons first rest ih =>
    rw [List.map_cons, List.mapM_cons, List.mapM_cons, each first (.head _),
      ih fun item member => each item (.tail _ member)]
    cases f first with
    | error _ => rfl
    | ok _ => cases rest.mapM f <;> rfl

theorem optionMapM_some (f : α → Except ε β) (item : α) :
    (some item).mapM f = (f item).map some := rfl

theorem optionMapM_eq_ok {f : α → Except ε β} {content : Option α} {result : Option β} :
    content.mapM f = .ok result ↔ (content = none ∧ result = none) ∨
      ∃ item value, content = some item ∧ f item = .ok value ∧ result = some value := by
  cases content with
  | none =>
    have empty : (none : Option α).mapM f = pure none := rfl
    simp [empty, pure_eq_ok]
  | some item =>
    rw [optionMapM_some, map_eq_ok]
    simp [eq_comm]

theorem optionMapM_eq_error {f : α → Except ε β} {content : Option α} {reason : ε}
    (refused : content.mapM f = .error reason) :
    ∃ item, content = some item ∧ f item = .error reason := by
  cases content with
  | none => cases refused
  | some item =>
    rw [optionMapM_some, map_eq_error] at refused
    exact ⟨item, rfl, refused⟩

/-- A run is refused at some item, in the state that the items before it lead to. -/
theorem foldlM_eq_error {f : β → α → Except ε β} {items : List α} {start : β} {reason : ε} :
    items.foldlM f start = .error reason ↔
      ∃ before item after state, items = before ++ item :: after ∧
        before.foldlM f start = .ok state ∧ f state item = .error reason := by
  induction items generalizing start with
  | nil =>
    constructor
    · intro refused
      cases refused
    · rintro ⟨before, item, after, state, split, _⟩
      simp at split
  | cons first rest ih =>
    simp only [List.foldlM_cons, bind_eq_error]
    constructor
    · rintro (refused | ⟨state, stepped, refused⟩)
      · exact ⟨[], first, rest, start, rfl, rfl, refused⟩
      · obtain ⟨before, item, after, final, rfl, ran, failed⟩ := ih.mp refused
        refine ⟨first :: before, item, after, final, rfl, ?_, failed⟩
        rw [List.foldlM_cons, bind_eq_ok]
        exact ⟨state, stepped, ran⟩
    · rintro ⟨before, item, after, final, split, ran, failed⟩
      cases before with
      | nil =>
        cases ran
        cases split
        exact .inl failed
      | cons head before =>
        cases split
        rw [List.foldlM_cons, bind_eq_ok] at ran
        obtain ⟨state, stepped, ran⟩ := ran
        exact .inr ⟨state, stepped, ih.mpr ⟨before, item, after, final, rfl, ran, failed⟩⟩

/-- A run that succeeds keeps what holds at its start and is preserved by every step, told of the
items that have been taken so far. -/
theorem foldlM_preserves {f : β → α → Except ε β} {items : List α} {start final : β}
    (ran : items.foldlM f start = .ok final) (invariant : List α → β → Prop)
    (initially : invariant [] start)
    (step : ∀ before item state next, before ++ [item] <+: items → invariant before state →
      f state item = .ok next → invariant (before ++ [item]) next) : invariant items final := by
  have loop : ∀ rest before state, before ++ rest = items → invariant before state →
      rest.foldlM f state = .ok final → invariant items final := by
    intro rest
    induction rest with
    | nil =>
      intro before state split valid ran
      cases ran
      simpa [← split] using valid
    | cons item rest ih =>
      intro before state split valid ran
      rw [List.foldlM_cons, bind_eq_ok] at ran
      obtain ⟨next, stepped, ran⟩ := ran
      have split : (before ++ [item]) ++ rest = items := by simpa using split
      exact ih (before ++ [item]) next split (step before item state next ⟨rest, split⟩ valid stepped) ran
  exact loop items [] start rfl initially ran

/-- Where every step adapts the state, so does the whole run. -/
theorem foldlM_adapt {γ : Type u} {f : β → α → Except ε β} {g : γ → α → Except ε γ} {adapt : β → γ}
    {items : List α} {start : β} {adapted : γ} (initially : adapt start = adapted)
    (each : ∀ item ∈ items, ∀ state, g (adapt state) item = (f state item).map adapt) :
    items.foldlM g adapted = (items.foldlM f start).map adapt := by
  subst initially
  induction items generalizing start with
  | nil => rfl
  | cons first rest ih =>
    rw [List.foldlM_cons, List.foldlM_cons, each first (.head _)]
    cases f start first with
    | error _ => rfl
    | ok next => exact ih fun item member => each item (.tail _ member)

theorem exists_of_forall₂_left {relation : α → β → Prop} {items : List α} {results : List β}
    (related : List.Forall₂ relation items results) {item : α} (member : item ∈ items) :
    ∃ result ∈ results, relation item result := by
  induction related with
  | nil => cases member
  | cons first _ ih =>
    rcases List.mem_cons.mp member with rfl | member
    · exact ⟨_, List.mem_cons_self, first⟩
    · obtain ⟨result, found, holds⟩ := ih member
      exact ⟨result, List.mem_cons_of_mem _ found, holds⟩

theorem exists_of_forall₂_right {relation : α → β → Prop} {items : List α} {results : List β}
    (related : List.Forall₂ relation items results) {result : β} (member : result ∈ results) :
    ∃ item ∈ items, relation item result :=
  exists_of_forall₂_left related.flip member

theorem map_eq_of_forall₂ {γ : Type u} {relation : α → β → Prop} {items : List α} {results : List β}
    (related : List.Forall₂ relation items results) {f : α → γ} {g : β → γ}
    (same : ∀ item ∈ items, ∀ result, relation item result → g result = f item) :
    results.map g = items.map f := by
  induction related with
  | nil => rfl
  | cons first _ ih =>
    rw [List.map_cons, List.map_cons, same _ (.head _) _ first, ih fun item member => same item (.tail _ member)]

theorem find?_of_forall₂ {relation : α → β → Prop} {items : List α} {results : List β}
    (related : List.Forall₂ relation items results) {p : α → Bool} {q : β → Bool}
    (agree : ∀ item result, relation item result → p item = q result) {result : β}
    (found : results.find? q = some result) : ∃ item, items.find? p = some item ∧ relation item result := by
  induction related with
  | nil => cases found
  | cons first _ ih =>
    rw [List.find?_cons] at found ⊢
    rw [agree _ _ first]
    split at found
    · cases found
      exact ⟨_, rfl, first⟩
    · exact ih found

theorem exists_mapM_eq_ok {f : α → Except ε β} {items : List α} :
    (∃ results, items.mapM f = .ok results) ↔ ∀ item ∈ items, ∃ result, f item = .ok result := by
  constructor
  · rintro ⟨results, accepted⟩ item member
    obtain ⟨result, -, holds⟩ := exists_of_forall₂_left (mapM_eq_ok.mp accepted) member
    exact ⟨result, holds⟩
  · intro each
    cases outcome : items.mapM f with
    | ok results => exact ⟨results, rfl⟩
    | error reason =>
      obtain ⟨item, member, failed⟩ := mapM_eq_error outcome
      obtain ⟨result, accepted⟩ := each item member
      rw [failed] at accepted
      cases accepted

theorem forM_eq_ok {f : α → Except ε PUnit.{u + 1}} {items : List α} :
    items.forM f = .ok ⟨⟩ ↔ ∀ item ∈ items, f item = .ok ⟨⟩ := by
  induction items with
  | nil => simp [List.forM_eq_forM, pure, Except.pure]
  | cons item rest ih =>
    rw [List.forM_eq_forM, List.forM_cons, bind_eq_ok, List.forall_mem_cons]
    constructor
    · rintro ⟨_, first, more⟩
      exact ⟨first, ih.mp more⟩
    · rintro ⟨first, more⟩
      exact ⟨⟨⟩, first, ih.mpr more⟩

theorem toOption_eq_some {computation : Except ε α} {value : α} :
    computation.toOption = some value ↔ computation = .ok value := by
  cases computation with
  | ok _ => exact ⟨fun same => congrArg Except.ok (Option.some.inj same), fun same => congrArg _ same⟩
  | error _ => exact ⟨nofun, nofun⟩

theorem toOption_bind (computation : Except ε α) (next : α → Except ε β) :
    (computation >>= next).toOption = computation.toOption.bind fun value => (next value).toOption := by
  cases computation <;> rfl

theorem toOption_map (computation : Except ε α) (f : α → β) :
    (computation.map f).toOption = computation.toOption.map f := by
  cases computation <;> rfl

theorem toOption_mapM (f : α → Except ε β) (items : List α) :
    (items.mapM f).toOption = items.mapM fun item => (f item).toOption := by
  induction items with
  | nil => rfl
  | cons first rest ih =>
    simp only [List.mapM_cons, toOption_bind, ih]
    rfl

/-- The computation succeeds, and its result passes a check. -/
def passes (check : α → Bool) : Except ε α → Bool
  | .ok result => check result
  | .error _ => false

theorem exists_of_passes {check : α → Bool} {computation : Except ε α}
    (passed : passes check computation = true) :
    ∃ result, computation = .ok result ∧ check result = true := by
  cases computation with
  | ok result => exact ⟨result, rfl, passed⟩
  | error _ => cases passed

theorem exists_of_isOk {computation : Except ε α} (succeeds : computation.isOk = true) :
    ∃ result, computation = .ok result := by
  cases computation with
  | ok result => exact ⟨result, rfl⟩
  | error _ => cases succeeds

/-- The computation is refused for this reason. -/
def refusedFor [DecidableEq ε] (reason : ε) : Except ε α → Bool
  | .ok _ => false
  | .error other => other = reason

theorem eq_error_of_refusedFor [DecidableEq ε] {reason : ε} {computation : Except ε α}
    (refused : refusedFor reason computation = true) : computation = .error reason := by
  cases computation with
  | ok _ => cases refused
  | error other => rw [of_decide_eq_true refused]

end ClusterStack
