import ClusterStack.Proofs.Cluster.Keys
import ClusterStack.Proofs.Service.Described
import ClusterStack.Proofs.Spec.Inventory

/-!
# Inventories of services

The kinds of the resources that a service declares, part by part: they are those that its description
asks for.
-/

set_option autoImplicit false

namespace ClusterStack

open Declaration (owned?)

namespace Declaration

/-- The kind of the resource that is declared, unless it is shared. -/
def ownKind? (declaration : Declaration) : Option ResourceKind :=
  declaration.owned?.map (·.2.kind)

def kindsOf (declarations : List Declaration) : List ResourceKind :=
  declarations.filterMap ownKind?

theorem map_kind_owned (declarations : List Declaration) :
    (declarations.filterMap owned?).map (·.2.kind) = kindsOf declarations := by
  rw [List.map_filterMap]
  rfl

theorem kindsOf_append (front back : List Declaration) :
    kindsOf (front ++ back) = kindsOf front ++ kindsOf back :=
  List.filterMap_append

theorem kindsOf_flatten (parts : List (List Declaration)) :
    kindsOf parts.flatten = (parts.map kindsOf).flatten :=
  List.filterMap_flatten

theorem kindsOf_flatten_of_forall {parts : List (List Declaration)} {kinds : List ResourceKind}
    (alike : ∀ part ∈ parts, kindsOf part = kinds) :
    kindsOf parts.flatten = repeatKinds parts.length kinds := by
  rw [kindsOf_flatten, repeatKinds, List.map_congr_left alike, List.map_const']

theorem kindsOf_flatMap_of_forall {α : Type} {items : List α} {declare : α → List Declaration}
    {kinds : List ResourceKind} (alike : ∀ item ∈ items, kindsOf (declare item) = kinds) :
    kindsOf (items.flatMap declare) = repeatKinds items.length kinds := by
  rw [List.flatMap_def, kindsOf_flatten_of_forall, List.length_map]
  intro part member
  obtain ⟨item, listed, rfl⟩ := List.mem_map.mp member
  exact alike item listed

theorem kindsOf_of_forall {declarations : List Declaration} {kind : ResourceKind}
    (alike : ∀ declaration ∈ declarations, declaration.ownKind? = some kind) :
    kindsOf declarations = repeatKinds declarations.length [kind] := by
  induction declarations with
  | nil => rfl
  | cons first rest ih =>
    rw [kindsOf, List.filterMap_cons_some (alike first (.head _)), List.length_cons, repeatKinds,
      List.replicate_succ, List.flatten_cons]
    exact congrArg _ (ih fun declaration member => alike declaration (.tail _ member))

theorem kindsOf_eq_nil {declarations : List Declaration}
    (none : ∀ declaration ∈ declarations, declaration.ownKind? = none) : kindsOf declarations = [] :=
  List.filterMap_eq_nil_iff.mpr none

end Declaration

open Declaration (kindsOf ownKind?)

variable {deployment : Deployment}

namespace Scaling

variable {spec : AutoScaleSpec} {scaling : Scaling} {serviceName : String}

theorem isSome_or_isSome_iff :
    (spec.scaleIn.isSome || spec.scaleOut.isSome) = true ↔ spec.directions ≠ 0 := by
  cases scaleIn : spec.scaleIn <;> cases scaleOut : spec.scaleOut <;>
    simp [AutoScaleSpec.directions, scaleIn, scaleOut]

/-- Scaling has the steps that are described, or it tracks a metric. -/
theorem steps_or_tracking (resolved : resolve serviceName spec = .ok scaling) :
    (spec.directions ≠ 0 ∧ scaling.policy = .steps spec.scaleIn spec.scaleOut) ∨
      (spec.directions = 0 ∧ ∃ metric targetValue cooldownIn cooldownOut,
        scaling.policy = .targetTracking metric targetValue cooldownIn cooldownOut) := by
  obtain ⟨policy, policyResolved, rfl⟩ := map_eq_ok.mp resolved
  simp only [resolvePolicy, isSome_or_isSome_iff] at policyResolved
  split at policyResolved
  · rename_i steps
    exact .inl ⟨steps, (Except.ok.inj policyResolved).symm⟩
  · rename_i tracking
    split at policyResolved
    · cases policyResolved
    · cases policyResolved
    · cases policyResolved
      exact .inr ⟨not_not.mp tracking, _, _, _, _, rfl⟩

theorem kindsOf_declarations (resolved : resolve serviceName spec = .ok scaling) (scope : ScalingScope) :
    kindsOf (scaling.declarations scope) = spec.kinds := by
  rcases steps_or_tracking resolved with ⟨steps, policy⟩ | ⟨tracking, metric, targetValue, cooldownIn,
    cooldownOut, policy⟩
  · have length : scaling.steps.length = spec.directions := by
      simp [Scaling.steps, policy, AutoScaleSpec.directions]
    have each : kindsOf (scaling.steps.flatMap scope.stepDeclarations) =
        repeatKinds scaling.steps.length [.scalingPolicy, .alarm] :=
      Declaration.kindsOf_flatMap_of_forall fun step _ => rfl
    rw [AutoScaleSpec.kinds, if_neg steps, declarations, policy, ← length, ← each]
    rfl
  · rw [AutoScaleSpec.kinds, if_pos tracking, declarations, policy]
    rfl

end Scaling

theorem Routing.length_rules (spec : ServiceSpec) : (Routing.ofSpec spec).rules.length = spec.ruleCount := by
  rw [Routing.ofSpec, Routing.rulesOfSpec, ServiceSpec.ruleCount]
  cases spec.path with
  | none => rfl
  | some path =>
    cases path with
    | single _ => rfl
    | rules rules => exact List.length_map _

namespace Service

variable {clusterPrefix : String} {albDisabled : Bool} {spec : ServiceSpec} {service : Service}
  {scope : ServiceScope}

theorem kindsOf_coreDeclarations : kindsOf (service.coreDeclarations scope) =
    [.ecsService, .ecsTaskDefinition, .logGroup] ++
      repeatKinds service.spec.schedulerRate.toList.length [.eventsRule] := by
  rw [coreDeclarations, Declaration.kindsOf_append]
  cases service.spec.schedulerRate <;> rfl

theorem kindsOf_listenerDeclarations {listener : Listener} (attached : listener.isAttached = true)
    {part : List Declaration} (declared : service.listenerDeclarations scope listener = .ok part) :
    kindsOf part = repeatKinds service.routing.rules.length [.listenerRule] ++ [.targetGroup] := by
  obtain ⟨arn, -, rfl⟩ := listenerDeclarations_eq_ok.mp declared
  rw [Declaration.kindsOf_append, Declaration.kindsOf_of_forall fun declaration member => ?_]
  · rw [Listener.ruleDeclarations, if_pos attached, List.length_mapIdx]
    rfl
  · obtain ⟨-, index, bound, rfl⟩ := Listener.mem_ruleDeclarations.mp member
    rfl

theorem kindsOf_scalingDeclarations (settled : service.Settled deployment clusterPrefix albDisabled) :
    kindsOf (service.scalingDeclarations scope) = service.spec.autoScale.toList.flatMap (·.kinds) := by
  rw [scalingDeclarations]
  rcases optionMapM_eq_ok.mp settled.scaling with ⟨absent, none⟩ | ⟨described, scaling, given, resolved, some⟩
  · rw [absent, none]
    rfl
  · rw [given, some, Option.toList_some, Option.toList_some, List.flatMap_singleton, List.flatMap_singleton]
    exact Scaling.kindsOf_declarations resolved _

theorem kindsOf_declarations (settled : service.Settled deployment clusterPrefix albDisabled)
    (describes : service.Describes clusterPrefix spec) {declarations : List Declaration}
    (declared : service.declarations scope = .ok declarations) :
    kindsOf declarations = spec.kinds albDisabled := by
  obtain ⟨attached, related, rfl⟩ := declarations_eq_ok.mp declared
  have listeners : kindsOf attached.flatten = repeatKinds service.attachedListeners.length
      (repeatKinds spec.ruleCount [.listenerRule] ++ [.targetGroup]) := by
    rw [related.length_eq, ← Routing.length_rules, ← describes.routing]
    refine Declaration.kindsOf_flatten_of_forall fun part listed => ?_
    obtain ⟨listener, member, partDeclared⟩ := exists_of_forall₂_right related listed
    exact kindsOf_listenerDeclarations (mem_attachedListeners.mp member).2 partDeclared
  have role : kindsOf (scope.executionRole.declarations scope.tags) = [] := by
    cases scope.executionRole <;> rfl
  have outputs : kindsOf (service.outputDeclarations scope) = [] := by
    refine Declaration.kindsOf_eq_nil fun declaration member => ?_
    obtain ⟨key, definition, rfl⟩ := service.exists_output_of_mem member
    rfl
  rw [Declaration.kindsOf_append, Declaration.kindsOf_append, Declaration.kindsOf_append,
    Declaration.kindsOf_append, kindsOf_coreDeclarations, listeners, kindsOf_scalingDeclarations settled,
    role, outputs, length_attachedListeners settled describes, describes.given, List.append_nil,
    List.append_nil, ServiceSpec.kinds]

theorem length_outputLabels (settled : service.Settled deployment clusterPrefix albDisabled) :
    (service.listeners.flatMap (Listener.outputLabels service.servicePrefix)).length =
      service.attachedListeners.length := by
  have listeners := settled.listeners
  rw [attachedListeners]
  generalize service.listeners = listed at listeners
  induction listed with
  | nil => rfl
  | cons listener rest ih =>
    have more := ih fun other member => listeners other (.tail _ member)
    rw [List.flatMap_cons, List.length_append, more, Listener.outputLabels, List.filter_cons]
    cases attached : listener.isAttached with
    | false => simp
    | true =>
      obtain ⟨protocol, declares⟩ := (listeners listener (.head _)).exists_protocol attached
      simp [declares, Nat.add_comm]

end Service

end ClusterStack
