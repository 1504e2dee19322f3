import ClusterStack.Proofs.Service.Settled
import ClusterStack.Proofs.Spec.Validity

/-!
# Services and their descriptions

A service is settled exactly if its description is valid, and then has the name, the routing and the
listeners that are described.
-/

set_option autoImplicit false

namespace ClusterStack

variable {deployment : Deployment}

namespace Listener

variable {owner : ListenerOwner} {index : Nat} {spec : ListenerSpec}

/-- The port and the protocol with which a settled listener asks for the load balancer. -/
def demand? (listener : Listener) : Option (UInt16 × AlbProtocol) :=
  listener.protocol.map (listener.port, ·)

theorem exists_resolve_iff :
    (∃ listener, resolve deployment owner index spec = .ok listener) ↔
      (owner.albDisabled = false → spec.albProtocol = some .https →
        spec.certificateArns.getD [] ≠ []) := by
  simp only [resolve]
  split
  · rename_i unsecured
    simp only [Bool.and_eq_true, Bool.not_eq_true', beq_iff_eq, List.isEmpty_iff] at unsecured
    obtain ⟨⟨⟨enabled, -⟩, secure⟩, missing⟩ := unsecured
    constructor
    · rintro ⟨_, impossible⟩
      cases impossible
    · intro certificates
      exact absurd missing (certificates enabled secure)
  · rename_i secured
    refine ⟨fun _ enabled secure missing => secured ?_, fun _ => ⟨_, rfl⟩⟩
    rw [enabled, secure, missing]
    rfl

theorem fields_of_resolve {listener : Listener}
    (resolved : resolve deployment owner index spec = .ok listener) :
    listener.protocol = spec.albProtocol ∧ listener.port = resolvePort owner index spec := by
  simp only [resolve] at resolved
  split at resolved
  · cases resolved
  · cases resolved
    exact ⟨rfl, rfl⟩

theorem demand?_of_resolve {listener : Listener}
    (resolved : resolve deployment owner index spec = .ok listener) :
    listener.demand? = spec.demand? := by
  obtain ⟨protocol, port⟩ := fields_of_resolve resolved
  rw [demand?, ListenerSpec.demand?, protocol, port]
  cases given : spec.port <;> cases declared : spec.albProtocol <;> simp [resolvePort, given, declared]

/-- What a settled listener has from its description. -/
structure Describes (spec : ListenerSpec) (listener : Listener) : Prop where
  demand : listener.demand? = spec.demand?
  protocol : listener.protocol = spec.albProtocol
  containerPort : listener.containerPort = spec.containerPort.getD listener.port
  certificateArns : listener.certificateArns = spec.certificateArns.getD []
  authorizer : listener.authorizer = spec.authorizer

theorem describes_of_resolve {listener : Listener}
    (resolved : resolve deployment owner index spec = .ok listener) :
    listener.Describes spec := by
  have demand := demand?_of_resolve resolved
  simp only [resolve] at resolved
  split at resolved
  · cases resolved
  · cases resolved
    exact ⟨demand, rfl, rfl, rfl, rfl⟩

end Listener

namespace Scaling

theorem exists_resolve_iff {serviceName : String} {spec : AutoScaleSpec} :
    (∃ scaling, resolve serviceName spec = .ok scaling) ↔
      (spec.scaleIn.isNone = true → spec.scaleOut.isNone = true →
        spec.metric.isSome = true ∧ spec.targetValue.isSome = true) := by
  have policies : (∃ scaling, resolve serviceName spec = .ok scaling) ↔
      ∃ policy, resolvePolicy serviceName spec = .ok policy := by
    simp only [resolve, map_eq_ok]
    constructor
    · rintro ⟨_, policy, resolved, _⟩
      exact ⟨policy, resolved⟩
    · rintro ⟨policy, resolved⟩
      exact ⟨_, policy, resolved, rfl⟩
  rw [policies, resolvePolicy]
  cases scaleIn : spec.scaleIn <;> cases scaleOut : spec.scaleOut <;> cases metric : spec.metric <;>
    cases targetValue : spec.targetValue <;> simp

end Scaling

namespace Service

variable {clusterPrefix : String} {albDisabled : Bool} {spec : ServiceSpec}

theorem exists_resolveToken_iff :
    (∃ token, resolveToken spec = .ok token) ↔ normalizeName spec.name ≠ "" := by
  simp only [resolveToken]
  split
  · rename_i empty
    simp [String.isEmpty_iff.mp empty]
  · rename_i nonempty
    simp only [Except.ok.injEq, exists_eq', true_iff]
    exact fun empty => nonempty (String.isEmpty_iff.mpr empty)

theorem exists_resolveImage_iff :
    (∃ image, resolveImage spec = .ok image) ↔
      spec.image.isSome = true ∨ spec.imageRepository.isSome = true := by
  unfold resolveImage
  cases spec.image <;> cases spec.imageRepository <;> cases spec.imageTag <;> simp

theorem resolveListeners_eq_ok {owner : ListenerOwner} {listeners : List Listener} :
    resolveListeners deployment owner spec = .ok listeners ↔
      List.Forall₂ (fun entry listener =>
        Listener.resolve deployment owner entry.2 entry.1 = .ok listener)
          spec.listeners.zipIdx listeners :=
  mapM_eq_ok

theorem exists_resolveListeners_iff {owner : ListenerOwner} :
    (∃ listeners, resolveListeners deployment owner spec = .ok listeners) ↔
      (owner.albDisabled = false → ∀ listener ∈ spec.listeners,
        listener.albProtocol = some .https → listener.certificateArns.getD [] ≠ []) := by
  rw [resolveListeners, exists_mapM_eq_ok]
  simp only [Prod.forall, Listener.exists_resolve_iff]
  constructor
  · intro each enabled listener member
    obtain ⟨index, bound, rfl⟩ := List.mem_iff_getElem.mp member
    exact each _ index (List.mem_zipIdx_iff_getElem?.mpr (by simp [bound])) enabled
  · intro each listener index member enabled
    exact each enabled listener (List.fst_mem_of_mem_zipIdx member)

theorem ports_of_resolveListeners {listeners : List Listener} {token : String}
    (resolved : resolveListeners deployment (owner clusterPrefix token albDisabled spec) spec =
      .ok listeners) : listeners.map (·.port) = spec.ports clusterPrefix := by
  refine map_eq_of_forall₂ (resolveListeners_eq_ok.mp resolved) fun entry _ listener settles => ?_
  rw [(Listener.fields_of_resolve settles).2]
  rfl

theorem demands_of_resolveListeners {owner : ListenerOwner} {listeners : List Listener}
    (resolved : resolveListeners deployment owner spec = .ok listeners) :
    listeners.filterMap (·.demand?) = spec.demands := by
  have each : listeners.map (·.demand?) = spec.listeners.zipIdx.map fun entry => entry.1.demand? :=
    map_eq_of_forall₂ (resolveListeners_eq_ok.mp resolved)
      fun entry _ listener settles => Listener.demand?_of_resolve settles
  calc listeners.filterMap (·.demand?)
      = (listeners.map (·.demand?)).filterMap id := by rw [List.filterMap_map]; rfl
    _ = ((spec.listeners.zipIdx.map Prod.fst).map (·.demand?)).filterMap id := by
      rw [each, List.map_map]; rfl
    _ = spec.demands := by rw [List.zipIdx_map_fst, List.filterMap_map]; rfl

theorem checkPorts_eq_ok {listeners : List Listener} :
    checkPorts spec listeners = .ok () ↔ (listeners.map (·.port)).Nodup := by
  unfold checkPorts
  cases found : repeatedPort? [] (listeners.map (·.port)) with
  | none => simp [(repeatedPort?_eq_none.mp found).1]
  | some port =>
    have twice : ¬(listeners.map (·.port)).Nodup := by
      intro distinct
      rw [repeatedPort?_eq_none.mpr ⟨distinct, by simp⟩] at found
      cases found
    simp [twice]

/-- A service is settled exactly if its description is valid. -/
theorem exists_resolve_iff :
    (∃ service, resolve deployment clusterPrefix albDisabled spec = .ok service) ↔
      spec.IsValid clusterPrefix albDisabled := by
  simp only [resolve, bind_eq_ok, optionMapM_eq_ok]
  constructor
  · rintro ⟨service, token, tokenResolved, image, imageResolved, listeners, listenersResolved, _,
      portsChecked, scaling, scalingResolved, _⟩
    refine ⟨exists_resolveToken_iff.mp ⟨token, tokenResolved⟩,
      exists_resolveImage_iff.mp ⟨image, imageResolved⟩, ?_,
      exists_resolveListeners_iff.mp ⟨listeners, listenersResolved⟩, ?_⟩
    · rw [← ports_of_resolveListeners listenersResolved]
      exact checkPorts_eq_ok.mp portsChecked
    · intro scale described
      rcases scalingResolved with ⟨absent, -⟩ | ⟨other, scaling, given, resolved, -⟩
      · rw [absent] at described
        cases described
      · obtain rfl : other = scale := Option.some.inj (given.symm.trans described)
        exact Scaling.exists_resolve_iff.mp ⟨scaling, resolved⟩
  · intro valid
    obtain ⟨token, tokenResolved⟩ := exists_resolveToken_iff.mpr valid.name
    obtain ⟨image, imageResolved⟩ := exists_resolveImage_iff.mpr valid.image
    obtain ⟨listeners, listenersResolved⟩ : ∃ listeners, resolveListeners deployment
        (owner clusterPrefix token albDisabled spec) spec = .ok listeners :=
      exists_resolveListeners_iff.mpr valid.certificates
    have portsChecked : checkPorts spec listeners = .ok () := by
      rw [checkPorts_eq_ok, ports_of_resolveListeners listenersResolved]
      exact valid.ports
    cases described : spec.autoScale with
    | none =>
      exact ⟨_, token, tokenResolved, image, imageResolved, listeners, listenersResolved, (),
        portsChecked, none, .inl ⟨rfl, rfl⟩, rfl⟩
    | some scale =>
      obtain ⟨scaling, scalingResolved⟩ :=
        Scaling.exists_resolve_iff.mpr (valid.scaling scale described)
      exact ⟨_, token, tokenResolved, image, imageResolved, listeners, listenersResolved, (),
        portsChecked, some scaling, .inr ⟨scale, scaling, rfl, scalingResolved, rfl⟩, rfl⟩

/-- What a settled service has from its description. -/
structure Describes (clusterPrefix : String) (spec : ServiceSpec) (service : Service) : Prop where
  given : service.spec = spec
  token : service.token = normalizeName spec.name
  servicePrefix : service.servicePrefix = clusterPrefix ++ normalizeName spec.name
  routing : service.routing = .ofSpec spec
  demands : service.listeners.filterMap (·.demand?) = spec.demands

theorem describes_of_resolve {service : Service}
    (resolved : resolve deployment clusterPrefix albDisabled spec = .ok service) :
    service.Describes clusterPrefix spec := by
  simp only [resolve, bind_eq_ok] at resolved
  obtain ⟨token, tokenResolved, image, -, listeners, listenersResolved, _, -, scaling, -, made⟩ :=
    resolved
  obtain rfl := Except.ok.inj made
  obtain ⟨rfl, -⟩ := resolveToken_eq_ok tokenResolved
  exact ⟨rfl, rfl, rfl, rfl, demands_of_resolveListeners listenersResolved⟩

theorem listeners_of_resolve {service : Service}
    (resolved : resolve deployment clusterPrefix albDisabled spec = .ok service) :
    List.Forall₂ (fun given listener => listener.Describes given) spec.listeners service.listeners := by
  simp only [resolve, bind_eq_ok] at resolved
  obtain ⟨token, -, image, -, listeners, listenersResolved, _, -, scaling, -, made⟩ := resolved
  obtain rfl := Except.ok.inj made
  have each := (resolveListeners_eq_ok.mp listenersResolved).imp fun entry listener settles =>
    Listener.describes_of_resolve settles
  have places := List.forall₂_map_left_iff.mpr each
  rwa [List.zipIdx_map_fst] at places

/-- Unless there is no load balancer, the listeners that ask for it are attached. -/
theorem length_attachedListeners {service : Service}
    (settled : service.Settled deployment clusterPrefix albDisabled)
    (describes : service.Describes clusterPrefix spec) :
    service.attachedListeners.length = if albDisabled then 0 else spec.demands.length := by
  rw [← describes.demands, List.length_filterMap_eq_countP, attachedListeners, ← List.countP_eq_length_filter]
  cases albDisabled with
  | true =>
    refine List.countP_eq_zero.mpr fun listener listed => ?_
    simp [(settled.listeners listener listed).isAttached]
  | false =>
    refine List.countP_congr fun listener listed => ?_
    simp [(settled.listeners listener listed).isAttached, Listener.demand?]

theorem hasAttachedListener_iff {service : Service} :
    service.hasAttachedListener = true ↔ service.attachedListeners.length ≠ 0 := by
  simp [hasAttachedListener, attachedListeners]

end Service

end ClusterStack
