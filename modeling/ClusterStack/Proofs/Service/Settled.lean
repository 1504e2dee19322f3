import ClusterStack.Proofs.Naming.Label
import ClusterStack.Proofs.Outcome
import ClusterStack.Service.Basic

/-!
# Settled services

What holds of every listener and every service that has been settled: its ids are those of its
labels, its ports are distinct, and an attached HTTPS listener has certificates.
-/

set_option autoImplicit false

namespace ClusterStack

variable {deployment : Deployment}

/-- What holds of a settled listener of a service. -/
structure Listener.Settled (deployment : Deployment) (servicePrefix : String) (albDisabled : Bool)
    (listener : Listener) : Prop where
  isAttached : listener.isAttached = (!albDisabled && listener.protocol.isSome)
  targetGroup : listener.targetGroup =
    deployment.idOf ⟨servicePrefix, .targetGroup, .number listener.port.toNat⟩
  ruleName : ∀ protocol, listener.protocol = some protocol → ∀ index, listener.ruleName index =
    deployment.idOf ⟨servicePrefix, .listenerRule, .rule protocol listener.port index⟩
  outputKey : ∀ protocol, listener.protocol = some protocol → listener.outputKey =
    deployment.idOf ⟨servicePrefix, .service, .endpoint protocol listener.port⟩
  certificates : listener.isAttached = true → listener.protocol = some .https →
    listener.certificateArns ≠ []

theorem Listener.settled_of_resolve {owner : ListenerOwner} {index : Nat} {spec : ListenerSpec}
    {listener : Listener} (resolved : Listener.resolve deployment owner index spec = .ok listener) :
    listener.Settled deployment owner.servicePrefix owner.albDisabled := by
  simp only [Listener.resolve] at resolved
  split at resolved
  · cases resolved
  · rename_i secured
    cases resolved
    refine ⟨rfl, rfl, ?_, ?_, ?_⟩
    · intro protocol declared index
      simp only at declared
      simp only [Listener.ruleName, declared, Option.elim, Deployment.idOf, Deployment.numberedId,
        Mark.text, String.append_assoc]
    · intro protocol declared
      simp only at declared
      simp only [declared, Option.elim, Deployment.idOf, Mark.text]
    · intro attached declared missing
      simp only at attached declared missing
      apply secured
      rw [attached, declared, missing]
      rfl

theorem Listener.Settled.exists_protocol {servicePrefix : String} {albDisabled : Bool}
    {listener : Listener} (settled : listener.Settled deployment servicePrefix albDisabled)
    (attached : listener.isAttached = true) : ∃ protocol, listener.protocol = some protocol := by
  rw [settled.isAttached, Bool.and_eq_true] at attached
  exact Option.isSome_iff_exists.mp attached.2

theorem Service.repeatedPort?_eq_none {seen ports : List UInt16} :
    Service.repeatedPort? seen ports = none ↔ ports.Nodup ∧ ∀ port ∈ ports, port ∉ seen := by
  induction ports generalizing seen with
  | nil => simp [Service.repeatedPort?]
  | cons port rest ih =>
    simp only [Service.repeatedPort?, List.contains_eq_mem, decide_eq_true_eq, List.nodup_cons,
      List.forall_mem_cons]
    split
    case isTrue known => simp [known]
    case isFalse new =>
      rw [ih]
      constructor
      · rintro ⟨distinct, fresh⟩
        refine ⟨⟨fun again => ?_, distinct⟩, new, fun other member known => ?_⟩
        · exact fresh port again List.mem_cons_self
        · exact fresh other member (List.mem_cons_of_mem _ known)
      · rintro ⟨⟨once, distinct⟩, -, fresh⟩
        refine ⟨distinct, fun other member known => ?_⟩
        rcases List.mem_cons.mp known with rfl | known
        · exact once member
        · exact fresh other member known

/-- What holds of a settled service of a cluster. -/
structure Service.Settled (deployment : Deployment) (clusterPrefix : String) (albDisabled : Bool)
    (service : Service) : Prop where
  token : service.token ≠ ""
  servicePrefix : service.servicePrefix = clusterPrefix ++ service.token
  logicalId : service.logicalId = deployment.idOf ⟨service.servicePrefix, .service, .single⟩
  taskDefinition : service.taskDefinition =
    deployment.idOf ⟨service.servicePrefix, .taskDefinition, .single⟩
  logGroup : service.logGroup = deployment.idOf ⟨service.servicePrefix, .logGroup, .single⟩
  schedulerRule : service.schedulerRule =
    deployment.idOf ⟨service.servicePrefix, .schedulerRule, .single⟩
  listeners : ∀ listener ∈ service.listeners,
    listener.Settled deployment service.servicePrefix albDisabled
  ports : (service.listeners.map (·.port)).Nodup
  scaling : service.spec.autoScale.mapM (Scaling.resolve service.spec.name) = .ok service.scaling

theorem Service.resolveToken_eq_ok {spec : ServiceSpec} {token : String}
    (resolved : Service.resolveToken spec = .ok token) :
    token = normalizeName spec.name ∧ token ≠ "" := by
  simp only [Service.resolveToken] at resolved
  split at resolved
  · cases resolved
  · rename_i nonempty
    rw [Except.ok.injEq] at resolved
    subst resolved
    refine ⟨rfl, fun empty => nonempty ?_⟩
    rw [empty]
    rfl

theorem Service.settled_of_resolve {clusterPrefix : String} {albDisabled : Bool}
    {spec : ServiceSpec} {service : Service}
    (resolved : Service.resolve deployment clusterPrefix albDisabled spec = .ok service) :
    service.spec = spec ∧ service.Settled deployment clusterPrefix albDisabled := by
  simp only [Service.resolve, bind_eq_ok] at resolved
  obtain ⟨token, tokenResolved, image, -, listeners, listenersResolved, _, portsChecked, scaling,
    scalingResolved, made⟩ := resolved
  obtain rfl := Except.ok.inj made
  refine ⟨rfl, ?_⟩
  exact {
    token := (Service.resolveToken_eq_ok tokenResolved).2
    servicePrefix := rfl
    logicalId := deployment.logicalId_eq_idOf _ _
    taskDefinition := deployment.logicalId_eq_idOf _ _
    logGroup := deployment.logicalId_eq_idOf _ _
    schedulerRule := deployment.logicalId_eq_idOf _ _
    listeners := by
      intro listener member
      obtain ⟨⟨given, index⟩, -, settles⟩ :=
        exists_of_forall₂_right (mapM_eq_ok.mp listenersResolved) member
      exact Listener.settled_of_resolve settles
    ports := by
      simp only [Service.checkPorts] at portsChecked
      split at portsChecked
      · cases portsChecked
      · rename_i distinct
        exact (Service.repeatedPort?_eq_none.mp distinct).1
    scaling := scalingResolved }

end ClusterStack
