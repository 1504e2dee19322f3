import ClusterStack.Proofs.Service.Described
import ClusterStack.Proofs.Spec.Minimal

/-!
# Clashes of ports

A service is refused where two of its listeners have one port. A listener that declares no port, neither
as such nor by its protocol, has one that is derived from its place, and nothing keeps this port apart
from those that are declared: so a service can be refused although its listeners declare distinct ports.
-/

set_option autoImplicit false

namespace ClusterStack

/-- The port that a listener declares: its own, or the default port of its protocol. -/
def ListenerSpec.declaredPort? (spec : ListenerSpec) : Option UInt16 :=
  spec.port.or (spec.albProtocol.map (·.defaultPort))

namespace ServiceSpec

variable {clusterPrefix : String} {spec : ServiceSpec} {port : UInt16} {index : Nat}

/-- The listener at a place has a port: it declares it, or it declares none and the port is derived. -/
inductive Takes (clusterPrefix : String) (spec : ServiceSpec) (port : UInt16) (index : Nat) : Prop where
  | declared {listener : ListenerSpec} (listed : spec.listeners[index]? = some listener)
      (declares : listener.declaredPort? = some port)
  | derived {listener : ListenerSpec} (listed : spec.listeners[index]? = some listener)
      (silent : listener.declaredPort? = none)
      (derives : Listener.derivedPort clusterPrefix spec.name index = port)

theorem getElem?_ports : (spec.ports clusterPrefix)[index]? = spec.listeners[index]?.map fun listener =>
    listener.declaredPort?.getD (Listener.derivedPort clusterPrefix spec.name index) := by
  rw [ports, List.getElem?_map, List.getElem?_zipIdx, Option.map_map]
  congr 1
  funext listener
  cases given : listener.port with
  | some port => simp [ListenerSpec.declaredPort?, given]
  | none =>
    cases declared : listener.albProtocol with
    | some protocol => simp [ListenerSpec.declaredPort?, given, declared]
    | none => simp [ListenerSpec.declaredPort?, given, declared]

theorem getElem?_ports_eq_some : (spec.ports clusterPrefix)[index]? = some port ↔
    spec.Takes clusterPrefix port index := by
  rw [getElem?_ports, Option.map_eq_some_iff]
  constructor
  · intro found
    obtain ⟨listener, listed, same⟩ := found
    cases declares : listener.declaredPort? with
    | some own =>
      rw [declares, Option.getD_some] at same
      exact .declared listed (same ▸ declares)
    | none =>
      rw [declares, Option.getD_none] at same
      exact .derived listed declares same
  · intro takes
    cases takes with
    | declared listed declares => exact ⟨_, listed, by rw [declares, Option.getD_some]⟩
    | derived listed silent derives => exact ⟨_, listed, by rw [silent, Option.getD_none, derives]⟩

end ServiceSpec

namespace Service

variable {deployment : Deployment} {clusterPrefix : String} {albDisabled : Bool} {spec : ServiceSpec}
  {port : UInt16} {reason : CompileError}

/-- Two listeners have one port. -/
def portClash (spec : ServiceSpec) (port : UInt16) : CompileError :=
  .invalidConfig (context spec) s!"port {port} is declared by more than one listener"

theorem portClash_injective : Function.Injective (portClash spec) := by
  intro first second same
  rw [portClash, portClash, CompileError.invalidConfig.injEq] at same
  have texts := congrArg String.toList same.2
  simp only [String.toList_append] at texts
  have numbers := List.append_cancel_left (List.append_cancel_right texts)
  change (toString first).toList = (toString second).toList at numbers
  rw [toList_toString_port, toList_toString_port] at numbers
  exact UInt16.toNat_inj.mp (digits_injective numbers)

/-- The port that is found to be repeated is the first one that stands before. -/
theorem repeatedPort?_eq_some {seen ports : List UInt16} : repeatedPort? seen ports = some port ↔
    ∃ before after, ports = before ++ port :: after ∧ repeatedPort? seen before = none ∧
      (port ∈ seen ∨ port ∈ before) := by
  induction ports generalizing seen with
  | nil => simp [repeatedPort?]
  | cons first rest ih =>
    by_cases known : first ∈ seen
    · have found : ∀ more, repeatedPort? seen (first :: more) = some first := by simp [repeatedPort?, known]
      rw [found, Option.some.injEq]
      constructor
      · intro same
        subst same
        exact ⟨[], rest, rfl, rfl, .inl known⟩
      · intro split
        obtain ⟨before, after, same, distinct, -⟩ := split
        cases before with
        | nil => exact (List.cons.inj same).1
        | cons head before =>
          rw [← (List.cons.inj same).1, found] at distinct
          cases distinct
    · have skipped : ∀ more, repeatedPort? seen (first :: more) = repeatedPort? (first :: seen) more := by
        simp [repeatedPort?, known]
      rw [skipped, ih]
      constructor
      · intro split
        obtain ⟨before, after, rfl, distinct, again⟩ := split
        exact ⟨first :: before, after, rfl, (skipped before).trans distinct, by grind⟩
      · intro split
        obtain ⟨before, after, same, distinct, again⟩ := split
        cases before with
        | nil =>
          rw [(List.cons.inj same).1] at known
          simp [known] at again
        | cons head before =>
          obtain ⟨rfl, rfl⟩ := List.cons.inj same
          exact ⟨before, after, rfl, (skipped before).symm.trans distinct, by grind⟩

/-- A port is found exactly if it stands at two places, and before the later one no port does. -/
theorem repeatedPort?_nil_eq_some {ports : List UInt16} : repeatedPort? [] ports = some port ↔
    ∃ earlier later, earlier < later ∧ ports[earlier]? = some port ∧ ports[later]? = some port ∧
      (ports.take later).Nodup := by
  rw [repeatedPort?_eq_some]
  constructor
  · intro split
    obtain ⟨before, after, rfl, distinct, again⟩ := split
    obtain ⟨earlier, listed⟩ := List.mem_iff_getElem?.mp (again.resolve_left List.not_mem_nil)
    have less := (List.getElem?_eq_some_iff.mp listed).1
    refine ⟨earlier, before.length, less, ?_, by simp, ?_⟩
    · rw [List.getElem?_append_left less, listed]
    · rw [List.take_left]
      exact (repeatedPort?_eq_none.mp distinct).1
  · intro places
    obtain ⟨earlier, later, less, earlierListed, listed, distinct⟩ := places
    obtain ⟨inside, same⟩ := List.getElem?_eq_some_iff.mp listed
    refine ⟨ports.take later, ports.drop (later + 1), ?_, repeatedPort?_eq_none.mpr ⟨distinct, by simp⟩, .inr ?_⟩
    · rw [← same, ← List.drop_eq_getElem_cons inside, List.take_append_drop]
    · exact List.mem_iff_getElem?.mpr ⟨earlier, by rw [List.getElem?_take_of_lt less, earlierListed]⟩

theorem checkPorts_eq_error {listeners : List Listener} : checkPorts spec listeners = .error reason ↔
    ∃ port, repeatedPort? [] (listeners.map (·.port)) = some port ∧ reason = portClash spec port := by
  unfold checkPorts
  cases repeatedPort? [] (listeners.map (·.port)) with
  | none => simp
  | some port => simp [portClash, eq_comm]

/-- Before the ports are compared, only other faults are found. -/
theorem resolveToken_ne_portClash : resolveToken spec ≠ .error (portClash spec port) := by
  intro refused
  simp only [resolveToken] at refused
  split at refused
  · rw [Except.error.injEq, portClash, CompileError.invalidConfig.injEq] at refused
    have firsts : some 'n' = some 'p' := by
      have texts := congrArg (fun text => text.toList.head?) refused.2
      simp only [String.toList_append, List.head?_append] at texts
      exact texts
    exact absurd firsts (by decide)
  · cases refused

theorem resolveImage_ne_portClash : resolveImage spec ≠ .error (portClash spec port) := by
  intro refused
  unfold resolveImage at refused
  split at refused <;> cases refused

theorem resolveListeners_ne_portClash {owner : ListenerOwner} :
    resolveListeners deployment owner spec ≠ .error (portClash spec port) := by
  intro refused
  obtain ⟨entry, -, failed⟩ := mapM_eq_error refused
  simp only [Listener.resolve] at failed
  split at failed <;> cases failed

theorem resolveScaling_ne_portClash :
    spec.autoScale.mapM (Scaling.resolve spec.name) ≠ .error (portClash spec port) := by
  intro refused
  obtain ⟨scale, -, failed⟩ := optionMapM_eq_error refused
  rw [Scaling.resolve, map_eq_error] at failed
  simp only [Scaling.resolvePolicy] at failed
  split at failed
  · cases failed
  · split at failed <;> cases failed

/-- A service is refused for a port exactly if it has a name, an image and the certificates that it needs,
and the port is that of the first listener that shares its port with an earlier one. Of the two, each
declares the port or has it derived from its place. -/
theorem resolve_eq_portClash_iff :
    resolve deployment clusterPrefix albDisabled spec = .error (portClash spec port) ↔
      normalizeName spec.name ≠ "" ∧ (spec.image.isSome = true ∨ spec.imageRepository.isSome = true) ∧
      (albDisabled = false → ∀ listener ∈ spec.listeners,
        listener.albProtocol = some .https → listener.certificateArns.getD [] ≠ []) ∧
      ∃ earlier later, earlier < later ∧ spec.Takes clusterPrefix port earlier ∧
        spec.Takes clusterPrefix port later ∧ ((spec.ports clusterPrefix).take later).Nodup := by
  simp only [← ServiceSpec.getElem?_ports_eq_some, ← repeatedPort?_nil_eq_some]
  simp only [resolve, bind_eq_error]
  constructor
  · intro refused
    rcases refused with refused | ⟨token, named, refused | ⟨image, imaged, refused | ⟨listeners, settled,
      refused | ⟨_, -, refused | ⟨scaling, -, impossible⟩⟩⟩⟩⟩
    · exact absurd refused resolveToken_ne_portClash
    · exact absurd refused resolveImage_ne_portClash
    · exact absurd refused resolveListeners_ne_portClash
    · obtain ⟨other, found, same⟩ := checkPorts_eq_error.mp refused
      obtain rfl := portClash_injective same
      rw [ports_of_resolveListeners settled] at found
      exact ⟨exists_resolveToken_iff.mp ⟨token, named⟩, exists_resolveImage_iff.mp ⟨image, imaged⟩,
        exists_resolveListeners_iff.mp ⟨listeners, settled⟩, found⟩
    · exact absurd refused resolveScaling_ne_portClash
    · cases impossible
  · intro clashes
    obtain ⟨name, image, certificates, found⟩ := clashes
    obtain ⟨token, named⟩ := exists_resolveToken_iff.mpr name
    obtain ⟨image, imaged⟩ := exists_resolveImage_iff.mpr image
    obtain ⟨listeners, settled⟩ : ∃ listeners, resolveListeners deployment
        (owner clusterPrefix token albDisabled spec) spec = .ok listeners :=
      exists_resolveListeners_iff.mpr certificates
    refine .inr ⟨token, named, .inr ⟨image, imaged, .inr ⟨listeners, settled, .inl ?_⟩⟩⟩
    rw [checkPorts_eq_error, ports_of_resolveListeners settled]
    exact ⟨port, found, rfl⟩

end Service

/-- A listener that only opens a port of the container, and leaves open which. -/
def ListenerSpec.silent : ListenerSpec where
  albProtocol := none
  port := none
  containerPort := none
  certificateArns := none
  authorizer := none

/-- A service that declares one port, which is also the one derived for its first listener. -/
def ServiceSpec.selfClashing : ServiceSpec :=
  (ServiceSpec.minimal "web" "nginx").listening
    [.silent, { ListenerSpec.silent with port := some 7899 }]

/-- The service is refused because more than one listener declares the port. Only one listener declares
any port, and without the other the service is accepted. -/
theorem Service.resolve_selfClashing :
    resolve (.ofService "dev" "my-app") "MyappApi" false .selfClashing =
      .error (.invalidConfig "service 'web'" "port 7899 is declared by more than one listener") ∧
    ServiceSpec.selfClashing.listeners.filterMap (·.declaredPort?) = [7899] ∧
    ∃ service, resolve (.ofService "dev" "my-app") "MyappApi" false
      (ServiceSpec.selfClashing.listening (ServiceSpec.selfClashing.listeners.drop 1)) = .ok service := by
  refine ⟨?_, by decide, exists_of_isOk (by decide +kernel)⟩
  exact eq_error_of_refusedFor (by decide +kernel)

end ClusterStack
