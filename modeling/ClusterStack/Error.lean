/-!
# Compilation errors

Why a cluster description is refused. Most causes are faults of the description; the others cannot
be helped by its author, because the generated resources do not fit together.
-/

set_option autoImplicit false

namespace ClusterStack

/-- A cause for refusing a cluster. -/
inductive CompileError where
  /-- An HTTPS listener on the load balancer has no certificates. -/
  | missingCertificate (service : String) (port : UInt16)
  /-- Two listeners of a cluster declare different protocols for one port. -/
  | portProtocolConflict (service cluster : String) (port : UInt16) (protocol existing : String)
  | missingField (context field : String)
  | invalidConfig (context message : String)
  /-- Two components produce one resource key. -/
  | duplicateResource (key : String)
  /-- Two components produce one output key. -/
  | duplicateOutput (key : String)
  /-- A resource or output refers to an id that is not in the template. -/
  | danglingReference (source target : String)
  | dependencyCycle
  /-- A listener rule is for a port on which the load balancer does not listen. -/
  | unknownListenerPort (service : String) (port : UInt16)
  deriving DecidableEq, Repr

namespace CompileError

def message : CompileError → String
  | .missingCertificate service port =>
    s!"Certificate ARN required for HTTPS listener on port {port} of service '{service}'"
  | .portProtocolConflict service cluster port protocol existing =>
    s!"Service {service} on cluster {cluster}, listener {protocol} is colliding with a " ++
      s!"{existing} listener of another service on port {port}"
  | .missingField context field => s!"Missing required field '{field}' in {context}"
  | .invalidConfig context message => s!"Invalid configuration for {context}: {message}"
  | .duplicateResource key => s!"Duplicate resource '{key}' in compiled graph"
  | .duplicateOutput key => s!"Duplicate output '{key}' in compiled graph"
  | .danglingReference source target =>
    s!"Resource '{source}' references unknown resource '{target}'"
  | .dependencyCycle => "Circular dependency detected between generated resources"
  | .unknownListenerPort service port =>
    s!"No load balancer listener for port {port} of service '{service}'"

/-- The description is fine, but the generated resources do not fit together. -/
def isInvariantViolation : CompileError → Bool
  | .duplicateResource _ | .duplicateOutput _ | .danglingReference _ _ | .dependencyCycle
  | .unknownListenerPort _ _ => true
  | .missingCertificate _ _ | .portProtocolConflict _ _ _ _ _ | .missingField _ _
  | .invalidConfig _ _ => false

end CompileError

end ClusterStack
