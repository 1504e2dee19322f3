import ClusterStack.Error
import ClusterStack.Spec.Basic

/-!
# Scaling

A service scales by tracking a metric, or in steps: one alarm and one policy for each direction that
is described.
-/

set_option autoImplicit false

namespace ClusterStack

/-- Fewer tasks or more. -/
inductive Direction where
  | scaleIn
  | scaleOut
  deriving DecidableEq, Repr

namespace Direction

def label : Direction → String
  | .scaleIn => "in"
  | .scaleOut => "out"

def defaultStep : Direction → Int
  | .scaleIn => -1
  | .scaleOut => 1

end Direction

/-- What makes a service scale. -/
inductive ScalingPolicy where
  | targetTracking (metric : MetricType) (targetValue : Real64) (cooldownIn cooldownOut : Nat)
  | steps (scaleIn scaleOut : Option StepScalingSpec)
  deriving Repr

/-- How a service scales, and between which numbers of tasks. -/
structure Scaling where
  min : Nat
  max : Nat
  policy : ScalingPolicy
  deriving Repr

namespace Scaling

/-- The policy of a description. Tracking needs a metric and a target; steps need nothing else. -/
def resolvePolicy (serviceName : String) (spec : AutoScaleSpec) :
    Except CompileError ScalingPolicy :=
  let context := s!"autoScale of service {serviceName}"
  if spec.scaleIn.isSome || spec.scaleOut.isSome then
    .ok (.steps spec.scaleIn spec.scaleOut)
  else
    match spec.metric, spec.targetValue with
    | none, _ => .error (.missingField context "metric")
    | some _, none => .error (.missingField context "targetValue")
    | some metric, some targetValue =>
      let cooldown := spec.cooldown.getD 30
      .ok (.targetTracking metric targetValue (spec.cooldownIn.getD cooldown)
        (spec.cooldownOut.getD cooldown))

def resolve (serviceName : String) (spec : AutoScaleSpec) : Except CompileError Scaling :=
  (resolvePolicy serviceName spec).map fun policy => ⟨spec.min.getD 1, spec.max.getD 1, policy⟩

/-- The directions that are described, with their descriptions. -/
def steps (scaling : Scaling) : List (Direction × StepScalingSpec) :=
  match scaling.policy with
  | .targetTracking _ _ _ _ => []
  | .steps scaleIn scaleOut =>
    scaleIn.toList.map (.scaleIn, ·) ++ scaleOut.toList.map (.scaleOut, ·)

end Scaling

def StepScalingSpec.dependencies (step : StepScalingSpec) : List String :=
  (step.metricDependsOn.map OneOrMany.toList).getD []

/-- The resources that the metrics depend on; they need not be part of the template. -/
def Scaling.metricDependencies (scaling : Scaling) : List String :=
  scaling.steps.flatMap fun step => step.2.dependencies

end ClusterStack
