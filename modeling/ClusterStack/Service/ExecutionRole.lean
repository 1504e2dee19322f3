import ClusterStack.Tags
import ClusterStack.Template.Basic

/-!
# The execution role

The role under which the tasks of a cluster are started. A description supplies it, or it is
generated; a generated role is shared by all services of the cluster.
-/

set_option autoImplicit false

namespace ClusterStack

/-- The role under which tasks are started. -/
inductive ExecutionRole where
  | supplied (arn : Value)
  | generated (name : String)
  deriving Repr

namespace ExecutionRole

def arn : ExecutionRole → Value
  | .supplied arn => arn
  | .generated name => .ref name

/-- The role resource, which may pull images and write logs. -/
def resource (name : String) (tags : Tags) : Resource :=
  let trust : Value := .map [("Statement", .list [.map [
    ("Effect", .string "Allow"),
    ("Principal", .map [("Service", .strings ["ecs-tasks.amazonaws.com"])]),
    ("Action", .strings ["sts:AssumeRole"])]])]
  let policies : Value := .list [.map [
    ("PolicyName", .string "AmazonECSTaskExecutionRolePolicy"),
    ("PolicyDocument", .map [("Statement", .list [.map [
      ("Effect", .string "Allow"),
      ("Action", .strings [
        "ecr:GetAuthorizationToken", "ecr:BatchCheckLayerAvailability",
        "ecr:GetDownloadUrlForLayer", "ecr:BatchGetImage", "logs:CreateLogStream",
        "logs:PutLogEvents"]),
      ("Resource", .string "*")]])])]]
  .make .iamRole [
    ("RoleName", some (.string name)),
    ("Tags", tags.toValue?),
    ("AssumeRolePolicyDocument", some trust),
    ("Path", some (.string "/")),
    ("Policies", some policies)] []

/-- The resources of the role; every service of a cluster declares them alike. -/
def declarations (role : ExecutionRole) (tags : Tags) : List Declaration :=
  match role with
  | .supplied _ => []
  | .generated name => [.sharedResource name (resource name tags)]

end ExecutionRole

end ClusterStack
