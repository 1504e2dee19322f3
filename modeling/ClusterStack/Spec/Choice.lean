import ClusterStack.Document.Decoder

/-!
# Choices

The closed sets of words that a description may use. Each word is spelled in one way only.
-/

set_option autoImplicit false

namespace ClusterStack

/-- A closed set of words: its name, its members in order, and their spelling. -/
class Choice (α : Type) where
  name : String
  all : List α
  text : α → String

def Choice.schema (α : Type) [Choice α] : Schema :=
  .choice (Choice.name α) α ((Choice.all : List α).map fun word => (Choice.text word, word))

/-- The protocol of a listener on the load balancer. -/
inductive AlbProtocol where
  | http
  | https
  deriving DecidableEq, Repr, Inhabited

namespace AlbProtocol

def text : AlbProtocol → String
  | .http => "HTTP"
  | .https => "HTTPS"

def defaultPort : AlbProtocol → UInt16
  | .http => 80
  | .https => 443

def scheme : AlbProtocol → String
  | .http => "http"
  | .https => "https"

instance : Choice AlbProtocol := ⟨"AlbProtocol", [.http, .https], text⟩

end AlbProtocol

/-- Where the tags of a service's tasks come from. -/
inductive PropagateTags where
  | off
  | service
  | taskDefinition
  deriving DecidableEq, Repr, Inhabited

def PropagateTags.text : PropagateTags → String
  | .off => "OFF"
  | .service => "SERVICE"
  | .taskDefinition => "TASK_DEFINITION"

instance : Choice PropagateTags := ⟨"PropagateTags", [.off, .service, .taskDefinition], (·.text)⟩

/-- A metric that can be tracked without further description. -/
inductive MetricType where
  | albRequestCountPerTarget
  | appStreamAverageCapacity
  | comprehendInference
  | dynamoDbReadCapacity
  | dynamoDbWriteCapacity
  | spotFleetAverageCpu
  | spotFleetAverageNetworkIn
  | spotFleetAverageNetworkOut
  | ecsServiceAverageCpu
  | ecsServiceAverageMemory
  | lambdaProvisionedConcurrency
  | rdsReaderAverageCpu
  | rdsReaderAverageConnections
  | sageMakerVariantInvocations
  deriving DecidableEq, Repr, Inhabited

def MetricType.text : MetricType → String
  | .albRequestCountPerTarget => "ALBRequestCountPerTarget"
  | .appStreamAverageCapacity => "AppStreamAverageCapacityUtilization"
  | .comprehendInference => "ComprehendInferenceUtilization"
  | .dynamoDbReadCapacity => "DynamoDBReadCapacityUtilization"
  | .dynamoDbWriteCapacity => "DynamoDBWriteCapacityUtilization"
  | .spotFleetAverageCpu => "EC2SpotFleetRequestAverageCPUUtilization"
  | .spotFleetAverageNetworkIn => "EC2SpotFleetRequestAverageNetworkIn"
  | .spotFleetAverageNetworkOut => "EC2SpotFleetRequestAverageNetworkOut"
  | .ecsServiceAverageCpu => "ECSServiceAverageCPUUtilization"
  | .ecsServiceAverageMemory => "ECSServiceAverageMemoryUtilization"
  | .lambdaProvisionedConcurrency => "LambdaProvisionedConcurrencyUtilization"
  | .rdsReaderAverageCpu => "RDSReaderAverageCPUUtilization"
  | .rdsReaderAverageConnections => "RDSReaderAverageDatabaseConnections"
  | .sageMakerVariantInvocations => "SageMakerVariantInvocationsPerInstance"

instance : Choice MetricType where
  name := "MetricType"
  all := [.albRequestCountPerTarget, .appStreamAverageCapacity, .comprehendInference,
    .dynamoDbReadCapacity, .dynamoDbWriteCapacity, .spotFleetAverageCpu,
    .spotFleetAverageNetworkIn, .spotFleetAverageNetworkOut, .ecsServiceAverageCpu,
    .ecsServiceAverageMemory, .lambdaProvisionedConcurrency, .rdsReaderAverageCpu,
    .rdsReaderAverageConnections, .sageMakerVariantInvocations]
  text := MetricType.text

/-- How a metric is compared with a threshold. -/
inductive ComparisonOperator where
  | greaterOrEqual
  | greater
  | less
  | lessOrEqual
  | outsideBand
  | belowBand
  | aboveBand
  deriving DecidableEq, Repr, Inhabited

namespace ComparisonOperator

def text : ComparisonOperator → String
  | .greaterOrEqual => "GreaterThanOrEqualToThreshold"
  | .greater => "GreaterThanThreshold"
  | .less => "LessThanThreshold"
  | .lessOrEqual => "LessThanOrEqualToThreshold"
  | .outsideBand => "LessThanLowerOrGreaterThanUpperThreshold"
  | .belowBand => "LessThanLowerThreshold"
  | .aboveBand => "GreaterThanUpperThreshold"

def isGreater : ComparisonOperator → Bool
  | .greaterOrEqual | .greater | .outsideBand | .aboveBand => true
  | .less | .lessOrEqual | .belowBand => false

def isLess : ComparisonOperator → Bool
  | .less | .lessOrEqual | .outsideBand | .belowBand => true
  | .greaterOrEqual | .greater | .aboveBand => false

instance : Choice ComparisonOperator where
  name := "ComparisonOperator"
  all := [.greaterOrEqual, .greater, .less, .lessOrEqual, .outsideBand, .belowBand, .aboveBand]
  text := text

end ComparisonOperator

/-- How the data points of a period are condensed. -/
inductive Statistic where
  | average
  | minimum
  | maximum
  | sum
  | sampleCount
  deriving DecidableEq, Repr, Inhabited

def Statistic.text : Statistic → String
  | .average => "Average"
  | .minimum => "Minimum"
  | .maximum => "Maximum"
  | .sum => "Sum"
  | .sampleCount => "SampleCount"

instance : Choice Statistic :=
  ⟨"Statistic", [.average, .minimum, .maximum, .sum, .sampleCount], (·.text)⟩

/-- What a scaling step changes. -/
inductive AdjustmentType where
  | changeInCapacity
  | exactCapacity
  | percentChangeInCapacity
  deriving DecidableEq, Repr, Inhabited

def AdjustmentType.text : AdjustmentType → String
  | .changeInCapacity => "ChangeInCapacity"
  | .exactCapacity => "ExactCapacity"
  | .percentChangeInCapacity => "PercentChangeInCapacity"

instance : Choice AdjustmentType :=
  ⟨"AdjustmentType", [.changeInCapacity, .exactCapacity, .percentChangeInCapacity], (·.text)⟩

/-- What an alarm makes of missing data points. -/
inductive MissingDataTreatment where
  | breaching
  | notBreaching
  | ignore
  | missing
  deriving DecidableEq, Repr, Inhabited

def MissingDataTreatment.text : MissingDataTreatment → String
  | .breaching => "breaching"
  | .notBreaching => "notBreaching"
  | .ignore => "ignore"
  | .missing => "missing"

instance : Choice MissingDataTreatment :=
  ⟨"MissingDataTreatment", [.breaching, .notBreaching, .ignore, .missing], (·.text)⟩

end ClusterStack
