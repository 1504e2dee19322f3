import ClusterStack.Proofs.Compile.Plain
import ClusterStack.Proofs.Network.Pieces
import ClusterStack.Proofs.Spec.Minimal
import Mathlib.Logic.Relation

/-!
# Spellings

Some things can be written in two ways. Each way to write a thing differently is a step from one
description to another; however many steps are made, forth and back, the template stays the same, and so
does the reason for refusing one.
-/

set_option autoImplicit false

namespace ClusterStack

/-- A single text, and the list of it. -/
inductive OneOrMany.Respelled : OneOrMany String → OneOrMany String → Prop where
  | one (text : String) : Respelled (.one text) (.many [text])

/-- The methods that stand for every method: the star, and `ANY` in capitals, small letters or both. -/
inductive IsEveryMethod : String → Prop where
  | star : IsEveryMethod "*"
  | any {first second third : Char} (a : first ∈ ['a', 'A']) (n : second ∈ ['n', 'N'])
      (y : third ∈ ['y', 'Y']) : IsEveryMethod (String.ofList [first, second, third])

/-- An entry that is a path alone, and a rule for every method. -/
inductive PathRuleSpec.Respelled : PathRuleSpec → PathRuleSpec → Prop where
  | bare (path : String) : Respelled (.path path) (.rule path none none)
  | everyMethod (path : String) {method : String} (every : IsEveryMethod method) (priority : Option Nat) :
      Respelled (.rule path (some method) priority) (.rule path none priority)

inductive ServiceSpec.Respelled : ServiceSpec → ServiceSpec → Prop where
  | everyPath (spec : ServiceSpec) :
      Respelled { spec with path := none } { spec with path := some (.single "*") }
  /-- Next to a list of rules, the priority of the service has no meaning. -/
  | singlePath (spec : ServiceSpec) (path : String) (priority unused : Option Nat) :
      Respelled { spec with path := some (.single path), priority := priority }
        { spec with
          path := some (.rules [.rule path none (some (priority.getD 1))])
          priority := unused }
  | rule (spec : ServiceSpec) (before after : List PathRuleSpec) {a b : PathRuleSpec}
      (respelled : a.Respelled b) :
      Respelled { spec with path := some (.rules (before ++ a :: after)) }
        { spec with path := some (.rules (before ++ b :: after)) }
  | hostname (spec : ServiceSpec) {a b : OneOrMany String} (respelled : a.Respelled b) :
      Respelled { spec with hostname := some a } { spec with hostname := some b }
  | limitSourceIps (spec : ServiceSpec) {a b : OneOrMany String} (respelled : a.Respelled b) :
      Respelled { spec with limitSourceIps := some a } { spec with limitSourceIps := some b }
  | limitHeaders (spec : ServiceSpec) (before after : List HeaderMatchSpec) (name : String)
      {a b : OneOrMany String} (respelled : a.Respelled b) :
      Respelled { spec with limitHeaders := before ++ ⟨name, a⟩ :: after }
        { spec with limitHeaders := before ++ ⟨name, b⟩ :: after }
  | scaleIn (spec : ServiceSpec) (scale : AutoScaleSpec) (step : StepScalingSpec) {a b : OneOrMany String}
      (respelled : a.Respelled b) :
      Respelled
        { spec with autoScale := some { scale with scaleIn := some { step with metricDependsOn := some a } } }
        { spec with autoScale := some { scale with scaleIn := some { step with metricDependsOn := some b } } }
  | scaleOut (spec : ServiceSpec) (scale : AutoScaleSpec) (step : StepScalingSpec) {a b : OneOrMany String}
      (respelled : a.Respelled b) :
      Respelled
        { spec with autoScale := some { scale with scaleOut := some { step with metricDependsOn := some a } } }
        { spec with autoScale := some { scale with scaleOut := some { step with metricDependsOn := some b } } }

inductive NetworkSpec.Respelled : NetworkSpec → NetworkSpec → Prop where
  /-- The empty text and the word `null` are no groups. -/
  | oneGroup (spec : NetworkSpec) {group : String} (nonempty : group ≠ "") (proper : group ≠ "null") :
      Respelled { spec with securityGroupIds := some (.string group) }
        { spec with securityGroupIds := some (.array [.string group]) }
  | split (spec : NetworkSpec) {delimiter source : String} {pieces : List String}
      (split : IsSplit delimiter source pieces) :
      Respelled
        { spec with
          securityGroupIds := some (.object [("Fn::Split", .array [.string delimiter, .string source])]) }
        { spec with securityGroupIds := some (.array (pieces.map .string)) }

/-- One service of the cluster, or its network, is written differently. -/
inductive ClusterSpec.Respelled : ClusterSpec → ClusterSpec → Prop where
  | service (spec : ClusterSpec) (before after : List ServiceSpec) {a b : ServiceSpec}
      (respelled : a.Respelled b) :
      Respelled { spec with services := before ++ a :: after } { spec with services := before ++ b :: after }
  | network (spec : ClusterSpec) {a b : NetworkSpec} (respelled : a.Respelled b) :
      Respelled { spec with vpc := some a } { spec with vpc := some b }

theorem OneOrMany.Respelled.plain_eq {a b : OneOrMany String} (respelled : a.Respelled b) :
    a.plain = b.plain := by
  cases respelled
  rfl

theorem IsEveryMethod.not_restricting {method : String} (every : IsEveryMethod method) :
    Routing.restrictingMethod method = false := by
  cases every with
  | star => rfl
  | any a n y =>
    simp only [List.mem_cons, List.not_mem_nil, or_false] at a n y
    rcases a with rfl | rfl <;> rcases n with rfl | rfl <;> rcases y with rfl | rfl <;> rfl

theorem PathRuleSpec.Respelled.ruleOfSpec_eq {a b : PathRuleSpec} (respelled : a.Respelled b) :
    Routing.ruleOfSpec a = Routing.ruleOfSpec b := by
  cases respelled with
  | bare path => rfl
  | everyMethod path every priority =>
    simp [Routing.ruleOfSpec, every.not_restricting]

theorem ServiceSpec.Respelled.plain_eq {a b : ServiceSpec} (respelled : a.Respelled b) :
    a.plain = b.plain := by
  cases respelled with
  | everyPath spec => rfl
  | singlePath spec path priority unused => rfl
  | rule spec before after respelled =>
    have rules := respelled.ruleOfSpec_eq
    simp only [plain, Routing.rulesOfSpec, List.map_append, List.map_cons, rules]
  | hostname spec respelled => simp only [plain, Option.map_some, respelled.plain_eq]; rfl
  | limitSourceIps spec respelled => simp only [plain, Option.map_some, respelled.plain_eq]; rfl
  | limitHeaders spec before after name respelled =>
    simp only [plain, List.map_append, List.map_cons, HeaderMatchSpec.plain, respelled.plain_eq]; rfl
  | scaleIn spec scale step respelled =>
    simp only [plain, AutoScaleSpec.plain, StepScalingSpec.plain, Option.map_some, respelled.plain_eq]; rfl
  | scaleOut spec scale step respelled =>
    simp only [plain, AutoScaleSpec.plain, StepScalingSpec.plain, Option.map_some, respelled.plain_eq]; rfl

theorem NetworkSpec.Respelled.plain_eq {a b : NetworkSpec} (respelled : a.Respelled b) :
    a.plain = b.plain := by
  cases respelled with
  | @oneGroup spec group nonempty proper =>
    have given : provided? (some (.string group)) = some (.string group) := by
      cases absent_or_provided (some (.string group)) with
      | inl absent =>
        cases absent with
        | word => exact absurd rfl proper
        | empty => exact absurd rfl nonempty
      | inr given => exact given
    simp only [plain, given]
    rfl
  | @split spec delimiter source pieces split =>
    rw [isSplit_iff.mp split]
    rfl

theorem ClusterSpec.Respelled.plain_eq {a b : ClusterSpec} (respelled : a.Respelled b) :
    a.plain = b.plain := by
  cases respelled with
  | service spec before after respelled =>
    simp only [plain, List.map_append, List.map_cons, respelled.plain_eq]
  | network spec respelled =>
    simp only [plain, Option.map_some, respelled.plain_eq]

/-- Descriptions of which one is the other written differently, in any number of places, compile to the
same, be it a template or a fault. -/
theorem compile_respelled (deployment : Deployment) {a b : ClusterSpec}
    (respelled : Relation.EqvGen ClusterSpec.Respelled a b) :
    compile deployment a = compile deployment b := by
  have plain : a.plain = b.plain := by
    induction respelled with
    | rel a b step => exact step.plain_eq
    | refl a => rfl
    | symm a b _ ih => exact ih.symm
    | trans a b c _ _ first second => exact first.trans second
  rw [← compile_plain deployment a, plain, compile_plain]

/-- A service that is reached on a path of a host. -/
def hostedService (path : PathSpec) (host : OneOrMany String) : ServiceSpec :=
  { (ServiceSpec.minimal "web" "nginx").listening [.minimal .http] with
    path := some path
    priority := some 7
    hostname := some host }

/-- A cluster in an existing network with these security groups. -/
def placedCluster (groups : Json) (service : ServiceSpec) : ClusterSpec :=
  { ClusterSpec.minimal "main" [service] with
    vpc := some {
      cidr := none
      subnets := []
      vpcId := some (.string "vpc-1")
      securityGroupIds := some groups
      subnetIds := some (.array [.string "subnet-1"])
      albSubnetIds := none } }

def hostedCluster : ClusterSpec :=
  placedCluster (.object [("Fn::Split", .array [.string ",", .string "sg-1,sg-2"])])
    (hostedService (.single "/web") (.one "example.org"))

def hostedClusterInLists : ClusterSpec :=
  placedCluster (.array [.string "sg-1", .string "sg-2"])
    (hostedService (.rules [.rule "/web" none (some 7)]) (.many ["example.org"]))

/-- The security groups, the path and the host are written differently, one after the other. -/
theorem compile_respelled_hostedCluster :
    Relation.EqvGen ClusterSpec.Respelled hostedCluster hostedClusterInLists ∧ ∃ template,
      compile (.ofService "dev" "shop") hostedCluster = .ok template ∧
        compile (.ofService "dev" "shop") hostedClusterInLists = .ok template := by
  have split : IsSplit "," "sg-1,sg-2" ["sg-1", "sg-2"] := isSplit_iff.mpr (by decide +kernel)
  have groups : hostedCluster.Respelled (placedCluster (.array [.string "sg-1", .string "sg-2"])
      (hostedService (.single "/web") (.one "example.org"))) :=
    .network hostedCluster (.split ⟨none, [], some (.string "vpc-1"), none,
      some (.array [.string "subnet-1"]), none⟩ split)
  have path : (hostedService (.single "/web") (.one "example.org")).Respelled
      (hostedService (.rules [.rule "/web" none (some 7)]) (.one "example.org")) :=
    .singlePath (hostedService (.single "/web") (.one "example.org")) "/web" (some 7) (some 7)
  have host : (hostedService (.rules [.rule "/web" none (some 7)]) (.one "example.org")).Respelled
      (hostedService (.rules [.rule "/web" none (some 7)]) (.many ["example.org"])) :=
    .hostname (hostedService (.rules [.rule "/web" none (some 7)]) (.one "example.org")) (.one "example.org")
  have respelled : Relation.EqvGen ClusterSpec.Respelled hostedCluster hostedClusterInLists :=
    .trans _ _ _ (.rel _ _ groups) (.trans _ _ _
      (.rel _ _ (.service hostedClusterInLists [] [] path))
      (.rel _ _ (.service hostedClusterInLists [] [] host)))
  obtain ⟨template, compiled⟩ : ∃ template, compile (.ofService "dev" "shop") hostedCluster = .ok template :=
    exists_of_isOk (by decide +kernel)
  exact ⟨respelled, template, compiled, (compile_respelled _ respelled).symm.trans compiled⟩

end ClusterStack
