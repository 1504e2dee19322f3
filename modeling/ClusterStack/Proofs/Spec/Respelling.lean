import ClusterStack.Proofs.Document.Parts
import ClusterStack.Spec.Shape
import Mathlib.Logic.Relation

/-!
# Respelled descriptions of clusters

The order of the members that give fields, further members beside them and the choice between the
names of a field do not matter to what is read of a cluster. Tags and environments stay in the order
of the document, and a field that is given twice is refused.
-/

set_option autoImplicit false

namespace ClusterStack

/-- What a document describes, whatever text it comes from. -/
def Described.ofDocument (α : Type) [Described α] (format : Format) (document : Document) : Except Fault α :=
  ((Described.schema α).decode format [] document).map Described.build

section Described

variable {α : Type} [Described α] {format : Format} {document : Document} {described : α}

theorem Described.ofText_eq_ok {text : String} :
    Described.ofText α format text = .ok described ↔
      Described.ofDocument α format (Document.read format text).1 = .ok described ∧
        (Document.read format text).2 = false := by
  rw [Described.ofText, Schema.decodeText, Described.ofDocument, map_eq_ok, map_eq_ok]
  generalize Document.read format text = written
  obtain ⟨root, followed⟩ := written
  dsimp only
  cases followed with
  | false => simp only [bind_eq_ok, Bool.false_eq_true, if_false, Except.ok.injEq, exists_eq_right, and_true]
  | true => simp only [bind_eq_ok, if_true, reduceCtorEq, and_false, exists_false, false_and]

theorem Described.ofDocument_eq_ok :
    Described.ofDocument α format document = .ok described ↔
      ∃ value, (Described.schema α).read? format document = some value ∧ Described.build value = described := by
  rw [Described.ofDocument, map_eq_ok]
  simp only [Schema.decode_eq_ok]

end Described

theorem ServiceSpec.isProper_schema : (Described.schema ServiceSpec).isProper := by
  decide +kernel

/-- The environment of a service stays in the order of the document. -/
theorem ServiceSpec.entriesAt?_environment {format : Format} {document : Document}
    {values : (Described.schema ServiceSpec).El}
    (read : (Described.schema ServiceSpec).read? format document = some values) :
    document.entriesAt? "environment" 1 = some (Described.build values : ServiceSpec).environment := by
  have distinct := (Bool.and_eq_true_iff.mp isProper_schema).1
  exact Schema.entriesAt?_eq_some (Schema.elim_part? distinct read (.tail .head))

namespace ClusterSpec

theorem isProper_schema : (Described.schema ClusterSpec).isProper := by
  decide +kernel

/-- Any number of changes of spelling, each of them at any depth. -/
def Reworded : Document → Document → Prop :=
  Relation.ReflTransGen (Schema.Within Schema.Respells false (Described.schema ClusterSpec))

/-- At one place, at any depth, a field that the first document gives is given once more. -/
def Repeated : Document → Document → Prop :=
  Schema.Within Schema.Repeats false (Described.schema ClusterSpec)

variable {format : Format} {document other : Document} {spec : ClusterSpec}

theorem Reworded.read?_eq (reworded : Reworded document other) (format : Format) :
    (Described.schema ClusterSpec).read? format document = (Described.schema ClusterSpec).read? format other := by
  induction reworded with
  | refl => rfl
  | tail _ changed ih => exact ih.trans (changed.read?_eq isProper_schema format)

theorem Reworded.ofDocument_eq_ok (reworded : Reworded document other) :
    Described.ofDocument ClusterSpec format document = .ok spec ↔
      Described.ofDocument ClusterSpec format other = .ok spec := by
  rw [Described.ofDocument_eq_ok, Described.ofDocument_eq_ok, reworded.read?_eq format]

/-- Two texts that differ in spelling describe the same cluster. -/
theorem ofText_eq_ok_of_reworded {text alternate : String}
    (reworded : Reworded (Document.read format text).1 (Document.read format alternate).1)
    (ends : (Document.read format text).2 = (Document.read format alternate).2) :
    Described.ofText ClusterSpec format text = .ok spec ↔
      Described.ofText ClusterSpec format alternate = .ok spec := by
  rw [Described.ofText_eq_ok, Described.ofText_eq_ok, reworded.ofDocument_eq_ok, ends]

theorem exists_error_of_repeated (repeated : Repeated document other) (format : Format) :
    ∃ fault, Described.ofDocument ClusterSpec format other = .error fault := by
  cases outcome : Described.ofDocument ClusterSpec format other with
  | error fault => exact ⟨fault, rfl⟩
  | ok spec =>
    obtain ⟨value, read, -⟩ := Described.ofDocument_eq_ok.mp outcome
    rw [repeated.read?_eq_none isProper_schema format] at read
    cases read

/-- The tags of a cluster and the environments of its services stay in the order of the document. -/
theorem entriesAt?_eq_some (accepted : Described.ofDocument ClusterSpec format document = .ok spec) :
    document.entriesAt? "tags" 0 = some spec.tags ∧
      (document.itemsAt "services" 8).mapM (Document.entriesAt? "environment" 1) =
        some (spec.services.map ServiceSpec.environment) := by
  obtain ⟨values, read, rfl⟩ := Described.ofDocument_eq_ok.mp accepted
  have distinct := (Bool.and_eq_true_iff.mp isProper_schema).1
  have inOrder := Schema.entriesAt?_eq_some (Schema.elim_part? distinct read .head)
  have items := Schema.mapM_itemsAt_eq_some (Schema.elim_part? distinct read
    (.tail (.tail (.tail (.tail (.tail (.tail (.tail (.tail .head)))))))))
  refine ⟨inOrder, ?_⟩
  rw [Schema.mapM_eq_some_map (fun item values => ServiceSpec.entriesAt?_environment) items]
  exact congrArg some (List.map_map ..).symm

/-- A description says the same however it is spelled, does not give a field twice, and keeps the
order of its tags and environments. -/
theorem ofDocument_reworded (accepted : Described.ofDocument ClusterSpec format document = .ok spec) :
    (∀ other, Reworded document other → Described.ofDocument ClusterSpec format other = .ok spec) ∧
      (∀ other, Repeated document other →
        ∃ fault, Described.ofDocument ClusterSpec format other = .error fault) ∧
      document.entriesAt? "tags" 0 = some spec.tags ∧
      (document.itemsAt "services" 8).mapM (Document.entriesAt? "environment" 1) =
        some (spec.services.map ServiceSpec.environment) :=
  ⟨fun _ reworded => reworded.ofDocument_eq_ok.mp accepted,
    fun _ repeated => exists_error_of_repeated repeated format, entriesAt?_eq_some accepted⟩

/-- The fields of a rule for a path. -/
def ruleFields : List Field :=
  [.required "path" .text, .optional "method" .text, .count "priority"]

/-- A cluster with one service and one rule for its path. -/
def ruleDocument (first : Option String × Document) (rule : List (Option String × Document)) : Document :=
  .object [first, (some "clusterName", .string "api"), (some "services", .array [.object [
    (some "name", .string "web"), (some "path", .array [.object rule])]])]

theorem within_ruleDocument {change : Schema.Change} {first : Option String × Document}
    {rule other : List (Option String × Document)} (changed : change true ruleFields rule other) :
    Schema.Within change false (Described.schema ClusterSpec) (ruleDocument first rule) (ruleDocument first other) := by
  have path : Schema.Within change false ServiceSpec.schema
      (.object ([(some "name", .string "web")] ++ (some "path", .array ([] ++ .object rule :: [])) :: []))
      (.object ([(some "name", .string "web")] ++ (some "path", .array ([] ++ .object other :: [])) :: [])) :=
    .member (List.mem_of_getElem? (i := 23) rfl) (.head _)
      (.optional (.alternative (.item (.alternative (.here changed)))))
  have services : Schema.Within change false (Described.schema ClusterSpec)
      (.object ([first, (some "clusterName", .string "api")] ++ (some "services", .array ([] ++ _ :: [])) :: []))
      (.object ([first, (some "clusterName", .string "api")] ++ (some "services", .array ([] ++ _ :: [])) :: [])) :=
    .member (List.mem_of_getElem? (i := 8) rfl) (.head _) (.item path)
  exact services

theorem ofDocument_reworded_rule :
    ∃ spec, Described.ofDocument ClusterSpec .json
        (ruleDocument (some "albDisabled", .bool true) [(some "path", .string "/")]) = .ok spec ∧
      Described.ofDocument ClusterSpec .json
        (ruleDocument (some "disableELB", .bool true) [(some "note", .null), (some "path", .string "/")]) = .ok spec ∧
      ∃ fault, Described.ofDocument ClusterSpec .json
        (ruleDocument (some "albDisabled", .bool true) [(some "path", .string "/a"), (some "path", .string "/")]) =
          .error fault := by
  obtain ⟨spec, accepted⟩ := exists_of_isOk (show (Described.ofDocument ClusterSpec .json
    (ruleDocument (some "albDisabled", .bool true) [(some "path", .string "/")])).isOk = true by decide +kernel)
  obtain ⟨same, refused, -, -⟩ := ofDocument_reworded accepted
  have extended : Schema.Respells true ruleFields ([] ++ [(some "path", .string "/")])
      ([] ++ (some "note", .null) :: [(some "path", .string "/")]) :=
    .extended (by decide) rfl
  have repeated : Schema.Repeats true ruleFields ([] ++ [(some "path", .string "/")])
      ([] ++ (some "path", .string "/a") :: [(some "path", .string "/")]) :=
    .given (.head _) (.head _) (.head _) (.head _)
  refine ⟨spec, accepted, same _ (.tail (.single (within_ruleDocument extended)) (.here ?_)),
    refused _ (within_ruleDocument repeated)⟩
  exact @Schema.Respells.renamed false _ (.mk "albDisabled" ["disableELB"] .always .flag) _ _ _ [] _
    (List.mem_of_getElem? (i := 3) rfl) (.head _) (.tail _ (.head _))

/-- The text of a cluster with one rule, and what follows in the rule and in the service. -/
def ruleText (rule service : String) : String :=
  "\x7b\"clusterName\":\"a\",\"services\":[\x7b\"name\":\"w\",\"path\":[\x7b\"path\":\"/a\"" ++ rule ++ "\x7d]" ++
    service ++ "\x7d]\x7d"

/-- A rule is one of two alternatives, so all of it is read before its fields are looked at. A
number that no value stands for is refused there, also in a member that is no field of a rule; the
same member of a service is skipped. -/
theorem ofText_notedRule :
    (Described.ofText ClusterSpec .json (ruleText "" "")).isOk = true ∧
      (Described.ofText ClusterSpec .json (ruleText "" ",\"note\":1e400")).isOk = true ∧
      (Described.ofText ClusterSpec .json (ruleText ",\"note\":1e400" "")).isOk = false := by
  decide +kernel

end ClusterSpec

end ClusterStack
