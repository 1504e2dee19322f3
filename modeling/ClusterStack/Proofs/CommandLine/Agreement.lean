import ClusterStack.Proofs.CommandLine.FileTree
import ClusterStack.Proofs.Template.Summary

/-!
# Agreement of the commands

Both commands compile the manifest in the same way, however YAML is read. If it has no template, both tell why
and leave all files as they are. If it has one, it is printed or written, the same text in either case, and its
summary sums up the document that is printed.
-/

set_option autoImplicit false

namespace ClusterStack

/-- The template of the manifest in a file, for the stage that is asked for if any. -/
def FileTree.templateOf (yaml : YamlReader) (tree : FileTree) (file : String) (stage : Option String) :
    Except Failure Template :=
  (Invocation.mk .validate file stage).template yaml (tree.read file)

namespace Invocation

variable {yaml : YamlReader} {tree : FileTree} {file output : String} {stage : Option String}
  {action : Action} {template : Template} {failure : Failure}

theorem runOn_of_error (refused : tree.templateOf yaml file stage = .error failure) :
    runOn yaml ⟨action, file, stage⟩ tree = .failed ⟨action, file, stage⟩ tree failure := by
  have answer : deliver yaml ⟨action, file, stage⟩ (tree.read file) = .error failure :=
    map_eq_error.mpr refused
  rw [runOn, answer]

theorem deliver_of_ok (compiled : tree.templateOf yaml file stage = .ok template) :
    deliver yaml ⟨action, file, stage⟩ (tree.read file) = .ok (action.deliver template) :=
  map_eq_ok.mpr ⟨template, compiled, rfl⟩

theorem runOn_of_print {text : String} (compiled : tree.templateOf yaml file stage = .ok template)
    (prints : action.deliver template = .print text) :
    runOn yaml ⟨action, file, stage⟩ tree = .printed ⟨action, file, stage⟩ tree text := by
  rw [runOn, deliver_of_ok compiled, prints]

theorem runOn_of_write {content note : String} {changed : FileTree}
    (compiled : tree.templateOf yaml file stage = .ok template)
    (writes : action.deliver template = .write output content note)
    (written : tree.write output content = .ok changed) :
    runOn yaml ⟨action, file, stage⟩ tree = .printed ⟨action, file, stage⟩ changed note := by
  rw [runOn, deliver_of_ok compiled, writes]
  simp only [written]

/-- Whatever the layout, compiling to the standard output succeeds exactly if the manifest has a template,
and so does validating. -/
theorem status_eq_zero_iff (yaml : YamlReader) (tree : FileTree) (file : String) (stage : Option String)
    (action : Action) (prints : ∀ template, ∃ text, action.deliver template = .print text) :
    (runOn yaml ⟨action, file, stage⟩ tree).status = 0 ↔
      ∃ template, tree.templateOf yaml file stage = .ok template := by
  cases outcome : tree.templateOf yaml file stage with
  | error failure =>
    rw [runOn_of_error outcome]
    simp [Outcome.failed]
  | ok template =>
    obtain ⟨text, printed⟩ := prints template
    rw [runOn_of_print outcome printed]
    simp [Outcome.printed]

/-- What the commands do about a manifest that has a template. -/
structure Delivers (yaml : YamlReader) (tree : FileTree) (file : String) (stage : Option String)
    (template : Template) : Prop where
  /-- Validation lists counts and keys that sum up the document. -/
  summary : ∃ counts keys, template.document.IsSummedUpBy counts keys ∧
    runOn yaml ⟨.validate, file, stage⟩ tree =
      { status := 0
        stdout := "Validating...\n" ++
          (s!"✓ {template.resources.size} resources and {template.outputs.size} outputs compiled successfully.\n" ++
            String.join ((counts.map fun (type, count) => s!"  • {type} × {count}\n") ++
              keys.map fun key => s!"  output {key}\n"))
        stderr := ""
        tree }
  /-- Either layout of the document is printed or, if a path is given, written instead. -/
  document : ∀ compact, ∃ text,
    text = (if compact then template.document.compact else template.document.indented 0) ++ "\n" ∧
    runOn yaml ⟨.compile none compact, file, stage⟩ tree = { status := 0, stdout := text, stderr := "", tree } ∧
    ∀ output place, tree.placeFor output = .ok place → place ≠ .nullDevice →
      (runOn yaml ⟨.compile (some output) compact, file, stage⟩ tree).status = 0 ∧
      ∀ other, (runOn yaml ⟨.compile (some output) compact, file, stage⟩ tree).tree.file? other =
        if other = place then some text else tree.file? other

theorem delivers_of_templateOf (compiled : tree.templateOf yaml file stage = .ok template) :
    Delivers yaml tree file stage template where
  summary := ⟨template.countsByType, template.outputs.keys, template.isSummedUpBy, runOn_of_print compiled rfl⟩
  document := by
    intro compact
    refine ⟨template.documentText compact ++ "\n", rfl, ?_, ?_⟩
    · rw [runOn_of_print compiled rfl, Outcome.printed]
      rfl
    · intro output place found kept
      have written : tree.write output (template.documentText compact ++ "\n") =
          .ok (tree.put place (template.documentText compact ++ "\n")) :=
        FileTree.write_eq_ok.mpr ⟨place, found, rfl⟩
      rw [runOn_of_write compiled rfl written, Outcome.printed]
      exact ⟨rfl, fun other => FileTree.file?_put kept⟩

/-- The two commands succeed for the same manifests. Where there is no template, both end with status 1,
having changed no file and printed no more than that validation starts. -/
theorem runOn_agree (yaml : YamlReader) (tree : FileTree) (file : String) (stage : Option String) :
    (∀ compact, (runOn yaml ⟨.validate, file, stage⟩ tree).status = 0 ↔
      (runOn yaml ⟨.compile none compact, file, stage⟩ tree).status = 0) ∧
    (∀ failure, tree.templateOf yaml file stage = .error failure → ∀ action,
      runOn yaml ⟨action, file, stage⟩ tree =
        { status := 1
          stdout := if action = .validate then "Validating...\n" else ""
          stderr := "Error: " ++ failure.message file
          tree }) ∧
    (∀ template, tree.templateOf yaml file stage = .ok template → Delivers yaml tree file stage template) := by
  refine ⟨?_, ?_, fun template compiled => delivers_of_templateOf compiled⟩
  · intro compact
    rw [status_eq_zero_iff yaml tree file stage .validate fun _ => ⟨_, rfl⟩,
      status_eq_zero_iff yaml tree file stage (.compile none compact) fun _ => ⟨_, rfl⟩]
  · intro failure refused action
    rw [runOn_of_error refused, Outcome.failed]
    cases action with
    | compile output compact => rfl
    | validate => rfl

end Invocation

/-- A manifest with one service, in the block style of YAML. -/
def webManifest : String :=
  "service: my-app\nprovider:\n  stage: dev\necs:\n  - clusterName: api\n    vpc:\n" ++
    "      cidr: 10.0.0.0/16\n      subnets: [10.0.1.0/24, 10.0.2.0/24]\n    services:\n" ++
    "      - name: web\n        image: nginx\n        listeners:\n          - albProtocol: HTTP\n"

/-- The same manifest in JSON. -/
def webManifestFlow : String :=
  "\x7b\"service\": \"my-app\", \"provider\": \x7b\"stage\": \"dev\"\x7d, \"ecs\": [\x7b" ++
    "\"clusterName\": \"api\", \"vpc\": \x7b\"cidr\": \"10.0.0.0/16\", " ++
    "\"subnets\": [\"10.0.1.0/24\", \"10.0.2.0/24\"]\x7d, \"services\": [\x7b\"name\": \"web\", " ++
    "\"image\": \"nginx\", \"listeners\": [\x7b\"albProtocol\": \"HTTP\"\x7d]\x7d]\x7d]\x7d"

/-- A reader that knows one text in block style, and what is JSON too. -/
def YamlReader.ofWebManifest : YamlReader := fun content =>
  YamlReader.flow (if content = webManifest then webManifestFlow else content)

/-- A directory with the manifest under its usual name. -/
def webDirectory : FileTree :=
  .ofFiles [(["serverless.yml"], webManifest)]

private theorem read_webDirectory : webDirectory.read "serverless.yml" = .ok webManifest := by
  rw [FileTree.read, FileTree.namesOf_of_not_mem (by decide) (by decide)]
  decide +kernel

private theorem placeFor_webDirectory : webDirectory.placeFor "out.json" = .ok (.below ["out.json"]) := by
  rw [FileTree.placeFor, FileTree.namesOf_of_not_mem (by decide) (by decide)]
  decide +kernel

/-- The manifest has a template and the path of the output a place; the directory itself is no manifest. -/
theorem Invocation.runOn_agree_webDirectory : ∃ template,
    webDirectory.templateOf YamlReader.ofWebManifest "serverless.yml" none = .ok template ∧
    "MyappApiWebServiceDevHTTP80" ∈ template.outputs.keys ∧
    Delivers YamlReader.ofWebManifest webDirectory "serverless.yml" none template ∧
    webDirectory.placeFor "out.json" = .ok (.below ["out.json"]) ∧ Place.below ["out.json"] ≠ .nullDevice ∧
    webDirectory.templateOf YamlReader.ofWebManifest "" none = .error (.unreadable .isDirectory) ∧
    ∀ action, (runOn YamlReader.ofWebManifest ⟨action, "", none⟩ webDirectory).status = 1 := by
  obtain ⟨template, compiled, listed⟩ : ∃ template,
      (Invocation.mk .validate "serverless.yml" none).template YamlReader.ofWebManifest (.ok webManifest) =
        .ok template ∧ template.outputs.keys.contains "MyappApiWebServiceDevHTTP80" = true :=
    exists_of_passes (by decide +kernel)
  rw [← read_webDirectory] at compiled
  have missing : webDirectory.templateOf YamlReader.ofWebManifest "" none =
      .error (.unreadable .isDirectory) := by
    have names : FileTree.namesOf "" = .ok [""] := FileTree.namesOf_of_not_mem (by decide) (by decide)
    rw [FileTree.templateOf, FileTree.read, names]
    rfl
  obtain ⟨-, -, delivers⟩ := runOn_agree YamlReader.ofWebManifest webDirectory "serverless.yml" none
  obtain ⟨-, refuses, -⟩ := runOn_agree YamlReader.ofWebManifest webDirectory "" none
  refine ⟨template, compiled, List.contains_iff_mem.mp listed, delivers template compiled,
    placeFor_webDirectory, by decide, missing, ?_⟩
  intro action
  rw [refuses _ missing action]

end ClusterStack
