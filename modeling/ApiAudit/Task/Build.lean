import ApiAudit.Task.Check
import ApiAudit.Schema.Contracts
import ApiAudit.Text.Utf8

/-!
# Task/Build — build files of check tasks, and running them

A **build file** is a YAML document naming check tasks (`task_file.schema.json`):

```text
project:            # optional
  dir: sub/project  # paths of tasks are read against it
  target_compatibility: '11'
  engine: module:Object
tasks:
  name:
    classes_dir: c
    signatures: [a.B]
    …
```

`BuildFile.load` reads one and fails with a configuration error when it is missing
(`build_file.not_found`), no YAML (`build_file.invalid`, with the reader's message) or not of
the schema (`build_file.schema_invalid`, with every schema error).  A scalar the reader refuses
(a timestamp naming no real moment) is a fault of its own, not a configuration error.  `BuildFile.tasks` turns it
into tasks in the order written: the project directory is read against the directory of the
build file, a task's target and engine fall back to the project's, lists are taken as given,
switches by their truth, and include patterns each once.

`runTasks` runs tasks in order, logging `> Task :name` before each.  A task failure is logged
and ends the build unless the build keeps going; a run that passed with a message had its
violations ignored.
-/

namespace ApiAudit

/-- How a task of a build ended. -/
inductive TaskStatus where
  | passed
  | violationsIgnored
  | skipped
  | failed
  deriving Repr, DecidableEq

/-- The name of a task status. -/
def TaskStatus.name : TaskStatus → String
  | .passed => "passed"
  | .violationsIgnored => "violations_ignored"
  | .skipped => "skipped"
  | .failed => "failed"

/-- The result of one task of a build. -/
structure TaskResult where
  name : Value
  status : TaskStatus
  message : Value := .null

namespace BuildFile

/-- The schema build files follow. -/
def schemaName : String := "task_file.schema.json"

/-- The build file read when none is named. -/
def defaultName : String := "forbiddenapis.yml"

/-- The task properties that hold lists. -/
def listProperties : List String :=
  ["signatures_files", "signatures", "bundled_signatures", "suppress_annotations", "excludes"]

/-- The task properties that are switches. -/
def switchProperties : List String :=
  ["internal_runtime_forbidden", "fail_on_unsupported_java", "fail_on_missing_classes",
   "fail_on_unresolvable_signatures", "ignore_failures", "disable_classloading_cache"]

/-- **Reads and validates a build file**, named as the caller wrote it. -/
def load (path : String) : Audit Value := do
  let tree := (← get).tree
  if !tree.isFile path then
    throw (Failure.config "build_file.not_found" s!"Build file not found: {path}")
  let bytes ← Audit.lift ((tree.readBytes path).mapError (Failure.fault ∘ Fault.ofOs))
  let raw ← match Text.decodeUtf8 bytes with
    | .ok s => pure s
    | .error e => throw (.fault ⟨.unicodeDecode, e.text⟩)
  let text := String.ofList (Text.unifyLineEnds raw.toList)
  match Yaml.load text with
  | .error e =>
    if !e.isSyntax then throw (.fault (e.toFault text))
    let detail := e.message (Yaml.bufferOf text)
    throw (Failure.config "build_file.invalid" s!"Build file is not valid YAML: {path}: {detail}")
  | .ok doc =>
    let errors ← Audit.lift ((Schema.validate schemaName doc).mapError .fault)
    if !errors.isEmpty then
      let joined := "; ".intercalate errors
      throw (Failure.config "build_file.schema_invalid"
        s!"Build file does not validate against {schemaName}: {joined}"
        (some (Value.obj [("errors", Value.strs errors)])))
    pure doc

/-- The directory holding a file, its links resolved. -/
def realParent (tree : FileTree) (path : String) : String :=
  match tree.resolve path with
  | .ok comps => "/" ++ "/".intercalate comps.dropLast
  | .error _ => Path.parent (Path.absolute path)

/-- The items of a value as a list value. -/
def listOf (v : Value) : Except Failure Value :=
  (v.elements.map Value.list).mapError .fault

/-- The task a block of the build file declares. -/
def taskOf (project : Value) (projectDir : String) (tracePath : Option String) (name : Value)
    (block : Value) : Except Failure CheckTask := do
  let base : CheckTask := { name, projectDir, tracePath, classesDir := block.field "classes_dir" }
  let classpath ← listOf ((block.get? "classpath").getD (.list []))
  let mut t := { base with classpath }
  for key in listProperties do
    if let some v := block.get? key then
      t := t.setProperty key (← listOf v)
  for key in switchProperties do
    if let some v := block.get? key then
      t := t.setProperty key (.bool v.truthy)
  if let some v := block.get? "includes" then
    t ← (t.setIncludes v).mapError .fault
  let target := (block.get? "target_compatibility").getD (project.field "target_compatibility")
  let engine := if (block.field "engine").truthy then block.field "engine" else project.field "engine"
  pure { t with targetCompatibility := target, engine }

/-- **The tasks of a build file** read from `path`, in the order written. -/
def tasks (path : String) (doc : Value) (tracePath : Option String) : Audit (List CheckTask) := do
  let tree := (← get).tree
  let project := if (doc.field "project").truthy then doc.field "project" else .dict []
  let dir := match project.field "dir" with
    | .str d => if d.isEmpty then "." else Path.clean d
    | _ => "."
  let projectDir := if Path.isAbsolute dir then dir else Path.child (realParent tree path) dir
  let blocks := match doc.field "tasks" with
    | .dict es => es
    | _ => []
  Audit.lift (blocks.mapM fun (k, block) => taskOf project projectDir tracePath k block)

/-- **Reads a build file and its tasks.** -/
def loadTasks (path : String) (tracePath : Option String) : Audit (List CheckTask) := do
  let doc ← load path
  tasks path doc tracePath

end BuildFile

/-- The result of a task run that did not fail: a run that passed with a message had its
violations ignored. -/
def TaskResult.ofOutcome (name : Value) (o : Outcome) : TaskResult :=
  if o.status == .skipped then ⟨name, .skipped, o.message⟩
  else if o.message.truthy then ⟨name, .violationsIgnored, o.message⟩
  else ⟨name, .passed, .null⟩

/-- **Runs tasks in order**; a failed task ends the run unless `keepGoing`. -/
def runTasks (keepGoing : Bool) : List CheckTask → Audit (List TaskResult)
  | [] => pure []
  | t :: rest => do
    Audit.log .info s!"> Task :{t.name.text}"
    match ← Audit.attempt (t.check none) with
    | .error (.task e) =>
      Audit.log .error s!"Execution failed for task ':{t.name.text}': {e.message.text}"
      let r : TaskResult := ⟨t.name, .failed, e.message⟩
      if keepGoing then pure (r :: (← runTasks keepGoing rest)) else pure [r]
    | .error other => throw other
    | .ok o => pure (TaskResult.ofOutcome t.name o :: (← runTasks keepGoing rest))

end ApiAudit
