import ApiAudit.Schema.Basic
import ApiAudit.Failure
import ApiAudit.Text.FileLines
import ApiAudit.Text.Blank
import ApiAudit.Data.Json.Read
import ApiAudit.Yaml.Load

/-!
# Schema/Contracts — the schemas this library ships

Three schemas describe the library's files: one build task (`task.schema.json`), a build file
of tasks (`task_file.schema.json`) and one trace event (`trace_event.schema.json`).  A build file
refers to the task schema by name; the task schema's lists of texts share one definition.
-/

namespace ApiAudit.Schema

/-- A list of texts. -/
def textList : Schema := [.type [.array], .items [.type [.string]]]

/-- A text that is not empty. -/
def nonEmptyText : Schema := [.type [.string], .minLength 1]

/-- An engine spec. -/
def engineSpec : Schema := [.type [.string], .pattern specPattern]

/-- The schema of one build task. -/
def taskSchema : Schema :=
  [.type [.object], .closed,
   .properties
    [("classes_dir", nonEmptyText), ("classpath", [.ref "string_list"]),
     ("signatures_files", [.ref "string_list"]), ("signatures", [.ref "string_list"]),
     ("bundled_signatures", [.ref "string_list"]), ("target_compatibility", [.type [.string]]),
     ("internal_runtime_forbidden", [.type [.boolean]]), ("fail_on_unsupported_java", [.type [.boolean]]),
     ("fail_on_missing_classes", [.type [.boolean]]),
     ("fail_on_unresolvable_signatures", [.type [.boolean]]), ("ignore_failures", [.type [.boolean]]),
     ("disable_classloading_cache", [.type [.boolean]]), ("suppress_annotations", [.ref "string_list"]),
     ("includes", [.ref "string_list"]), ("excludes", [.ref "string_list"]), ("engine", engineSpec)],
   .required ["classes_dir"]]

/-- The schema of a build file. -/
def taskFileSchema : Schema :=
  [.type [.object], .closed,
   .properties
    [("version", [.type [.string]]),
     ("project", [.type [.object], .closed,
       .properties [("dir", nonEmptyText), ("target_compatibility", [.type [.string]]), ("engine", engineSpec)]]),
     ("tasks", [.type [.object], .minProperties 1, .propertyNames [.pattern taskNamePattern],
       .additional [.ref "task.schema.json"]])],
   .required ["tasks"]]

/-- The kinds of trace events. -/
def eventKinds : List String :=
  ["run_started", "files_resolved", "classloader_acquired", "runtime_checked",
   "suppress_annotations_registered", "signatures_loaded", "classes_registered", "violations_found",
   "scan_finished", "run_skipped", "classloader_released", "error", "run_finished"]

/-- The schema of one trace event. -/
def traceEventSchema : Schema :=
  [.type [.object], .closed,
   .properties
    [("ts", nonEmptyText), ("run_id", nonEmptyText), ("event_type", [.enum eventKinds]),
     ("step", [.type [.string]]), ("message", [.type [.string, .null]]),
     ("data", [.type [.object, .null]])],
   .required ["ts", "run_id", "event_type"]]

/-- The shipped schemas by name, sorted. -/
def contracts : List (String × Schema) :=
  [("task.schema.json", taskSchema), ("task_file.schema.json", taskFileSchema),
   ("trace_event.schema.json", traceEventSchema)]

/-- The schemas and definitions that references name. -/
def resolveName (name : String) : Option Schema :=
  if name == "string_list" then some textList else (contracts.find? (·.1 == name)).map (·.2)

/-- **Validates a value against a shipped schema**: the error texts, or a missing-key fault
for an unknown schema name. -/
def validate (name : String) (v : Value) : Except Fault (List String) :=
  match contracts.find? (·.1 == name) with
  | some (_, s) =>
    let errs := errors resolveName s v
    if errs.any (·.unshown) then .error ⟨.value, Value.longIntMessage⟩
    else .ok (errs.map SchemaError.render)
  | none => .error ⟨.key, (Value.str name).literal⟩

/-- The errors of numbered lines of JSON values. -/
def validateLines (name : String) : Nat → List String → Except Fault (List String)
  | _, [] => .ok []
  | i, line :: rest => do
    let line := Text.trim line
    let here ← if line.isEmpty then pure []
      else match Json.read line with
        | .error (.malformed m _) => pure [s!"line {i}: invalid json: {m}"]
        | .error e => throw (Fault.ofJson e line)
        | .ok v => do
          let errs ← validate name v
          pure (errs.map fun m => s!"line {i}: {m}")
    let more ← validateLines name (i + 1) rest
    pure (here ++ more)

/-- **Validates every line of a JSON-lines text** against a shipped schema; a line that is no
JSON is reported with the reader's message. -/
def validateText (name text : String) : Except Fault (List String) :=
  validateLines name 1 (Text.fileLines text)

/-- **Validates a YAML text** against a shipped schema.  The text is read with its line ends
unified; a text that is no YAML fails with the reader's error before the schema is looked up. -/
def validateYaml (name text : String) : Except Fault (List String) :=
  let text := String.ofList (Text.unifyLineEnds text.toList)
  match Yaml.load text with
  | .error e => .error (e.toFault text)
  | .ok v => validate name v

end ApiAudit.Schema
