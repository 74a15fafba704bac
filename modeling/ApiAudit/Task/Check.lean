import ApiAudit.Run.Kernel
import ApiAudit.Engine.Catalog
import ApiAudit.Config.Resolve

/-!
# Task/Check — the build task that checks class files

A `CheckTask` is configured the way a build script configures it: its properties are set one
by one, as whatever values the script gives, and are only checked when the task runs.  Every
policy switch is off by default, except that violations fail the build unless
`ignore_failures` is set.

* `CheckTask.classFiles` lists the class files the task would check;
* `CheckTask.properties` gives the task's properties with paths resolved against the project
  directory (`~` expanded first);
* `CheckTask.check` runs the task: it resolves the configuration from the properties, picks
  the engine (the given factory, or the engine spec of the task or the environment) and runs
  the audit.  Missing signatures skip the run unless `fail_on_unresolvable_signatures` is set;
  found violations fail the task.  Audit errors become task failures: bad input and bad
  signatures are invalid user data, resource errors stay resource failures, the rest are
  execution failures.
-/

namespace ApiAudit

/-- A build task and its properties as set. -/
structure CheckTask where
  name : Value := .str "forbiddenApis"
  projectDir : String := Path.workDir
  classesDir : Value := .null
  classpath : Value := .null
  signaturesFiles : Value := .list []
  signatures : Value := .list []
  bundledSignatures : Value := .list []
  targetCompatibility : Value := .null
  internalRuntimeForbidden : Value := .bool false
  failOnUnsupportedJava : Value := .bool false
  failOnMissingClasses : Value := .bool false
  failOnUnresolvableSignatures : Value := .bool false
  ignoreFailures : Value := .bool false
  disableClassloadingCache : Value := .bool false
  suppressAnnotations : Value := .list []
  includes : Value := .list [.str "**/*.class"]
  excludes : Value := .list []
  engine : Value := .null
  tracePath : Option String := none

namespace CheckTask

/-- **Sets a property** by its name; an unknown name changes nothing that is read later. -/
def setProperty (t : CheckTask) (key : String) (v : Value) : CheckTask :=
  match key with
  | "classes_dir" => { t with classesDir := v }
  | "classpath" => { t with classpath := v }
  | "signatures_files" => { t with signaturesFiles := v }
  | "signatures" => { t with signatures := v }
  | "bundled_signatures" => { t with bundledSignatures := v }
  | "target_compatibility" => { t with targetCompatibility := v }
  | "internal_runtime_forbidden" => { t with internalRuntimeForbidden := v }
  | "fail_on_unsupported_java" => { t with failOnUnsupportedJava := v }
  | "fail_on_missing_classes" => { t with failOnMissingClasses := v }
  | "fail_on_unresolvable_signatures" => { t with failOnUnresolvableSignatures := v }
  | "ignore_failures" => { t with ignoreFailures := v }
  | "disable_classloading_cache" => { t with disableClassloadingCache := v }
  | "suppress_annotations" => { t with suppressAnnotations := v }
  | "includes" => { t with includes := v }
  | "excludes" => { t with excludes := v }
  | "engine" => { t with engine := v }
  | _ => t

/-- Whether a text occurs in another one. -/
def occursIn (piece : List Char) : List Char → Bool
  | [] => piece.isEmpty
  | c :: rest => piece.isPrefixOf (c :: rest) || occursIn piece rest

/-- Whether a pattern value already holds a pattern, as a membership test reads it: a list by an
equal item, a text by a piece of text, a dictionary by an equal key.  Other values cannot be
searched. -/
def holds (current p : Value) : Except Fault Bool :=
  match current, p with
  | .list xs, _ => .ok (xs.any (Value.equals · p))
  | .str s, .str q => .ok (occursIn q.toList s.toList)
  | .str _, q => .error ⟨.type, s!"'in <string>' requires string as left operand, not {q.typeName}"⟩
  | .dict _, .list _ | .dict _, .dict _ => .error ⟨.type, s!"unhashable type: '{p.typeName}'"⟩
  | .dict es, q => .ok (es.any (Value.sameKey ·.1 q))
  | v, _ => .error ⟨.type, s!"argument of type '{v.typeName}' is not iterable"⟩

/-- Appends, one by one, the patterns that a pattern list lacks; only a list can grow. -/
def appendNew (current : Value) (patterns : List Value) : Except Fault Value :=
  patterns.foldlM (fun acc p => do
    if ← holds acc p then pure acc
    else
      match acc with
      | .list xs => pure (.list (xs ++ [p]))
      | v => .error ⟨.attribute, s!"'{v.typeName}' object has no attribute 'append'"⟩) current

/-- Adds include patterns that are not there yet. -/
def addIncludes (t : CheckTask) (patterns : List Value) : Except Fault CheckTask :=
  (appendNew t.includes patterns).map fun v => { t with includes := v }

/-- Adds exclude patterns that are not there yet. -/
def addExcludes (t : CheckTask) (patterns : List Value) : Except Fault CheckTask :=
  (appendNew t.excludes patterns).map fun v => { t with excludes := v }

/-- Replaces the include patterns, each kept once. -/
def setIncludes (t : CheckTask) (patterns : Value) : Except Fault CheckTask := do
  let xs ← Value.firstOccurrences (← patterns.elements)
  pure { t with includes := .list xs }

/-- Replaces the exclude patterns, each kept once. -/
def setExcludes (t : CheckTask) (patterns : Value) : Except Fault CheckTask := do
  let xs ← Value.firstOccurrences (← patterns.elements)
  pure { t with excludes := .list xs }

/-- **A path of the project**: `~` expanded, then read against the project directory. -/
def projectPath (t : CheckTask) (env : Environment) (p : Value) : Except Fault String :=
  match p with
  | .str s => do
    let expanded ← env.expandUser s
    pure (if Path.isAbsolute expanded then Path.clean expanded else Path.child t.projectDir expanded)
  | v => .error (Fault.notAPath v)

/-- The text patterns of a pattern value. -/
def textPatterns (v : Value) : Except Fault (List String) :=
  (v.elements).map (·.filterMap Value.asStr?)

/-- **The class files the task checks**, relative to the classes directory. -/
def classFiles (t : CheckTask) (tree : FileTree) (env : Environment) : Except Fault (List String) :=
  match t.classesDir with
  | .null => .ok []
  | dir => do
    let root ← t.projectPath env dir
    let inc ← textPatterns t.includes
    let exc ← textPatterns t.excludes
    pure (FileSet.select tree root inc exc)

/-- The project paths of a collection, as texts. -/
def projectPaths (t : CheckTask) (env : Environment) (v : Value) : Except Fault Value := do
  let xs ← v.elements
  let ps ← xs.mapM (t.projectPath env)
  pure (Value.strs ps)

/-- **The properties of the task**, paths resolved. -/
def properties (t : CheckTask) (env : Environment) : Except Fault Value := do
  let classesDir ← match t.classesDir with
    | .null => pure Value.null
    | d => (t.projectPath env d).map Value.str
  let classpath ← if t.classpath.truthy then t.projectPaths env t.classpath else pure (.list [])
  let signaturesFiles ← t.projectPaths env t.signaturesFiles
  let asList (v : Value) : Except Fault Value := v.elements.map Value.list
  pure (Value.obj
    [("classes_dir", classesDir), ("classpath", classpath), ("signatures_files", signaturesFiles),
     ("signatures", ← asList t.signatures), ("bundled_signatures", ← asList t.bundledSignatures),
     ("target_compatibility", t.targetCompatibility),
     ("internal_runtime_forbidden", t.internalRuntimeForbidden),
     ("fail_on_unsupported_java", t.failOnUnsupportedJava),
     ("fail_on_missing_classes", t.failOnMissingClasses),
     ("fail_on_unresolvable_signatures", t.failOnUnresolvableSignatures),
     ("ignore_failures", t.ignoreFailures),
     ("disable_classloading_cache", t.disableClassloadingCache),
     ("suppress_annotations", ← asList t.suppressAnnotations),
     ("includes", ← asList t.includes), ("excludes", ← asList t.excludes)])

/-- The warning of bundled signatures read without a compiler target. -/
def missingTargetWarning : String :=
  "The 'target_compatibility' project or task property is missing. " ++
  "Trying to read bundled JDK signatures without compiler target. " ++
  "You have to explicitly specify the version in the resource name."

/-- **The task failure an audit error becomes.** -/
def translate (t : CheckTask) (e : AuditError) : Failure :=
  let kind : TaskKind := match e.kind with
    | .configuration | .signatureParse => .invalidUserData
    | .resource => .resource
    | _ => .execution
  .task ⟨kind, t.name, e.message, e.code⟩

/-- The context of the task's run. -/
def runContext (t : CheckTask) (config : RunConfig) : RunContext :=
  { runId := t.name, frontEnd := .str "task", skipWhenNoClasses := true,
    skipWhenNoSignatures := !config.policy.failOnUnresolvableSignatures.truthy,
    tracePath := t.tracePath,
    metadata := Value.obj [("task", t.name), ("project_dir", .str t.projectDir)] }

/-- Picks the engine factory: the given one, else the one the task's spec names. -/
def factoryFor (t : CheckTask) (given : Option Engine.Factory) : Audit Engine.Factory :=
  match given with
  | some f => pure f
  | none => do
    let spec ← Audit.lift (Engine.resolveSpec (← get).env t.engine)
    Audit.lift (Engine.loadFactory (.str spec))

/-- **Runs the task.** -/
def check (t : CheckTask) (given : Option Engine.Factory) : Audit Outcome := do
  if t.classesDir.isNull || t.classpath.isNull then
    throw (.task ⟨.invalidUserData, t.name, .str "Missing 'classes_dir' or 'classpath' property.",
      .str "config.invalid"⟩)
  let env := (← get).env
  let props ← Audit.lift ((t.properties env).mapError Failure.fault)
  match Config.resolveTask env props with
  | .error (.audit e) =>
    if e.kind == .configuration && e.hasCode "signatures.none" && !t.failOnUnresolvableSignatures.truthy then
      Audit.log .info noSignaturesSkip
      return Outcome.skip noSignaturesSkip
    throw (if e.kind == .configuration then t.translate e else .audit e)
  | .error other => throw other
  | .ok config =>
    if config.missingHint then Audit.log .warning missingTargetWarning
    let r ← Audit.attempt (do
      let factory ← t.factoryFor given
      Kernel.run factory (t.runContext config) config)
    match r with
    | .error (.audit e) => throw (t.translate e)
    | .error other => throw other
    | .ok outcome =>
      if outcome.status == .violations then
        let message := if outcome.message.truthy then outcome.message else .str "Forbidden API usage detected"
        throw (.task ⟨.execution, t.name, message, .str "violation"⟩)
      pure outcome

end CheckTask

end ApiAudit
