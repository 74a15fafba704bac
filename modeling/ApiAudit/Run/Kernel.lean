import ApiAudit.Run.Drive
import ApiAudit.Classpath
import ApiAudit.FileSet

/-!
# Run/Kernel — one audit run from its configuration to its outcome

`Kernel.run` turns a run configuration into an outcome:

* a run with no signature source, while internal runtime classes are allowed, is skipped or
  rejected before any class-loading resource is taken;
* the classpath roots are built (`Classpath.build`);
* when the front end tolerates an empty class set, the class files are found first and an
  empty set skips the run; otherwise they are found during the run, after the runtime check,
  and a missing directory or an empty set is a configuration error;
* then the engine runs (`execute`).

The run's start and end are traced; an audit error is traced and passed on.
-/

namespace ApiAudit.Kernel

/-- The message of a run that found no class files. -/
def noClassesMessage (config : RunConfig) : String :=
  s!"No classes found in directory {config.classesDirectory} (includes={(Value.list config.includes).literal}, excludes={(Value.list config.excludes).literal})."

/-- The class files a configuration selects in a file tree: those below the classes directory
that its text patterns take in. -/
def selectIn (t : FileTree) (config : RunConfig) : List String :=
  FileSet.select t config.classesDirectory (config.includes.filterMap Value.asStr?)
    (config.excludes.filterMap Value.asStr?)

/-- **Finds the class files of a run.** -/
def classFiles (tr : Tracer) (ctx : RunContext) (config : RunConfig) : Audit (List String) := do
  Audit.log .info "Scanning for classes to check..."
  let dir := config.classesDirectory
  let tree := (← get).tree
  if !tree.isDir dir && !ctx.skipWhenNoClasses then
    throw (.config "classes.dir_not_found" s!"Directory with class files does not exist: {dir}"
      (some (Value.obj [("classes_directory", .str dir)])))
  let files := selectIn tree config
  tr.emit .filesResolved (some .files) none (some (Value.obj [("count", .int files.length)]))
  if files.isEmpty && !ctx.skipWhenNoClasses then
    throw (.config "classes.none_found" (noClassesMessage config))
  pure files

/-- The run after its start is traced. -/
def body (factory : Engine.Factory) (tr : Tracer) (ctx : RunContext) (config : RunConfig) :
    Audit Outcome := do
  if config.sources.isEmpty && !config.policy.internalRuntimeForbidden.truthy then
    if ctx.skipWhenNoSignatures then
      Audit.log .info noSignaturesSkip
      tr.emit .runSkipped (some .signatures) (some (.str noSignaturesSkip))
      return Outcome.skip noSignaturesSkip
    throw (.config "signatures.none" noSignaturesMessage)
  let env := (← get).env
  let classpath ← Audit.lift (Classpath.build env config.classpathEntries (.str config.classesDirectory))
  if ctx.skipWhenNoClasses then
    let files ← classFiles tr ctx config
    if files.isEmpty then
      let msg := noClassesMessage config
      Audit.log .info s!"Skipping execution: {msg}"
      tr.emit .runSkipped (some .files) (some (.str msg))
      return Outcome.skip msg
    execute factory tr ctx config classpath (.found files) (classFiles tr ctx config)
  else
    execute factory tr ctx config classpath .later (classFiles tr ctx config)

/-- Where the events of a run go. -/
def tracer (ctx : RunContext) : Tracer := { runId := ctx.runId, path := ctx.tracePath }

/-- Traces the start of a run, the first thing a run does. -/
def start (ctx : RunContext) (config : RunConfig) : Audit Unit :=
  (tracer ctx).emit .runStarted none (some (.str "Audit run started"))
    (some (Value.obj [("front_end", ctx.frontEnd), ("classes_directory", .str config.classesDirectory),
      ("meta", ctx.metadata)]))

/-- **Runs one audit.** -/
def run (factory : Engine.Factory) (ctx : RunContext) (config : RunConfig) : Audit Outcome := do
  let tr := tracer ctx
  start ctx config
  match ← Audit.attempt (body factory tr ctx config) with
  | .ok outcome =>
    tr.emit .runFinished none (some outcome.message)
      (some (Value.obj [("status", .str outcome.status.name), ("files_checked", .int outcome.filesChecked)]))
    pure outcome
  | .error (.audit e) =>
    tr.emit .runFailed none (some e.message) (some (Value.obj [("code", e.code)]))
    throw (.audit e)
  | .error other => throw other

end ApiAudit.Kernel
