import ApiAudit.Run.Basic
import ApiAudit.Run.Session
import ApiAudit.Engine.Factory
import ApiAudit.Data.Value.Text

/-!
# Run/Drive — one engine through one audit run

`drive` takes an engine through the steps of a run, strictly in order and without retries; the
first failing step ends the run:

1. the runtime check: an unsupported runtime fails the run under the policy, else skips it;
2. suppression patterns;
3. the class files (`ClassFiles`: found already, or found now);
4. every signature source, in order;
5. unless internal runtime classes are forbidden, the engine must report signatures, or the
   run is skipped or fails;
6. every class file is registered;
7. the scan: a violation is an outcome, not a failure.

Whatever an engine call raises that is no audit error becomes an engine fault
(`Failure.ofEngineCall`); a file-system failure while registering a class file is a resource
error, and one while loading signatures too (`Failure.ofSignatureLoad`).

The steps are split where the run can stop early: `drive` holds the runtime check,
`driveSupported` the steps up to the signature sources, `checkSignatures` the signature check
and `registerAndScan` the rest.

`execute` opens a class-loading context around the run: the factory builds the engine inside
it, and the context is closed and its release traced on every way out.
-/

namespace ApiAudit

/-- Where the class files of a run come from. -/
inductive ClassFiles where
  /-- Found before the run started. -/
  | found (files : List String)
  /-- Found when the run needs them, by `find`. -/
  | later

/-- **What a failure of an engine step becomes**: an audit error stays as it is, a file-system
failure goes to `onOs` when given, and anything else is an engine fault quoting it. -/
def Failure.ofEngineCall (what : String) (onOs : Option (Fault → Failure)) : Failure → Failure
  | .audit e => .audit e
  | .fault f =>
    match f.kind.isOs, onOs with
    | true, some g => g f
    | _, _ => Failure.engineFault s!"Scanning engine failed to {what}: {f.text}"
  | other => Failure.engineFault s!"Scanning engine failed to {what}: {other.text}"

/-- **Runs an engine step**, its failures turned by `Failure.ofEngineCall`. -/
def engineCall {α : Type} (what : String) (onOs : Option (Fault → Failure)) (act : Audit α) :
    Audit α :=
  tryCatch act fun f => throw (Failure.ofEngineCall what onOs f)

/-- The resource error of a class file that cannot be read. -/
def classLoadFailed (path : String) (f : Fault) : Failure :=
  .audit (AuditError.make .resource "classes.load_failed"
    s!"Failed to load one of the given class files: {path}: {f.text}"
    (some (Value.obj [("path", .str path)])))

/-- The argument a signature source is loaded with, and how its loading is traced. -/
def loadSource (source : Source) : Audit String :=
  match source with
  | .bundled name hint => do
    Audit.log .info s!"Reading bundled API signatures: {name}"
    let _ ← Audit.invoke .loadBundledSignatures [.str name, Value.optStr hint]
    pure name
  | .inline text => do
    Audit.log .info "Reading inline API signatures..."
    let _ ← Audit.invoke .loadInlineSignatures [.str text]
    pure "<inline>"
  | .file path => do
    Audit.log .info s!"Reading API signatures: {path}"
    if !(← get).tree.isFile path then
      throw (.fault ⟨.os "FileNotFoundError", s!"Signatures file does not exist: {path}"⟩)
    let _ ← Audit.invoke .loadSignatureFile [.str path]
    pure path

/-- **What a failure of loading a signature source becomes**: a file-system failure is a
resource error, an audit error stays, anything else is an engine fault. -/
def Failure.ofSignatureLoad : Failure → Failure
  | .audit e => .audit e
  | .fault f =>
    if f.kind.isOs then
      .audit (AuditError.make .resource "signatures.io_error"
        s!"IO problem while reading files with API signatures: {f.text}")
    else Failure.engineFault s!"Loading API signatures failed: {f.text}"
  | other => Failure.engineFault s!"Loading API signatures failed: {other.text}"

/-- **Loads every signature source**, its failures turned by `Failure.ofSignatureLoad`. -/
def loadSignatures (tr : Tracer) : List Source → Audit Unit
  | [] => pure ()
  | source :: rest => do
    let described ← tryCatch (loadSource source) fun f => throw (Failure.ofSignatureLoad f)
    tr.emit .signaturesLoaded (some .signatures) none (some (Value.obj [("source", .str described)]))
    loadSignatures tr rest

/-- Registers the class files below the classes directory. -/
def registerClassFiles (dir : String) : List String → Audit Unit
  | [] => pure ()
  | rel :: rest => do
    let path := Path.child dir rel
    let _ ← engineCall "register class file" (some (classLoadFailed path))
      (Audit.invoke .registerClassFile [.str path])
    registerClassFiles dir rest

/-- Registers the suppression patterns. -/
def registerSuppressions : List String → Audit Unit
  | [] => pure ()
  | p :: rest => do
    let _ ← engineCall "register suppress annotation" none
      (Audit.invoke .registerSuppression [.str p])
    registerSuppressions rest

/-- **Scans**, turning a violation into an outcome. -/
def scan (tr : Tracer) (config : RunConfig) (count : Nat) : Audit Outcome := do
  Audit.log .info "Scanning for API signatures and dependencies..."
  match ← Audit.attempt (Audit.invoke .execute) with
  | .ok _ =>
    tr.emit .scanFinished (some .scan) none (some (Value.obj [("files_checked", .int count)]))
    pure { status := .passed, filesChecked := count }
  | .error (.audit e) =>
    if e.kind == .violation then do
      tr.emit .violationsFound (some .scan) (some e.message) e.data
      if config.policy.failOnViolation.truthy then
        pure { status := .violations, message := e.message, filesChecked := count }
      else do
        Audit.log .warning s!"Forbidden API usage found, failures are ignored: {e.text}"
        pure { status := .passed, message := e.message, filesChecked := count }
    else throw (.audit e)
  | .error other => throw (Failure.engineFault s!"Scanning for forbidden API usage failed: {other.text}")

/-- Registers every class file, then scans. -/
def registerAndScan (tr : Tracer) (config : RunConfig) (classFiles : List String) :
    Audit Outcome := do
  Audit.log .info "Loading classes to check..."
  registerClassFiles config.classesDirectory classFiles
  tr.emit .classesRegistered (some .classes) none (some (Value.obj [("count", .int classFiles.length)]))
  scan tr config classFiles.length

/-- Once the signature sources are loaded: unless internal runtime classes are forbidden, the
engine must report signatures, or the run is skipped or fails; then the class files are
registered and scanned. -/
def checkSignatures (tr : Tracer) (ctx : RunContext) (config : RunConfig)
    (classFiles : List String) : Audit Outcome := do
  if !config.policy.internalRuntimeForbidden.truthy then
    let any ← engineCall "report loaded signatures" none (Audit.invoke .hasAnySignaturesLoaded)
    if !any.truthy then
      if ctx.skipWhenNoSignatures then
        Audit.log .info noSignaturesSkip
        tr.emit .runSkipped (some .signatures) (some (.str noSignaturesSkip))
        return Outcome.skip noSignaturesSkip
      throw (.config "signatures.none_loaded" noSignaturesMessage)
  registerAndScan tr config classFiles

/-- The run past a supported runtime: suppressions, the class files, the signature sources,
then `checkSignatures`. -/
def driveSupported (tr : Tracer) (ctx : RunContext) (config : RunConfig) (files : ClassFiles)
    (find : Audit (List String)) : Audit Outcome := do
  tr.emit .runtimeChecked (some .capability) none (some (Value.obj [("supported", .bool true)]))
  registerSuppressions config.suppressions
  if !config.suppressions.isEmpty then
    tr.emit .suppressionsRegistered (some .suppress) none
      (some (Value.obj [("patterns", Value.strs config.suppressions)]))
  let classFiles ← match files with
    | .found fs => pure fs
    | .later => find
  loadSignatures tr config.sources
  checkSignatures tr ctx config classFiles

/-- **Drives the engine of the session through a run**, from the runtime check on. -/
def drive (tr : Tracer) (ctx : RunContext) (config : RunConfig) (files : ClassFiles)
    (find : Audit (List String)) : Audit Outcome := do
  let policy := config.policy
  let supported ← engineCall "check runtime support" none (Audit.invoke .isRuntimeSupported)
  if !supported.truthy then
    if policy.failOnUnsupportedRuntime.truthy then
      throw (.audit (AuditError.make .unsupportedRuntime "runtime.unsupported" unsupportedRuntimeMessage))
    Audit.log .warning unsupportedRuntimeMessage
    tr.emit .runSkipped (some .capability) (some (.str unsupportedRuntimeMessage))
    return Outcome.skip unsupportedRuntimeMessage
  driveSupported tr ctx config files find

/-- **Runs an engine inside a class-loading context** over the classpath. -/
def execute (factory : Engine.Factory) (tr : Tracer) (ctx : RunContext) (config : RunConfig)
    (classpath : List String) (files : ClassFiles) (find : Audit (List String)) : Audit Outcome := do
  let loader : Loader := { roots := classpath }
  tr.emit .loaderAcquired (some .acquire) none (some (Value.obj [("classpath", Value.strs classpath)]))
  Audit.ensuring
    (Audit.ensuring
      (do
        modify fun s => { s with loader := some loader }
        let engine ← engineCall "create the scanning engine" none
          (Audit.build factory loader config.policy)
        modify fun s => { s with engine := some engine }
        drive tr ctx config files find)
      (modify fun s => { s with loader := s.loader.map Loader.close }))
    (tr.emit .loaderReleased (some .release))

end ApiAudit
