import ApiAudit.Engine.Basic
import ApiAudit.Signature.Grammar
import ApiAudit.Text.Utf8
import ApiAudit.FileTree.Basic
import ApiAudit.ClassFile
import ApiAudit.Journal
import ApiAudit.Path

/-!
# Engine/Calls — what one call to an engine does

`Engine.call` answers one call: it records the call first, then either answers as the engine's
behaviour says, fails as planned or does the operation's work.  The answer (`Engine.Reply`) is the engine afterwards, the records
the engine logged and the call's result; the engine afterwards is kept also when the call
fails, so a failed call stays in the record and signatures counted before a bad line stay
counted.

The operations' rules:

* a bundled name is valid when, without its version suffix, it names a bundled set; a JDK set
  named without a version needs a version hint;
* a signature text counts its signature lines (`Signature.checkText`) and stops at the first
  bad line, naming it by its number and its origin;
* a signature file is read as strict UTF-8;
* registering a class file reads it; scanning checks that every registered file starts with
  the class-file magic, and the violating engine then reports each file once.
-/

namespace ApiAudit.Engine

/-- What a call did: the engine afterwards, the records it logged and the result. -/
structure Reply where
  engine : Engine
  notes : Journal := []
  result : Except Failure Value

/-- A malformed signature source. -/
def signatureError (message : String) : Failure :=
  .audit (AuditError.make .signatureParse "signatures.invalid" message)

/-- A bundled name that names no bundled set. -/
def invalidBundled (name : String) : Failure :=
  signatureError s!"Invalid bundled signature reference: {name}"

/-- A JDK set named without a version and without a hint. -/
def needsVersion (name : String) : Failure :=
  signatureError s!"Bundled signatures '{name}' need a target version; use e.g. '{name}-1.8'"

/-- A line of a signature text that is no signature. -/
def invalidLine (origin : String) (number : Nat) (line : String) : Failure :=
  signatureError s!"Invalid signature in {origin} (line {number}): {line}"

/-- A value used where a text is matched against a pattern. -/
def notMatchable (v : Value) : Failure :=
  .fault ⟨.type, s!"expected string or bytes-like object, got '{v.typeName}'"⟩

/-- A value used where a text is cut into lines. -/
def notSplittable (v : Value) : Failure :=
  .fault ⟨.attribute, s!"'{v.typeName}' object has no attribute 'splitlines'"⟩

/-- **Loads a bundled set**: one more signature, or why the name is refused. -/
def loadBundled (e : Engine) (name hint : Value) : Except Failure Engine :=
  match name with
  | .str n =>
    let base := Signature.bundledBase n
    if !Signature.bundledNames.contains base then .error (invalidBundled n)
    else if base.startsWith "jdk-" && base == n && !hint.truthy then .error (needsVersion n)
    else .ok { e with signatureCount := e.signatureCount + 1 }
  | v => .error (notMatchable v)

/-- **Loads a signature text** from an origin: the engine with the lines counted up to the first
bad one, and the failure that bad line causes. -/
def loadText (e : Engine) (origin text : String) : Engine × Option Failure :=
  match Signature.checkText text with
  | .counted n => ({ e with signatureCount := e.signatureCount + n }, none)
  | .badLine n i line => ({ e with signatureCount := e.signatureCount + n }, some (invalidLine origin i line))

/-- Reads a file as strict UTF-8 text. -/
def readText (t : FileTree) (path : String) : Except Failure String :=
  match t.readBytes path with
  | .error oe => .error (.fault (Fault.ofOs oe))
  | .ok bytes =>
    match Text.decodeUtf8 bytes with
    | .error u => .error (.fault ⟨.unicodeDecode, u.text⟩)
    | .ok s => .ok s

/-- Checks that every file starts like a class file. -/
def checkClassFiles (t : FileTree) : List String → Except Failure Unit
  | [] => .ok ()
  | f :: rest =>
    match t.readBytes f with
    | .error oe => .error (.fault (Fault.ofOs oe))
    | .ok bytes =>
      if isClassFile bytes then checkClassFiles t rest
      else .error (.fault ⟨.value, s!"Invalid class file format: {f}"⟩)

/-- The violation the violating engine reports for `n` files. -/
def violationFor (n : Nat) : Failure :=
  let plural := if n == 1 then "" else "s"
  .audit (AuditError.make .violation "violation"
    s!"Check for forbidden API calls failed, see log ({n} error{plural})."
    (some (Value.obj [("errors", .int n)])))

/-- The forbidden call the violating engine reports: the process-exit method of the system
class. -/
def forbiddenCall : String := "java.lang.System" ++ "#" ++ "exit(int)"

/-- The record logged for each violating file. -/
def violationNote (file : String) : Note :=
  .logged .error s!"Forbidden method invocation: {forbiddenCall} [in {Path.name file}]"

/-- **Scans the registered files.** -/
def scan (t : FileTree) (e : Engine) : Journal × Except Failure Value :=
  match e.kind with
  | .faulty => ([], .error (.fault ⟨.runtime, "engine crashed while scanning"⟩))
  | .violating =>
    match checkClassFiles t e.classFiles with
    | .error f => ([], .error f)
    | .ok () =>
      if e.classFiles.isEmpty then ([], .ok .null)
      else (e.classFiles.map violationNote, .error (violationFor e.classFiles.length))
  | _ => ([], (checkClassFiles t e.classFiles).map fun _ => .null)

/-- The argument a call is recorded with. -/
def recordedArg (m : Method) (args : List Value) : Value :=
  match m with
  | .loadBundledSignatures => .list [args.headD .null, (args.drop 1).headD .null]
  | .isRuntimeSupported | .hasAnySignaturesLoaded | .execute => .null
  | _ => args.headD .null

/-- Whether signatures are available: `true` when some are counted, else the policy's
switch that forbids internal runtime classes, as given. -/
def reportsSignatures (e : Engine) : Value :=
  match e.kind with
  | .noSignatures => .bool false
  | _ => if e.signatureCount > 0 then .bool true else e.policy.internalRuntimeForbidden

/-- The operation's own work, after the call is recorded. -/
def perform (t : FileTree) (e : Engine) (m : Method) (args : List Value) : Reply :=
  let arg := args.headD .null
  match m with
  | .isRuntimeSupported => ⟨e, [], .ok (.bool e.kind.runtimeSupported)⟩
  | .registerSuppression => ⟨e, [], .ok .null⟩
  | .loadBundledSignatures =>
    match loadBundled e arg ((args.drop 1).headD .null) with
    | .ok e' => ⟨e', [], .ok .null⟩
    | .error f => ⟨e, [], .error f⟩
  | .loadInlineSignatures =>
    match arg with
    | .str text =>
      let (e', bad) := loadText e "inline signatures" text
      ⟨e', [], match bad with | some f => .error f | none => .ok .null⟩
    | v => ⟨e, [], .error (notSplittable v)⟩
  | .loadSignatureFile =>
    match arg with
    | .str path =>
      match readText t path with
      | .error f => ⟨e, [], .error f⟩
      | .ok text =>
        let (e', bad) := loadText e path text
        ⟨e', [], match bad with | some f => .error f | none => .ok .null⟩
    | v => ⟨e, [], .error (.fault (Fault.notAPath v))⟩
  | .hasAnySignaturesLoaded => ⟨e, [], .ok e.reportsSignatures⟩
  | .registerClassFile =>
    match arg with
    | .str path =>
      match t.readBytes path with
      | .error oe => ⟨e, [], .error (.fault (Fault.ofOs oe))⟩
      | .ok _ => ⟨{ e with classFiles := e.classFiles ++ [path] }, [], .ok .null⟩
    | v => ⟨e, [], .error (.fault (Fault.notAPath v))⟩
  | .execute =>
    let (notes, result) := scan t e
    ⟨e, notes, result⟩

/-- **Answers one call.**  An engine known by its behaviour records the call and answers as its
behaviour says.  For a deterministic one, a call with the wrong number of arguments fails before
anything happens; otherwise record it, then fail as planned or do the work. -/
def call (t : FileTree) (e : Engine) (m : Method) (args : List Value) : Reply :=
  match e.behaviour with
  | some b =>
    let (notes, result) := b.answer b.received t m args
    ⟨{ e.record m (recordedArg m args) with behaviour := some (b.receive t m args) }, notes, result⟩
  | none =>
    match arityFault e.kind m args.length with
    | some f => ⟨e, [], .error (.fault f)⟩
    | none =>
      let e := e.record m (recordedArg m args)
      match e.plannedFor m with
      | some f => ⟨e, [], .error f⟩
      | none => perform t e m args

end ApiAudit.Engine
