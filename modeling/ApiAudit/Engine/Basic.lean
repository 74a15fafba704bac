import ApiAudit.Config.Basic
import ApiAudit.Failure
import ApiAudit.Journal

/-!
# Engine/Basic — the scanning engines and their state

A scanning **engine** is driven through eight operations (`Engine.Method`): it reports whether
the runtime is supported, takes suppression patterns, loads signatures from bundled sets,
inline text or files, reports whether any signature is loaded, registers class files and
finally scans them.

The engines here are deterministic (`Engine.Kind`): they record every call, count signature
lines and look only at the first bytes of class files.  Besides its kind, an engine may carry
**planned failures**: a call to a listed operation is recorded and then fails as planned.

Any other engine is known by its **behaviour** (`Engine.Behaviour`): what it answers to each
call, and the behaviour it goes on with.  A run drives every engine the same way, so what holds
of a run for every behaviour holds whatever engine the run is given.
-/

namespace ApiAudit

namespace Engine

/-- The deterministic engines. -/
inductive Kind where
  /-- Records calls, counts signatures, never finds a violation. -/
  | recording
  /-- Reports one violation per registered class file. -/
  | violating
  /-- Reports that the runtime is not supported. -/
  | unsupportedRuntime
  /-- Accepts every signature source but reports that none is loaded. -/
  | noSignatures
  /-- Crashes while scanning. -/
  | faulty
  deriving DecidableEq, Repr

namespace Kind

/-- The class name an engine kind is known by. -/
def className : Kind → String
  | recording => "RecordingEngine"
  | violating => "ViolatingEngine"
  | unsupportedRuntime => "UnsupportedRuntimeEngine"
  | noSignatures => "NoSignaturesEngine"
  | faulty => "FaultyEngine"

/-- Every engine kind. -/
def all : List Kind := [recording, violating, unsupportedRuntime, noSignatures, faulty]

/-- The engine kind known by a class name. -/
def ofName? (name : String) : Option Kind := all.find? (·.className == name)

/-- Whether an engine of this kind supports the runtime. -/
def runtimeSupported : Kind → Bool
  | unsupportedRuntime => false
  | _ => true

end Kind

/-- The operations of an engine, in the order of the engine contract. -/
inductive Method where
  | isRuntimeSupported
  | registerSuppression
  | loadBundledSignatures
  | loadInlineSignatures
  | loadSignatureFile
  | hasAnySignaturesLoaded
  | registerClassFile
  | execute
  deriving DecidableEq, Repr

namespace Method

/-- The name of an operation. -/
def name : Method → String
  | isRuntimeSupported => "is_runtime_supported"
  | registerSuppression => "register_suppress_annotation"
  | loadBundledSignatures => "load_bundled_signatures"
  | loadInlineSignatures => "load_inline_signatures"
  | loadSignatureFile => "load_signature_file"
  | hasAnySignaturesLoaded => "has_any_signatures_loaded"
  | registerClassFile => "register_class_file"
  | execute => "execute"

/-- The operations in contract order. -/
def all : List Method :=
  [isRuntimeSupported, registerSuppression, loadBundledSignatures, loadInlineSignatures,
   loadSignatureFile, hasAnySignaturesLoaded, registerClassFile, execute]

/-- The operation of a name. -/
def ofName? (n : String) : Option Method := all.find? (·.name == n)

/-- The parameters an operation takes besides the engine itself. -/
def params : Method → List String
  | isRuntimeSupported | hasAnySignaturesLoaded | execute => []
  | registerSuppression => ["pattern"]
  | loadBundledSignatures => ["name", "version_hint"]
  | loadInlineSignatures => ["text"]
  | loadSignatureFile | registerClassFile => ["path"]

end Method

/-- The engine kind whose own definition of an operation an engine of kind `k` runs: the
violating and faulty engines scan their own way, the engine without signatures reports its
own way, everything else is the recording engine's. -/
def Kind.definer (k : Kind) (m : Method) : Kind :=
  match k, m with
  | .violating, .execute => .violating
  | .faulty, .execute => .faulty
  | .noSignatures, .hasAnySignaturesLoaded => .noSignatures
  | _, _ => .recording

/-- Names written as a list in a message: `'a'`, `'a' and 'b'`, `'a', 'b', and 'c'`. -/
def quotedNames (names : List String) : String :=
  let q := names.map fun n => "'" ++ n ++ "'"
  match q with
  | [] => ""
  | [a] => a
  | [a, b] => a ++ " and " ++ b
  | _ => ", ".intercalate q.dropLast ++ ", and " ++ q.getLastD ""

/-- **The fault of calling an operation with the wrong number of arguments**, counted with
the engine itself as the first; `none` when the count is right. -/
def arityFault (k : Kind) (m : Method) (given : Nat) : Option Fault :=
  let ps := m.params
  let callee := (k.definer m).className ++ "." ++ m.name ++ "()"
  if ps.length < given then
    let takes := ps.length + 1
    let plural := if takes == 1 then "" else "s"
    some ⟨.type, s!"{callee} takes {takes} positional argument{plural} but {given + 1} were given"⟩
  else if given < ps.length then
    let missing := ps.drop given
    let plural := if missing.length == 1 then "" else "s"
    some ⟨.type, s!"{callee} missing {missing.length} required positional argument{plural}: " ++
      quotedNames missing⟩
  else none

example : (arityFault .violating .execute 1).map Fault.text =
    some "ViolatingEngine.execute() takes 1 positional argument but 2 were given" := by decide
example : (arityFault .recording .loadBundledSignatures 0).map Fault.text =
    some ("RecordingEngine.load_bundled_signatures() missing 2 required positional arguments: " ++
      "'name' and 'version_hint'") := by decide

/-- **An engine known by its behaviour**: a call is answered from the calls the engine received
before it (each with the file tree it was made in), the file tree, the operation and its
arguments, with the records the engine logs and the call's result.  Whatever an engine object
keeps is a function of the calls it has seen, so every engine object is one of these. -/
structure Behaviour where
  answer : List (FileTree × Method × List Value) → FileTree → Method → List Value →
    Journal × Except Failure Value
  /-- The calls received so far, oldest first, each with the file tree it was made in. -/
  received : List (FileTree × Method × List Value) := []

/-- A behaviour after it received one more call. -/
def Behaviour.receive (b : Behaviour) (t : FileTree) (m : Method) (args : List Value) : Behaviour :=
  { b with received := b.received ++ [(t, m, args)] }

end Engine

/-- An engine and what it has seen so far: a deterministic one of some kind, or one known by its
behaviour, whose kind is then never consulted. -/
structure Engine where
  kind : Engine.Kind
  policy : Policy
  /-- The behaviour that answers every call, when the engine is not a deterministic one. -/
  behaviour : Option Engine.Behaviour := none
  /-- Operations that fail, with their failure. -/
  planned : List (Engine.Method × Failure) := []
  /-- The calls received, oldest first, each with its recorded argument. -/
  calls : List (Engine.Method × Value) := []
  signatureCount : Nat := 0
  /-- The registered class files, in registration order. -/
  classFiles : List String := []

namespace Engine

/-- Appends a call to the record. -/
def record (e : Engine) (m : Method) (arg : Value) : Engine := { e with calls := e.calls ++ [(m, arg)] }

/-- The call record as `[name, argument]` pairs. -/
def callLog (e : Engine) : Value := .list (e.calls.map fun (m, a) => .list [.str m.name, a])

/-- The planned failure of an operation, if any. -/
def plannedFor (e : Engine) (m : Method) : Option Failure := (e.planned.find? (·.1 == m)).map (·.2)

end Engine

end ApiAudit
