import ApiAudit.Engine.Calls
import ApiAudit.Engine.Factory
import ApiAudit.Classpath.Loader
import ApiAudit.Trace.Event
import ApiAudit.Data.Json.Write
import ApiAudit.Environment
import ApiAudit.FileTree.Layout
import ApiAudit.Text.Utf8

/-!
# Run/Session — the state a run works on

A **session** is what one request works on: the file tree, the environment, the journal of
records and printed lines, and the engine and class-loading context of the latest run.
`Audit` computations run in a session and may fail; the session survives a failure, so the
answer of a failed run still shows the engine's calls, the context's state and the trace
written so far.

The engine and its factory are code outside the run.  The session keeps the **exchanges** with
them, in order: each request (`Request`: the factory called with a context, or an engine
operation called with its arguments) and its answer.

Trace events go to a file, one JSON line each, appended after the directories above it are
made (`Tracer.emit`); without a file, emitting does nothing.
-/

namespace ApiAudit

/-- What a run asks of the code outside it. -/
inductive Request where
  /-- The engine factory, called with a class-loading context and the policy. -/
  | build (context : Loader) (policy : Policy)
  /-- An engine operation, called with its arguments. -/
  | call (m : Engine.Method) (args : List Value)

/-- One request and its answer; a factory that builds an engine answers `null`. -/
structure Exchange where
  request : Request
  answer : Except Failure Value

/-- The state of one request. -/
structure Session where
  tree : FileTree
  env : Environment
  journal : Journal := []
  /-- The engine of the latest run, once built. -/
  engine : Option Engine := none
  /-- The class-loading context of the latest run, once handed to an engine factory. -/
  loader : Option Loader := none
  /-- The exchanges with the engine and its factory, oldest first. -/
  exchanges : List Exchange := []

/-- A computation in a session that may fail. -/
abbrev Audit := ExceptT Failure (StateM Session)

namespace Audit

/-- Runs a computation from a session. -/
def run {α : Type} (x : Audit α) (s : Session) : Except Failure α × Session := (ExceptT.run x).run s

/-- Lifts a result that may have failed. -/
def lift {α : Type} : Except Failure α → Audit α
  | .ok a => pure a
  | .error f => throw f

/-- Logs a record. -/
def log (level : Level) (message : String) : Audit Unit :=
  modify fun s => { s with journal := s.journal ++ [.logged level message] }

/-- Prints a line. -/
def print (text : String) : Audit Unit :=
  modify fun s => { s with journal := s.journal ++ [.printed text] }

/-- Changes the file tree; a file-system failure becomes a fault. -/
def alterTree (f : FileTree → Except OsError FileTree) : Audit Unit := do
  let s ← get
  match f s.tree with
  | .ok t => set { s with tree := t }
  | .error e => throw (.fault (Fault.ofOs e))

/-- Runs `body`, then `final` whatever happened; a failure of `final` replaces the body's
outcome. -/
def ensuring {α : Type} (body : Audit α) (final : Audit Unit) : Audit α := do
  let r ← tryCatch (body.map Except.ok) (fun f => pure (Except.error f))
  final
  lift r

/-- Runs a computation and returns its failure as a value. -/
def attempt {α : Type} (x : Audit α) : Audit (Except Failure α) :=
  tryCatch (x.map Except.ok) (fun f => pure (Except.error f))

/-- **Calls the engine of the session.** -/
def invoke (m : Engine.Method) (args : List Value := []) : Audit Value := do
  let s ← get
  match s.engine with
  | none => throw (.fault ⟨.attribute, s!"'NoneType' object has no attribute '{m.name}'"⟩)
  | some e =>
    let r := Engine.call s.tree e m args
    set { s with engine := some r.engine, journal := s.journal ++ r.notes,
                 exchanges := s.exchanges ++ [Exchange.mk (.call m args) r.result] }
    lift r.result

/-- **Calls the engine factory** with a class-loading context and the policy. -/
def build (factory : Engine.Factory) (context : Loader) (policy : Policy) : Audit Engine := do
  let r := factory.make context policy
  modify fun s =>
    { s with exchanges := s.exchanges ++ [Exchange.mk (.build context policy) (r.map fun _ => .null)] }
  lift r

end Audit

/-- Where the events of a run go. -/
structure Tracer where
  runId : Value
  path : Option String := none

/-- The way trace lines are written: one line, text characters kept as they are. -/
def traceStyle : Json.Style := Json.Style.line

/-- The characters a written event holds before its first field shown here: the clock stamp
`"ts": "2024-01-01T00:00:00.000000Z", `. -/
def stampWidth : Nat := 37

/-- How many characters longer the real name of the work directory is than `/work`. -/
def rootSurplus : Nat := 18

/-- The position a character of a shown trace line has in the line as written: after the clock
stamp, and after the real name of every work directory before it. -/
def writtenPosition (line : List Char) (p : Nat) : Nat :=
  let roots := (List.range p).filter fun i => (line.drop i).take 5 == "/work".toList
  p + stampWidth + rootSurplus * roots.length

/-- **Appends an event** to the trace file, making the directories above it first.  A null
message or data is left out like a missing one.  A line holding a lone surrogate cannot be
written: the file is opened, nothing is added, and the refusal names the surrogates by their
positions in the written line. -/
def Tracer.emit (tr : Tracer) (happening : Trace.Happening) (stage : Option Trace.Stage := none)
    (message : Option Value := none) (data : Option Value := none) : Audit Unit :=
  match tr.path with
  | none => pure ()
  | some p => do
    let event : Trace.Event :=
      { runId := tr.runId, happening, stage, message := message.filter (!·.isNull),
        data := data.filter (!·.isNull) }
    let line := Json.render traceStyle event.toValue ++ "\n"
    Audit.alterTree (·.makeDirs (Path.parent p))
    match Text.firstRun? line with
    | some r =>
      Audit.alterTree (·.appendBytes p [])
      let cs := line.toList
      let shown : Text.EncodeRefusal :=
        { r with start := writtenPosition cs r.start, stop := writtenPosition cs r.stop }
      throw (.fault ⟨.unicodeEncode, shown.message⟩)
    | none => Audit.alterTree (·.appendBytes p (utf8Bytes line))

end ApiAudit
