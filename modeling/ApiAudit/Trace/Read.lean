import ApiAudit.Trace.Event
import ApiAudit.Data.Json.Read
import ApiAudit.FileTree.Basic
import ApiAudit.Text.Utf8
import ApiAudit.Text.Blank
import ApiAudit.Text.FileLines
import ApiAudit.Failure

/-!
# Trace/Read — reading a trace back

A trace file is read as UTF-8 text whose line ends (`\n`, `\r\n`, `\r`) all count as `\n`.
Every line that is not blank holds one event; a line that is no JSON fails the whole read with
the reader's message, placed within that line.  A missing file is an empty trace.  With a run
id, only the events of that run are kept; lines are read in order, and an event that is no
object fails the read when a run id asks for its own.
-/

namespace ApiAudit.Trace

/-- Whether an event belongs to a run: with a run id, the event is asked for its own, which
only an object can answer. -/
def belongsTo (runId : Option Value) (event : Value) : Except Failure Bool :=
  match runId, event with
  | none, _ => .ok true
  | some id, .dict _ => .ok ((event.field "run_id").equals id)
  | some _, v => .error (.fault ⟨.attribute, s!"'{v.typeName}' object has no attribute 'get'"⟩)

/-- Reads the events of lines, one line after another, keeping those of the run. -/
def parseLines (runId : Option Value) : List String → Except Failure (List Value)
  | [] => .ok []
  | line :: rest =>
    if Text.isBlankText line then parseLines runId rest
    else do
      let v ← (Json.read line).mapError fun e => .fault (Fault.ofJson e line)
      let keep ← belongsTo runId v
      let vs ← parseLines runId rest
      pure (if keep then v :: vs else vs)

/-- **Reads a trace text**, keeping the events of a run when one is named. -/
def parse (text : String) (runId : Option Value := none) : Except Failure (List Value) :=
  parseLines runId (Text.fileLines text)

/-- **Reads the trace at a path**; a missing file is an empty trace. -/
def readAt (t : FileTree) (path : String) (runId : Option Value := none) :
    Except Failure (List Value) :=
  if !t.pathExists path then .ok []
  else
    match t.readBytes path with
    | .error e => .error (.fault (Fault.ofOs e))
    | .ok bytes =>
      match Text.decodeUtf8 bytes with
      | .error u => .error (.fault ⟨.unicodeDecode, u.text⟩)
      | .ok text => parse text runId

end ApiAudit.Trace
