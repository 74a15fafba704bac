/-!
# Journal — what a run reports while it works

A run reports in two ways: **records** logged at a level, and **printed lines** written by a
command line.  Both go, in the order they happen, to the same stream; a reader of that stream
sees the records at or above a threshold, each as `LEVEL: message`, and every printed line.

`Journal.records` is the view that answers show for library calls (threshold `info`);
`Journal.stream` is what a command line's error stream holds.
-/

namespace ApiAudit

/-- The severity of a logged record, lowest first. -/
inductive Level where
  | debug
  | info
  | warning
  | error
  deriving DecidableEq, Repr

namespace Level

/-- The name a record is shown with. -/
def name : Level → String
  | debug => "DEBUG"
  | info => "INFO"
  | warning => "WARNING"
  | error => "ERROR"

/-- The position of a level in the order of severity. -/
def rank : Level → Nat
  | debug => 0
  | info => 1
  | warning => 2
  | error => 3

/-- Whether a record at `l` passes a threshold. -/
def passes (threshold l : Level) : Bool := threshold.rank ≤ l.rank

end Level

/-- One report: a logged record or a printed line. -/
inductive Note where
  | logged (level : Level) (message : String)
  | printed (text : String)
  deriving DecidableEq, Repr

/-- The reports of a run, oldest first. -/
abbrev Journal := List Note

namespace Journal

/-- The logged records at or above a threshold, each as `LEVEL: message`. -/
def records (threshold : Level) : Journal → List String
  | [] => []
  | .logged l m :: rest =>
    if threshold.passes l then s!"{l.name}: {m}" :: records threshold rest else records threshold rest
  | .printed _ :: rest => records threshold rest

/-- What a stream shows: records at or above the threshold and printed lines, in order. -/
def stream (threshold : Level) : Journal → List String
  | [] => []
  | .logged l m :: rest =>
    if threshold.passes l then s!"{l.name}: {m}" :: stream threshold rest else stream threshold rest
  | .printed t :: rest => t :: stream threshold rest

example : records .info [.logged .debug "d", .printed "p", .logged .warning "w"] = ["WARNING: w"] := by
  decide

end Journal

end ApiAudit
