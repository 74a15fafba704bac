import ApiAudit.Config.Basic
import ApiAudit.Failure

/-!
# Run/Basic — the context and the outcome of an audit run

The **run context** holds what a front end decides about one run rather than the audit
itself: the run's id, the front end's name, whether an empty class set or a missing signature
set skips the run instead of failing it, where the trace goes and free-form metadata.

A run ends with an **outcome**: passed, violations found, or skipped, with an optional message
and the number of class files checked.
-/

namespace ApiAudit

/-- What a front end decides about one run. -/
structure RunContext where
  runId : Value := .str "run"
  frontEnd : Value := .str "cli"
  skipWhenNoClasses : Bool := false
  skipWhenNoSignatures : Bool := false
  tracePath : Option String := none
  metadata : Value := .dict []

/-- How a run ended. -/
inductive Status where
  | passed
  | violations
  | skipped
  deriving DecidableEq, Repr

/-- The written name of a status. -/
def Status.name : Status → String
  | .passed => "passed"
  | .violations => "violations"
  | .skipped => "skipped"

/-- The outcome of a run. -/
structure Outcome where
  status : Status
  message : Value := .null
  filesChecked : Nat := 0

/-- A skip with its reason. -/
def Outcome.skip (message : String) : Outcome := { status := .skipped, message := .str message }

/-- The message of a runtime the engine does not support. -/
def unsupportedRuntimeMessage : String :=
  "Your runtime is not supported by the scanning engine. Please run the checks with a supported runtime!"

/-- The message of a run without signatures. -/
def noSignaturesMessage : String :=
  "No API signatures found; configure signature sources or forbid internal runtime classes!"

/-- The message of a run skipped for want of signatures. -/
def noSignaturesSkip : String := "Skipping execution because no API signatures are available."

/-- An engine fault with its message. -/
def Failure.engineFault (message : String) : Failure :=
  .audit (AuditError.make .engineFault "engine.fault" message)

/-- The text a failure shows when it is quoted inside another message. -/
def Failure.text : Failure → String
  | .audit e => s!"{e.code.text}: {e.text}"
  | .task t => t.message.text
  | .fault f => f.text

end ApiAudit
