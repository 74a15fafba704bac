import ApiAudit.Data.Value

/-!
# Trace/Event — the events of an audit trace

A trace is a sequence of **events**, one per step of a run.  An event names its run, its kind,
and optionally the stage of the run it belongs to, a message and a data object.  An absent
part is left out of the written event, never written as null; the run's id is whatever value
the front end chose.
-/

namespace ApiAudit.Trace

/-- The stage of a run an event belongs to. -/
inductive Stage where
  | acquire
  | capability
  | suppress
  | files
  | signatures
  | classes
  | scan
  | release
  deriving DecidableEq, Repr

/-- The written name of a stage. -/
def Stage.name : Stage → String
  | .acquire => "acquire"
  | .capability => "capability"
  | .suppress => "suppress"
  | .files => "files"
  | .signatures => "signatures"
  | .classes => "classes"
  | .scan => "scan"
  | .release => "release"

/-- What happened. -/
inductive Happening where
  | runStarted
  | loaderAcquired
  | runtimeChecked
  | suppressionsRegistered
  | filesResolved
  | signaturesLoaded
  | classesRegistered
  | violationsFound
  | scanFinished
  | loaderReleased
  | runSkipped
  | runFailed
  | runFinished
  deriving DecidableEq, Repr

/-- The written name of a happening. -/
def Happening.name : Happening → String
  | .runStarted => "run_started"
  | .loaderAcquired => "classloader_acquired"
  | .runtimeChecked => "runtime_checked"
  | .suppressionsRegistered => "suppress_annotations_registered"
  | .filesResolved => "files_resolved"
  | .signaturesLoaded => "signatures_loaded"
  | .classesRegistered => "classes_registered"
  | .violationsFound => "violations_found"
  | .scanFinished => "scan_finished"
  | .loaderReleased => "classloader_released"
  | .runSkipped => "run_skipped"
  | .runFailed => "error"
  | .runFinished => "run_finished"

/-- One event of a trace. -/
structure Event where
  runId : Value
  happening : Happening
  stage : Option Stage := none
  message : Option Value := none
  data : Option Value := none

/-- **The written form of an event**: run, kind, then the parts that are present. -/
def Event.toValue (e : Event) : Value :=
  Value.obj <|
    [("run_id", e.runId), ("event_type", .str e.happening.name)] ++
    (e.stage.map fun s => ("step", Value.str s.name)).toList ++
    (e.message.map fun m => ("message", m)).toList ++
    (e.data.map fun d => ("data", d)).toList

end ApiAudit.Trace
