import ApiAudit.CommandLine.Check
import ApiAudit.Task.Build

/-!
# CommandLine/Tasks — the command that runs the tasks of a build file

`tasksCommand` reads a build file (`--build-file`, by default `forbiddenapis.yml`) and runs its
tasks in the order written, or the tasks `--task` names in the order named (a name may repeat).
`--continue` keeps running after a failed task; `--trace` writes the runs' trace events.

It ends with an exit code:

* 0 — no task failed (`BUILD SUCCESSFUL: n task(s) executed` is logged);
* 1 — some task failed (`BUILD FAILED: n task(s) failed` is printed);
* 2 — a bad command line, a bad build file or an unknown task name (`ERROR: …` is printed).
-/

namespace ApiAudit.CommandLine

/-- The options of the task command. -/
def taskOptions : List OptionSpec :=
  [⟨["-h", "--help"], "help", .help, false⟩,
   ⟨["--build-file"], "build_file", .store, false⟩,
   ⟨["--task"], "task", .collect, false⟩,
   ⟨["--continue"], "keep_going", .switch, false⟩,
   ⟨["--trace"], "trace", .store, false⟩,
   ⟨["--log-file"], "log_file", .store, false⟩,
   ⟨["-v", "--verbose"], "verbose", .switch, false⟩]

/-- Picks the tasks named, in the order named; the names no task has are reported.  A name only
picks a task whose name is that text, so a task named by the number `7` is never picked. -/
def pickTasks (tasks : List CheckTask) (names : List String) : Except (List String) (List CheckTask) :=
  let named (n : String) (t : CheckTask) : Bool := Value.sameKey t.name (.str n)
  let unknown := names.filter fun n => !tasks.any (named n)
  if !unknown.isEmpty then .error unknown
  else .ok (names.filterMap fun n => tasks.find? (named n))

/-- The run of the task command once its options are read. -/
def tasksRun (f : Found) : Audit Nat := do
  let buildFile := Path.clean ((f.last? "build_file").getD BuildFile.defaultName)
  let trace := ((f.last? "trace").filter (!·.isEmpty)).map Path.clean
  match ← Audit.attempt (BuildFile.loadTasks buildFile trace) with
  | .error (.audit e) =>
    if e.kind != .configuration then throw (.audit e)
    Audit.print s!"ERROR: {e.text}"
    return 2
  | .error other => throw other
  | .ok all =>
    let names := f.all "task"
    let chosen := if names.isEmpty then .ok all else pickTasks all names
    match chosen with
    | .error unknown =>
      let listed := ", ".intercalate unknown
      Audit.print s!"ERROR: Unknown task(s): {listed}"
      return 2
    | .ok tasks =>
      let results ← runTasks (f.isSet "keep_going") tasks
      let failed := (results.filter (·.status == .failed)).length
      if failed > 0 then
        Audit.print s!"BUILD FAILED: {failed} task(s) failed"
        return 1
      Audit.log .info s!"BUILD SUCCESSFUL: {results.length} task(s) executed"
      return 0

/-- **Runs the task command** on an argument list. -/
def tasksCommand (args : List String) : Audit Ending :=
  match read taskOptions args with
  | .exit code => pure { code, refused := true }
  | .found f => do
    let threshold : Level := if f.isSet "verbose" then .debug else .info
    if let some p := (f.last? "log_file").filter (!·.isEmpty) then openLogFile p
    let code ← tasksRun f
    pure { code, threshold }

end ApiAudit.CommandLine
