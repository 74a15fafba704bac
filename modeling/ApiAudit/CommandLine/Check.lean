import ApiAudit.CommandLine.Options
import ApiAudit.Run.Kernel
import ApiAudit.Engine.Catalog
import ApiAudit.Config.Resolve

/-!
# CommandLine/Check — the command that checks a directory of class files

`checkCommand` reads its options, resolves the configuration, picks the engine (`--engine`, else
the environment) and runs one audit.  It reports on the error stream and ends with an exit
code:

* 0 — passed or skipped (the number of files scanned is logged);
* 1 — violations found;
* 2 — a bad command line, or a configuration error about the command line itself;
* 3 — an unsupported runtime;
* 4 — anything else, including a missing or empty classes directory and a bad classpath.

An error is printed as `ERROR: message`; with `--verbose` as `ERROR: code: message` followed by
the error's data as indented JSON, and records down to the debug level are shown.
-/

namespace ApiAudit.CommandLine

/-- The options of the check command. -/
def checkOptions : List OptionSpec :=
  [⟨["-h", "--help"], "help", .help, false⟩,
   ⟨["-V", "--version"], "version", .version, false⟩,
   ⟨["-d", "--dir"], "dir", .store, true⟩,
   ⟨["-c", "--classpath"], "classpath", .collect, false⟩,
   ⟨["-i", "--includes"], "includes", .collect, false⟩,
   ⟨["-e", "--excludes"], "excludes", .collect, false⟩,
   ⟨["-f", "--signaturesfile"], "signaturesfile", .collect, false⟩,
   ⟨["-b", "--bundledsignatures"], "bundledsignatures", .collect, false⟩,
   ⟨["--suppressannotation"], "suppressannotation", .collect, false⟩,
   ⟨["--internalruntimeforbidden"], "internalruntimeforbidden", .switch, false⟩,
   ⟨["--allowmissingclasses"], "allowmissingclasses", .switch, false⟩,
   ⟨["--allowunresolvablesignatures"], "allowunresolvablesignatures", .switch, false⟩,
   ⟨["--engine"], "engine", .store, false⟩,
   ⟨["--trace"], "trace", .store, false⟩,
   ⟨["--run-id"], "run_id", .store, false⟩,
   ⟨["--log-file"], "log_file", .store, false⟩,
   ⟨["-v", "--verbose"], "verbose", .switch, false⟩]

/-- How a command ended: its exit code, whether its arguments were refused before it ran, and
the lowest level of record it shows. -/
structure Ending where
  code : Nat
  refused : Bool := false
  threshold : Level := .info

/-- The raw configuration values of the command line. -/
def rawOf (f : Found) : Value :=
  Value.obj
    [("dir", Value.optStr (f.last? "dir")), ("classpath", Value.strs (f.all "classpath")),
     ("includes", Value.strs (f.all "includes")), ("excludes", Value.strs (f.all "excludes")),
     ("signatures_files", Value.strs (f.all "signaturesfile")),
     ("bundled_signatures", Value.strs (f.all "bundledsignatures")),
     ("suppress_annotations", Value.strs (f.all "suppressannotation")),
     ("internal_runtime_forbidden", .bool (f.isSet "internalruntimeforbidden")),
     ("allow_missing_classes", .bool (f.isSet "allowmissingclasses")),
     ("allow_unresolvable_signatures", .bool (f.isSet "allowunresolvablesignatures"))]

/-- Configuration codes that concern the file system rather than the command line. -/
def fileSystemCodes : List String := ["classes.dir_not_found", "classes.none_found", "classpath.invalid"]

/-- **The exit code of a failure.** -/
def exitCodeFor : Failure → Nat
  | .audit e =>
    match e.kind with
    | .unsupportedRuntime => 3
    | .configuration => if fileSystemCodes.any e.hasCode then 4 else 2
    | _ => 4
  | _ => 4

/-- The text of a failure that is no audit error: its message, or its kind when it has none. -/
def plainText : Failure → String
  | .audit e => s!"{e.code.text}: {e.text}"
  | .task t => t.message.text
  | .fault f => if f.text.isEmpty then s!"{f.kind.className}('')" else f.text

/-- **How an error is shown**: its message, or with `verbose` its code, message and data. -/
def errorText (verbose : Bool) : Failure → String
  | .audit e =>
    if !verbose then e.text
    else
      let base := s!"{e.code.text}: {e.text}"
      match e.data with
      | some (.dict (entry :: more)) => base ++ "\n" ++ Json.render Json.Style.indented (.dict (entry :: more))
      | _ => base
  | f => plainText f

/-- Opens the log file: its directory is made and the file, named by its absolute path, created
when missing.  A failure of either step ends the command. -/
def openLogFile (path : String) : Audit Unit := do
  let path := Path.clean path
  Audit.alterTree (·.makeDirs (Path.parent path))
  Audit.alterTree (·.appendBytes (Path.absolute path) [])

/-- The run of the check command once its options are read. -/
def checkRun (f : Found) : Audit Nat := do
  let env := (← get).env
  let config ← Audit.lift (Config.resolveCommandLine env (rawOf f))
  let spec ← Audit.lift (Engine.resolveSpec env (Value.optStr (f.last? "engine")))
  let factory ← Audit.lift (Engine.loadFactory (.str spec))
  let trace := (f.last? "trace").filter (!·.isEmpty)
  let ctx : RunContext :=
    { runId := .str ((f.last? "run_id").getD "run_cli"), frontEnd := .str "cli",
      tracePath := trace.map Path.clean,
      metadata := Value.obj [("engine", .str spec)] }
  let outcome ← Kernel.run factory ctx config
  if outcome.status == .violations then
    let message := if outcome.message.truthy then outcome.message.text else "Forbidden API usage detected"
    Audit.print s!"ERROR: {message}"
    return 1
  Audit.log .info s!"Scanned {outcome.filesChecked} class file(s) for forbidden API invocations."
  return 0

/-- Runs the check command after its options are read, reporting every failure. -/
def checkFound (f : Found) : Audit Ending := do
  let verbose := f.isSet "verbose"
  let threshold : Level := if verbose then .debug else .info
  if let some p := (f.last? "log_file").filter (!·.isEmpty) then openLogFile p
  match ← Audit.attempt (checkRun f) with
  | .ok code => pure { code, threshold }
  | .error (.audit e) =>
    Audit.print s!"ERROR: {errorText verbose (.audit e)}"
    pure { code := exitCodeFor (.audit e), threshold }
  | .error other =>
    Audit.log .debug "Unexpected failure"
    Audit.print s!"ERROR: {errorText false other}"
    pure { code := 4, threshold }

/-- **Runs the check command** on an argument list. -/
def checkCommand (args : List String) : Audit Ending :=
  match read checkOptions args with
  | .exit code => pure { code, refused := true }
  | .found f => checkFound f

end ApiAudit.CommandLine
