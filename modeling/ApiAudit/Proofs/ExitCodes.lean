import Mathlib
import ApiAudit.Proofs.Outcome
import ApiAudit.Proofs.EngineFailures
import ApiAudit.Proofs.ClasspathRoots
import ApiAudit.CommandLine.Check

/-!
# Proofs/ExitCodes — the exit code of the check command

The check command goes through four stages: it reads its arguments, opens its log file if it
is asked for one, sets up its audit (the configuration, the engine's name, the engine's
factory: `checkSetup`), and runs the audit in its own context (`checkContext`).  Its exit code
is that of the failure that stopped the set-up (`exitCodeFor`), or that of the audit's result
(`exitOf`).

The command resolves a policy that fails on violations and on an unsupported runtime, and runs
with both skips off.  Under these settings a run is never skipped (`OutcomeLaws.not_skipped`),
so an exit code of 0 means the scan was asked and answered (`OutcomeLaws.scan_answered`).

* `checkCommand_exitCode` — once the arguments are read, the command ends with a code from 0
  to 4 unless its log file cannot be opened, and the code says what the audit did.
-/

namespace ApiAudit

open Audit

/-! ## The laws of a run, with the translations of what the engine raised -/

/-- **A run's outcome laws, and the translation of every failure the engine raised.** -/
theorem run_outcomeLaws_translated (factory : Engine.Factory) (ctx : RunContext)
    (config : RunConfig) (s : Session) :
    ∃ N, ((Kernel.run factory ctx config).run s).2.exchanges = s.exchanges ++ N ∧
      OutcomeLaws (Kernel.tracer ctx) ctx config s.env ((Kernel.start ctx config).run s).2.tree N
        ((Kernel.run factory ctx config).run s).1 ∧
      ∀ x ∈ N, ∀ X, x.answer = .error X →
        Translated config x.request X ((Kernel.run factory ctx config).run s).1 ∨
          TraceStopped (Kernel.tracer ctx) ((Kernel.run factory ctx config).run s).1 := by
  have hk : Keeps (Kernel.tracer ctx) fun _ => True := fun _ _ _ _ _ _ => trivial
  obtain ⟨N, hN, hrun, -⟩ := run_ends factory ctx config hk s trivial
  refine ⟨N, hN, ?_, fun x hx X hX => ?_⟩
  · rcases hrun.settled with hset | ⟨rfl, hearly⟩
    · exact hset.outcomeLaws hrun.skips
    · exact .skippedEarly hearly
  · -- an early skip asked nothing
    rcases hrun.settled with hset | ⟨rfl, -⟩
    · exact hset.translated hx hX
    · cases hx

/-- An audit error the engine raised, other than violations from the scan, is what the run
raises. -/
theorem Translated.audit_eq {config : RunConfig} {request : Request} {e : AuditError}
    {r : Except Failure Outcome} (h : Translated config request (.audit e) r)
    (hscan : ¬(request = Request.scan ∧ e.kind = .violation)) : r = .error (.audit e) := by
  cases h with
  | passed _ _ => rfl
  | found _ _ hkind _ _ => exact absurd ⟨rfl, hkind⟩ hscan
  | faulted _ _ hX _ _ _ _ => exact absurd rfl (hX e)

/-! ## Runs that neither skip nor tolerate -/

section Strict

variable {tr : Tracer} {ctx : RunContext} {config : RunConfig} {env : Environment} {t : FileTree}
  {N : List Exchange} {r : Except Failure Outcome}

/-- **A run with both skips off, under a policy that fails on an unsupported runtime, is never
skipped**: every one of the four skips needs one of these switches. -/
theorem OutcomeLaws.not_skipped (hlaws : OutcomeLaws tr ctx config env t N r)
    (hclasses : ctx.skipWhenNoClasses = false) (hsignatures : ctx.skipWhenNoSignatures = false)
    (hruntime : config.policy.failOnUnsupportedRuntime.truthy = true) :
    ¬EndedWith r .skipped := by
  intro hskip
  rcases (hlaws.skipped hskip).1 with ⟨-, h⟩ | ⟨-, -, h, -⟩ | ⟨_, -, -, h⟩ | ⟨_, -, -, -, h⟩
  · simp_all
  · simp_all
  · simp_all
  · simp_all

/-- **A run that passed under a policy that fails on violations had its scan answer.** -/
theorem OutcomeLaws.scan_answered (hlaws : OutcomeLaws tr ctx config env t N r)
    (hviolation : config.policy.failOnViolation.truthy = true) (hpassed : EndedWith r .passed) :
    ∃ v, ⟨Request.scan, .ok v⟩ ∈ N := by
  rcases hlaws.passed hpassed with hscan | ⟨_, -, -, htolerated⟩
  · exact hscan
  · simp_all

end Strict

namespace CommandLine

/-! ## The stages of the check command -/

/-- **What the check command sets up before its audit**: the configuration, the name of the
engine and the engine's factory. -/
def checkSetup (f : Found) (env : Environment) :
    Except Failure (RunConfig × String × Engine.Factory) := do
  let config ← Config.resolveCommandLine env (rawOf f)
  let spec ← Engine.resolveSpec env (Value.optStr (f.last? "engine"))
  let factory ← Engine.loadFactory (.str spec)
  pure (config, spec, factory)

/-- The context of the check command's audit, for the engine named `spec`. -/
def checkContext (f : Found) (spec : String) : RunContext :=
  { runId := .str ((f.last? "run_id").getD "run_cli"), frontEnd := .str "cli",
    tracePath := ((f.last? "trace").filter (!·.isEmpty)).map Path.clean,
    metadata := Value.obj [("engine", .str spec)] }

/-- The log file the check command is asked to open. -/
def logFile? (f : Found) : Option String := (f.last? "log_file").filter (!·.isEmpty)

/-- The code of an audit's outcome: 1 for violations found, 0 for any other. -/
def outcomeCode (o : Outcome) : Nat := if o.status == .violations then 1 else 0

/-- **The exit code of an audit's result**: that of its outcome, or that of its failure. -/
def exitOf : Except Failure Outcome → Nat
  | .ok o => outcomeCode o
  | .error F => exitCodeFor F

theorem exitCodeFor_range (F : Failure) : 2 ≤ exitCodeFor F ∧ exitCodeFor F ≤ 4 := by
  unfold exitCodeFor
  split
  · split
    · decide
    · split <;> decide
    · decide
  · decide

theorem exitOf_le (r : Except Failure Outcome) : exitOf r ≤ 4 := by
  cases r with
  | error F => exact (exitCodeFor_range F).2
  | ok o =>
    show outcomeCode o ≤ 4
    unfold outcomeCode
    split <;> omega

/-- **Code 0 is an outcome other than violations.** -/
theorem exitOf_eq_zero {r : Except Failure Outcome} (h : exitOf r = 0) :
    ∃ o, r = .ok o ∧ o.status ≠ .violations := by
  cases r with
  | error F => exact absurd h (by have := (exitCodeFor_range F).1; simp only [exitOf]; omega)
  | ok o =>
    refine ⟨o, rfl, fun hs => ?_⟩
    simp [exitOf, outcomeCode, hs] at h

/-- **Code 1 is exactly violations found.** -/
theorem exitOf_eq_one {r : Except Failure Outcome} : exitOf r = 1 ↔ EndedWith r .violations := by
  cases r with
  | error F =>
    have := (exitCodeFor_range F).1
    simp only [exitOf, EndedWith, reduceCtorEq, false_and, exists_false, iff_false]
    omega
  | ok o =>
    simp only [exitOf, outcomeCode, EndedWith, Except.ok.injEq, exists_eq_left']
    cases o.status <;> simp

/-- **The policy of the command line fails on violations and on an unsupported runtime.** -/
theorem resolveCommandLine_policy {env : Environment} {raw : Value} {config : RunConfig}
    (h : Config.resolveCommandLine env raw = .ok config) :
    config.policy.failOnViolation.truthy = true ∧
      config.policy.failOnUnsupportedRuntime.truthy = true := by
  unfold Config.resolveCommandLine at h
  simp only [bind_eq_ok] at h
  repeat' obtain ⟨_, _, h⟩ := h
  -- the last step assembles the configuration with the policy it was given
  unfold Config.assemble at h
  simp only [bind_eq_ok, pure, Except.pure, Except.ok.injEq] at h
  obtain ⟨_, -, rfl⟩ := h
  exact ⟨rfl, rfl⟩

/-- **The set-up and the audit give the result of the check command's run.** -/
theorem checkRun_result (f : Found) (s : Session) :
    ((checkRun f).run s).1 = match checkSetup f s.env with
      | .error F => .error F
      | .ok (config, spec, factory) =>
        (((Kernel.run factory (checkContext f spec) config).run s).1).map outcomeCode := by
  unfold checkRun checkSetup
  simp only [run_bind, run_get, run_lift]
  cases Config.resolveCommandLine s.env (rawOf f) with
  | error F => rfl
  | ok config =>
    cases Engine.resolveSpec s.env (Value.optStr (f.last? "engine")) with
    | error F => rfl
    | ok spec =>
      dsimp only [bind, Except.bind]
      cases Engine.loadFactory (Value.str spec) with
      | error F => rfl
      | ok factory =>
        simp only [checkContext, pure, Except.pure]
        rcases (Kernel.run factory _ config).run s with ⟨_ | o, s'⟩
        · rfl
        · -- the code is read off the outcome; printing and logging cannot fail
          simp only [outcomeCode, Except.map]
          split <;> rfl

/-- The exit code of the check command's run: the code it returned, or that of its failure. -/
def resultCode : Except Failure Nat → Nat
  | .ok code => code
  | .error F => exitCodeFor F

theorem resultCode_map (r : Except Failure Outcome) : resultCode (r.map outcomeCode) = exitOf r := by
  cases r <;> rfl

theorem openLogFile_env (p : String) (s : Session) : ((openLogFile p).run s).2.env = s.env := by
  have hkeep : Preserves (openLogFile p) fun s' => s'.env = s.env :=
    (Preserves.alterTree (fun _ _ h => h) _).bind fun _ => Preserves.alterTree (fun _ _ h => h) _
  exact hkeep s rfl

/-- **The check command fails only when its log file cannot be opened**; otherwise its code is
that of its run, from a session with the same environment. -/
theorem checkFound_code (f : Found) (s : Session) :
    (∀ F, ((checkFound f).run s).1 = .error F →
      ∃ p, logFile? f = some p ∧ ((openLogFile p).run s).1 = .error F) ∧
    ∀ ending, ((checkFound f).run s).1 = .ok ending →
      ∃ s₁, s₁.env = s.env ∧ ending.code = resultCode ((checkRun f).run s₁).1 := by
  unfold checkFound
  dsimp only
  cases hlog : Option.filter (fun x => !x.isEmpty) (f.last? "log_file") with
  | none =>
    -- no log file: the run's result is reported, and always returns
    simp only [run_bind, run_attempt]
    rcases hr : (checkRun f).run s with ⟨_ | code, s₂⟩
    · rename_i F
      cases F <;> simp only [print, log, run_bind, run_modify, run_pure] <;>
        exact ⟨fun _ h => (by cases h), fun _ h => ⟨s, rfl, (by cases h; rw [hr]; rfl)⟩⟩
    · exact ⟨fun _ h => (by cases h), fun _ h => ⟨s, rfl, (by cases h; rw [hr]; rfl)⟩⟩
  | some p =>
    simp only [run_bind]
    rcases hopen : (openLogFile p).run s with ⟨_ | _, s₁⟩
    · -- the log file could not be opened: the command fails with that
      exact ⟨fun F' h => ⟨p, hlog, (by cases h; rw [hopen])⟩, fun _ h => (by cases h)⟩
    · have henv : s₁.env = s.env := by
        rw [← openLogFile_env p s, hopen]
      simp only [run_attempt]
      rcases hr : (checkRun f).run s₁ with ⟨_ | code, s₂⟩
      · rename_i F
        cases F <;> simp only [print, log, run_bind, run_modify, run_pure] <;>
          exact ⟨fun _ h => (by cases h), fun _ h => ⟨s₁, henv, (by cases h; rw [hr]; rfl)⟩⟩
      · exact ⟨fun _ h => (by cases h), fun _ h => ⟨s₁, henv, (by cases h; rw [hr]; rfl)⟩⟩

theorem checkCommand_found {args : List String} {f : Found}
    (h : read checkOptions args = .found f) : checkCommand args = checkFound f := by
  rw [checkCommand, h]

theorem resolveCommandLine_of_checkSetup {f : Found} {env : Environment} {config : RunConfig}
    {spec : String} {factory : Engine.Factory}
    (h : checkSetup f env = .ok (config, spec, factory)) :
    Config.resolveCommandLine env (rawOf f) = .ok config := by
  unfold checkSetup at h
  simp only [bind_eq_ok, pure, Except.pure, Except.ok.injEq, Prod.mk.injEq] at h
  obtain ⟨config', hconfig, -, -, -, -, rfl, -⟩ := h
  exact hconfig

/-! ## The codes of the check command's audit -/

section Audit

variable {tr : Tracer} {ctx : RunContext} {config : RunConfig} {env : Environment} {t : FileTree}
  {N : List Exchange} {r : Except Failure Outcome}

/-- **Code 1 means violations raised by the scan.** -/
theorem violationsRaised_of_exitOf_eq_one (hlaws : OutcomeLaws tr ctx config env t N r)
    (h : exitOf r = 1) : ViolationsRaised config N :=
  hlaws.violations (exitOf_eq_one.mp h)

/-- **Violations raised by the scan give code 1**, unless the trace file stopped the run. -/
theorem exitOf_eq_one_of_violationsRaised (hlaws : OutcomeLaws tr ctx config env t N r)
    (h : ViolationsRaised config N) : exitOf r = 1 ∨ TraceStopped tr r :=
  (hlaws.violations_raised h).imp_left exitOf_eq_one.mpr

end Audit

section CheckAudit

variable {tr : Tracer} {f : Found} {spec : String} {config : RunConfig} {env : Environment}
  {t : FileTree} {N : List Exchange} {r : Except Failure Outcome}
  (hlaws : OutcomeLaws tr (checkContext f spec) config env t N r)
  (hpolicy : config.policy.failOnViolation.truthy = true ∧
    config.policy.failOnUnsupportedRuntime.truthy = true)
include hlaws hpolicy

/-- **Code 0 is a complete audit**: the run passed, its scan was asked and answered, and it
counted the class files registered, at least one. -/
theorem passed_of_exitOf_eq_zero (h : exitOf r = 0) :
    ∃ o v, r = .ok o ∧ o.status = .passed ∧ ⟨Request.scan, .ok v⟩ ∈ N ∧
      o.filesChecked = registrations N ∧ 0 < o.filesChecked := by
  obtain ⟨o, rfl, hviolations⟩ := exitOf_eq_zero h
  -- the command's context has both skips off, so the run was not skipped either
  have hskipped : o.status ≠ .skipped := fun hs =>
    hlaws.not_skipped rfl rfl hpolicy.2 ⟨o, rfl, hs⟩
  have hpassed : o.status = .passed := by
    cases hs : o.status <;> simp_all
  obtain ⟨v, hv⟩ := hlaws.scan_answered hpolicy.1 ⟨o, rfl, hpassed⟩
  obtain ⟨hcount, hpos⟩ := hlaws.counted o rfl hskipped
  exact ⟨o, v, rfl, hpassed, hv, hcount, hpos⟩

/-- **An unsupported runtime gives code 3**, unless the trace file stopped the run. -/
theorem exitOf_eq_three_of_unsupported
    (h : ∃ v, ⟨Request.runtimeCheck, .ok v⟩ ∈ N ∧ v.truthy = false) :
    exitOf r = 3 ∨ TraceStopped tr r :=
  (hlaws.unsupported hpolicy.2 h).imp_left fun hr => by rw [hr]; rfl

end CheckAudit

/-- A class directory `c` with one class file, beside a directory `logs`. -/
def logDirectorySession : Session :=
  { tree := (((FileTree.initial.put ["work", "c"] .dir).put ["work", "c", "A.class"] (.file [])).put
      ["work", "logs"] .dir),
    env := Environment.base }

end CommandLine

end ApiAudit
