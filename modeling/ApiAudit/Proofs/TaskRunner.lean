import ApiAudit.Proofs.TaskCheck
import ApiAudit.CommandLine.Tasks

/-!
# Proofs/TaskRunner — running the tasks of a build file

`runTasks` checks tasks one after another.  `Ran` says how such a run goes, check by check:
each check runs from the session the one before left, with only log lines added; a check that
returns is reported by its outcome, one that fails as a task is reported failed and ends the run
unless it keeps going, and any other failure leaves the run.  `Reports` is what a run reports
for one check.

* `runTasks_ran` — every run of tasks goes as `Ran` says;
* `Ran.prefix`, `Ran.reports`, `Ran.complete`, `Ran.stops`, `Ran.error_last` — the tasks checked
  come first in the list, in order and each once; a run that returns reports each check once, in
  order, and stops early only at a task failure when it does not keep going; a run that fails
  does so with its last check's failure, which is no task failure;
* `check_passed_message` — a check passes with a message only when the scan raised violations
  the task tolerates, and the message is theirs;
* `tasksRun_ends` — how the task command ends once its arguments are read, from one lemma per
  way its run can go (`tasksRun_of_configError`, `tasksRun_of_loadFailure`, `tasksRun_of_unknown`,
  `tasksRun_of_chosen`).
-/

namespace ApiAudit

open Audit

/-- A check made by a run of tasks: the task, and what its check gave. -/
abbrev TaskCall := CheckTask × Except Failure Outcome

/-- **What a run of tasks reports for one check**: a task failure fails the task with the
failure's message; an outcome is reported by `TaskResult.ofOutcome`.  Any other failure is
reported by nothing. -/
inductive Reports : TaskCall → TaskResult → Prop
  | failed {t : CheckTask} {e : TaskFailure} : Reports (t, .error (.task e)) ⟨t.name, .failed, e.message⟩
  | returned {t : CheckTask} {o : Outcome} : Reports (t, .ok o) (TaskResult.ofOutcome t.name o)

/-- Two sessions alike but for what was logged or printed. -/
def LogsOnly (s s' : Session) : Prop := s' = { s with journal := s'.journal }

/-- **How a run of tasks goes**, from a session: the checks it makes, in order, and what it
returns.  Each check runs from the session the one before left, with only log lines added. -/
inductive Ran (keepGoing : Bool) : List CheckTask → Session → List TaskCall →
    Except Failure (List TaskResult) → Prop
  /-- No task is left. -/
  | done {s : Session} : Ran keepGoing [] s [] (.ok [])
  /-- The check returned an outcome: it is reported, and the run goes on. -/
  | returned {t : CheckTask} {rest : List CheckTask} {s s₁ s₂ : Session} {o : Outcome}
      {calls : List TaskCall} {r : Except Failure (List TaskResult)} :
      LogsOnly s s₁ → (t.check none).run s₁ = (.ok o, s₂) → Ran keepGoing rest s₂ calls r →
      Ran keepGoing (t :: rest) s ((t, .ok o) :: calls) (r.map (TaskResult.ofOutcome t.name o :: ·))
  /-- The check failed as a task, and the run does not keep going: it ends with that failure
  reported. -/
  | stopped {t : CheckTask} {rest : List CheckTask} {s s₁ s₂ : Session} {e : TaskFailure} :
      LogsOnly s s₁ → (t.check none).run s₁ = (.error (.task e), s₂) → keepGoing = false →
      Ran keepGoing (t :: rest) s [(t, .error (.task e))] (.ok [⟨t.name, .failed, e.message⟩])
  /-- The check failed as a task, and the run keeps going. -/
  | failed {t : CheckTask} {rest : List CheckTask} {s s₁ s₂ s₃ : Session} {e : TaskFailure}
      {calls : List TaskCall} {r : Except Failure (List TaskResult)} :
      LogsOnly s s₁ → (t.check none).run s₁ = (.error (.task e), s₂) → keepGoing = true →
      LogsOnly s₂ s₃ → Ran keepGoing rest s₃ calls r →
      Ran keepGoing (t :: rest) s ((t, .error (.task e)) :: calls)
        (r.map (⟨t.name, .failed, e.message⟩ :: ·))
  /-- The check failed otherwise: the failure leaves the run. -/
  | escaped {t : CheckTask} {rest : List CheckTask} {s s₁ s₂ : Session} {F : Failure} :
      LogsOnly s s₁ → (t.check none).run s₁ = (.error F, s₂) → (∀ e, F ≠ .task e) →
      Ran keepGoing (t :: rest) s [(t, .error F)] (.error F)

/-! ## Every run of tasks goes as `Ran` says -/

theorem LogsOnly.logged (s : Session) (entries : Journal) :
    LogsOnly s { s with journal := s.journal ++ entries } := rfl

theorem run_map_cons {α : Type} (x : Audit (List α)) (a : α) (s : Session) :
    (do let rest ← x; pure (a :: rest) : Audit (List α)).run s =
      (((x.run s).1).map (a :: ·), (x.run s).2) := by
  rw [run_bind]
  rcases x.run s with ⟨_ | rest, s'⟩ <;> rfl

/-- **Every run of tasks goes as `Ran` says.**  By induction on the tasks: one step of
`runTasks` logs the task's line, checks it, and reports or stops as the check's answer says. -/
theorem runTasks_ran (keepGoing : Bool) (tasks : List CheckTask) (s : Session) :
    ∃ calls, Ran keepGoing tasks s calls ((runTasks keepGoing tasks).run s).1 := by
  induction tasks generalizing s with
  | nil => exact ⟨[], .done⟩
  | cons t rest ih =>
    simp only [runTasks, run_bind, run_log, run_attempt]
    rcases hcheck : (t.check none).run
      { s with journal := s.journal ++ [.logged .info s!"> Task :{t.name.text}"] } with ⟨a, s₂⟩
    have hlog := LogsOnly.logged s [.logged .info s!"> Task :{t.name.text}"]
    rcases a with F | o
    · by_cases htask : ∃ e, F = .task e
      · obtain ⟨e, rfl⟩ := htask
        cases keepGoing with
        | false => exact ⟨_, .stopped hlog hcheck rfl⟩
        | true =>
          simp only [ite_true]
          rw [run_bind, run_log]
          dsimp only
          rw [run_map_cons]
          obtain ⟨calls, hcalls⟩ := ih
            { s₂ with journal := s₂.journal ++
                [.logged .error s!"Execution failed for task ':{t.name.text}': {e.message.text}"] }
          exact ⟨_, .failed hlog hcheck rfl (LogsOnly.logged _ _) hcalls⟩
      · have hother : ∀ e, F ≠ .task e := fun e he => htask ⟨e, he⟩
        cases F with
        | task e => exact absurd rfl (hother e)
        | audit e => exact ⟨_, .escaped hlog hcheck hother⟩
        | fault f => exact ⟨_, .escaped hlog hcheck hother⟩
    · simp only [run_map_cons]
      obtain ⟨calls, hcalls⟩ := ih s₂
      exact ⟨_, .returned hlog hcheck hcalls⟩

/-! ## What a run of tasks reports -/

section Ran

variable {keepGoing : Bool} {tasks : List CheckTask} {s : Session} {calls : List TaskCall}
  {r : Except Failure (List TaskResult)}

/-- **The tasks checked come first in the list**, in order and each once. -/
theorem Ran.prefix (h : Ran keepGoing tasks s calls r) : calls.map Prod.fst <+: tasks := by
  induction h with
  | done => exact List.nil_prefix
  | returned _ _ _ ih => exact List.cons_prefix_cons.mpr ⟨rfl, ih⟩
  | stopped => exact List.cons_prefix_cons.mpr ⟨rfl, List.nil_prefix⟩
  | failed _ _ _ _ _ ih => exact List.cons_prefix_cons.mpr ⟨rfl, ih⟩
  | escaped => exact List.cons_prefix_cons.mpr ⟨rfl, List.nil_prefix⟩

/-- Each check of a run gave what the task's check gives from some session. -/
theorem Ran.answers (h : Ran keepGoing tasks s calls r) :
    ∀ c ∈ calls, ∃ s₁, ((c.1.check none).run s₁).1 = c.2 := by
  induction h with
  | done => intro c hc; cases hc
  | returned _ hcheck _ ih =>
    rintro c (_ | ⟨_, hc⟩)
    · exact ⟨_, by rw [hcheck]⟩
    · exact ih c hc
  | stopped _ hcheck =>
    rintro c (_ | ⟨_, hc⟩)
    · exact ⟨_, by rw [hcheck]⟩
    · cases hc
  | failed _ hcheck _ _ _ ih =>
    rintro c (_ | ⟨_, hc⟩)
    · exact ⟨_, by rw [hcheck]⟩
    · exact ih c hc
  | escaped _ hcheck =>
    rintro c (_ | ⟨_, hc⟩)
    · exact ⟨_, by rw [hcheck]⟩
    · cases hc

/-- **A run that returns reports each check once, in order.** -/
theorem Ran.reports (h : Ran keepGoing tasks s calls r) {rs : List TaskResult} (hr : r = .ok rs) :
    List.Forall₂ Reports calls rs := by
  induction h generalizing rs with
  | done =>
    cases hr
    exact .nil
  | @returned _ _ _ _ _ _ _ r _ _ _ ih =>
    rcases r with F | rs'
    · cases hr
    · cases hr
      exact .cons .returned (ih rfl)
  | stopped =>
    cases hr
    exact .cons .failed .nil
  | @failed _ _ _ _ _ _ _ _ r _ _ _ _ _ ih =>
    rcases r with F | rs'
    · cases hr
    · cases hr
      exact .cons .failed (ih rfl)
  | escaped => cases hr

/-- **A run that returns went through every task**, unless it stopped at a task failure without
keeping going. -/
theorem Ran.complete (h : Ran keepGoing tasks s calls r) {rs : List TaskResult} (hr : r = .ok rs) :
    calls.length = tasks.length ∨
      keepGoing = false ∧ ∃ t e, calls.getLast? = some (t, .error (.task e)) := by
  induction h generalizing rs with
  | done => exact .inl rfl
  | @returned t _ _ _ _ o _ r _ _ _ ih =>
    rcases r with F | rs'
    · cases hr
    · rcases ih rfl with hlen | ⟨hkg, t', e, hlast⟩
      · exact .inl (by simp [hlen])
      · exact .inr ⟨hkg, t', e, by simp [List.getLast?_cons, hlast]⟩
  | stopped _ _ hkg => exact .inr ⟨hkg, _, _, rfl⟩
  | @failed t _ _ _ _ _ e _ r _ _ _ _ _ ih =>
    rcases r with F | rs'
    · cases hr
    · rcases ih rfl with hlen | ⟨hkg, t', e', hlast⟩
      · exact .inl (by simp [hlen])
      · exact .inr ⟨hkg, t', e', by simp [List.getLast?_cons, hlast]⟩
  | escaped => cases hr

/-- **Nothing is checked after a task failure** of a run that does not keep going. -/
theorem Ran.stops (h : Ran keepGoing tasks s calls r) (hkg : keepGoing = false)
    {pre post : List TaskCall} {c : TaskCall} (hsplit : calls = pre ++ c :: post)
    (hfailed : ∃ e, c.2 = .error (.task e)) : post = [] := by
  induction h generalizing pre with
  | done => simp at hsplit
  | returned _ _ _ ih =>
    rcases pre with _ | ⟨c', pre⟩
    · cases hsplit
      simp at hfailed
    · cases hsplit
      exact ih rfl
  | stopped =>
    rcases pre with _ | ⟨c', pre⟩
    · cases hsplit
      rfl
    · simp at hsplit
  | failed _ _ hkg' => exact absurd (hkg'.symm.trans hkg) (by decide)
  | escaped =>
    rcases pre with _ | ⟨c', pre⟩
    · cases hsplit
      rfl
    · simp at hsplit

/-- **A run that fails does so with its last check's failure**, which is no task failure; every
check before it returned or failed as a task. -/
theorem Ran.error_last (h : Ran keepGoing tasks s calls r) {F : Failure} (hr : r = .error F) :
    (∀ e, F ≠ .task e) ∧ ∃ pre t, calls = pre ++ [(t, .error F)] ∧
      ∀ c ∈ pre, ∀ F', c.2 = .error F' → ∃ e, F' = .task e := by
  induction h with
  | done => cases hr
  | @returned t _ _ _ _ o _ r _ _ _ ih =>
    rcases r with F' | rs
    · cases hr
      obtain ⟨hnot, pre, t', hcalls, hpre⟩ := ih rfl
      refine ⟨hnot, (t, .ok o) :: pre, t', by rw [hcalls]; rfl, ?_⟩
      rintro c (_ | ⟨_, hc⟩) F'' hF''
      · cases hF''
      · exact hpre c hc F'' hF''
    · cases hr
  | stopped => cases hr
  | @failed t _ _ _ _ _ e _ r _ _ _ _ _ ih =>
    rcases r with F' | rs
    · cases hr
      obtain ⟨hnot, pre, t', hcalls, hpre⟩ := ih rfl
      refine ⟨hnot, (t, .error (.task e)) :: pre, t', by rw [hcalls]; rfl, ?_⟩
      rintro c (_ | ⟨_, hc⟩) F'' hF''
      · cases hF''
        exact ⟨e, rfl⟩
      · exact hpre c hc F'' hF''
    · cases hr
  | @escaped t _ _ _ _ F' _ _ hnot =>
    cases hr
    exact ⟨hnot, [], t, rfl, fun _ hc => by cases hc⟩

end Ran

/-! ## The status of each result -/

/-- The status a returned check is reported with: skipped for a skip, violations ignored for
any other outcome with a message, passed otherwise. -/
theorem TaskResult.ofOutcome_status (name : Value) (o : Outcome) :
    (TaskResult.ofOutcome name o).status =
      if o.status = .skipped then .skipped else if o.message.truthy then .violationsIgnored else .passed := by
  unfold TaskResult.ofOutcome
  by_cases hs : o.status = .skipped
  · simp [hs]
  · by_cases hm : o.message.truthy = true <;> simp [hs, hm]

theorem TaskResult.ofOutcome_name (name : Value) (o : Outcome) :
    (TaskResult.ofOutcome name o).name = name := by
  unfold TaskResult.ofOutcome
  split
  · rfl
  · split <;> rfl

namespace Reports

variable {c : TaskCall} {res : TaskResult}

/-- A result names the task checked. -/
theorem name_eq (h : Reports c res) : res.name = c.1.name := by
  cases h with
  | failed => rfl
  | returned => exact TaskResult.ofOutcome_name _ _

/-- **A result is failed exactly when the check failed as a task**, and it then carries the
failure's message. -/
theorem failed_iff (h : Reports c res) :
    res.status = .failed ↔ ∃ e, c.2 = .error (.task e) ∧ res.message = e.message := by
  cases h with
  | failed => exact ⟨fun _ => ⟨_, rfl, rfl⟩, fun _ => rfl⟩
  | returned =>
    simp only [TaskResult.ofOutcome_status, reduceCtorEq, false_and, exists_false, iff_false]
    split_ifs <;> simp

/-- **A result is skipped exactly when the check returned a skip.** -/
theorem skipped_iff (h : Reports c res) :
    res.status = .skipped ↔ ∃ o, c.2 = .ok o ∧ o.status = .skipped := by
  cases h with
  | failed => simp
  | returned =>
    simp only [TaskResult.ofOutcome_status, Except.ok.injEq, exists_eq_left']
    split_ifs <;> simp_all

/-- **A result had its violations ignored exactly when the check returned some other outcome
with a message.** -/
theorem violationsIgnored_iff (h : Reports c res) :
    res.status = .violationsIgnored ↔
      ∃ o, c.2 = .ok o ∧ o.status ≠ .skipped ∧ o.message.truthy = true := by
  cases h with
  | failed => simp
  | returned =>
    simp only [TaskResult.ofOutcome_status, Except.ok.injEq, exists_eq_left']
    split_ifs <;> simp_all

/-- **A result passed exactly when the check returned some other outcome without a message.** -/
theorem passed_iff (h : Reports c res) :
    res.status = .passed ↔ ∃ o, c.2 = .ok o ∧ o.status ≠ .skipped ∧ o.message.truthy = false := by
  cases h with
  | failed => simp
  | returned =>
    simp only [TaskResult.ofOutcome_status, Except.ok.injEq, exists_eq_left']
    split_ifs <;> simp_all

end Reports

/-! ## A check that passes with a message -/

namespace CheckTask

variable {t : CheckTask} {given : Option Engine.Factory} {s : Session} {N : List Exchange}
  {r : Except Failure Outcome}

/-- **A check passes with a message only when its scan raised violations the task tolerates**:
the outcome was settled by the scan, which raised violations under a configuration that does not
fail on them, and the message is theirs. -/
theorem Checked.passed_message (h : Checked t given s N r) {o : Outcome} (ho : r = .ok o)
    (hpassed : o.status = .passed) (hmsg : o.message.truthy = true) :
    ∃ e, ⟨Request.scan, .error (.audit e)⟩ ∈ N ∧ e.kind = .violation ∧ e.message = o.message ∧
      ∃ props config, t.properties s.env = .ok props ∧ Config.resolveTask s.env props = .ok config ∧
        config.policy.failOnViolation.truthy = false := by
  cases h with
  | missing => cases ho
  | unreadable => cases ho
  | refused => cases ho
  | faulted => cases ho
  | unsigned =>
    cases ho
    cases hpassed
  | noFactory _ _ _ _ => cases settle_ok ho |>.1
  | @ran props config factory s₁ N r' _ hp hconfig _ _ _ _ _ hN hr _ =>
    -- the audit returned the outcome itself, so one of its exchanges settled it
    obtain ⟨hr', -⟩ := settle_ok ho
    obtain ⟨N', hN', hsettled⟩ := run_settled factory (t.runContext config) config s₁
    have hsame : N' = N := List.append_cancel_left (hN'.symm.trans hN)
    subst hsame
    rcases hsettled with hsettled | ⟨-, hearly⟩
    · obtain ⟨x, hx, hV⟩ := hsettled.decided o (hr.trans hr')
      rw [hpassed] at hV
      rcases settles_passed hV with ⟨v, -, hnull⟩ | ⟨e, rfl, hkind, hpolicy, hmessage⟩
      · rw [hnull] at hmsg
        cases hmsg
      · exact ⟨e, hx, hkind, hmessage.symm, props, config, hp, hconfig, hpolicy⟩
    · -- the two early skips are skips
      rcases hearly with ⟨-, -, hskip⟩ | ⟨-, -, -, -, hskip⟩
      all_goals
        rw [hr, hr', Except.ok.injEq] at hskip
        rw [hskip] at hpassed
        cases hpassed

/-- **A check that passes with a message had its violations tolerated**, from whatever session
it runs: its scan raised them, the task's configuration does not fail on them, and the message
is theirs. -/
theorem check_passed_message (t : CheckTask) (given : Option Engine.Factory) (s : Session)
    {o : Outcome} (ho : ((t.check given).run s).1 = .ok o) (hskip : o.status ≠ .skipped)
    (hmsg : o.message.truthy = true) :
    o.status = .passed ∧ ∃ e, ⟨Request.scan, .error (.audit e)⟩ ∈ ((t.check given).run s).2.exchanges ∧
      e.kind = .violation ∧ e.message = o.message ∧
      ∃ props config, t.properties s.env = .ok props ∧ Config.resolveTask s.env props = .ok config ∧
        config.policy.failOnViolation.truthy = false := by
  obtain ⟨N, hN, hchecked⟩ := check_checked t given s
  have hpassed := (hchecked.returns ho).resolve_right hskip
  obtain ⟨e, hx, hrest⟩ := hchecked.passed_message ho hpassed hmsg
  exact ⟨hpassed, e, by rw [hN]; exact List.mem_append_right _ hx, hrest⟩

end CheckTask

/-! ## The task command -/

namespace CommandLine

/-- The build file the task command reads. -/
def buildFileOf (f : Found) : String := Path.clean ((f.last? "build_file").getD BuildFile.defaultName)

/-- The trace file the task command's runs write. -/
def traceOf (f : Found) : Option String := ((f.last? "trace").filter (!·.isEmpty)).map Path.clean

/-- The build file's tasks as the command loads them from a session, with the session after. -/
def loadedFrom (f : Found) (s : Session) : Except Failure (List CheckTask) × Session :=
  (BuildFile.loadTasks (buildFileOf f) (traceOf f)).run s

/-- Whether a task has a name. -/
def NamedBy (n : String) (t : CheckTask) : Prop := Value.sameKey t.name (.str n) = true

/-- **The tasks the command runs**: every task when `--task` names none; otherwise, for each name
in the order given, the first task of that name. -/
def Chosen (all : List CheckTask) (names : List String) (tasks : List CheckTask) : Prop :=
  (names = [] ∧ tasks = all) ∨
    List.Forall₂ (fun n t => all.find? (fun t => Value.sameKey t.name (.str n)) = some t) names tasks

/-- A name that picks no task. -/
def Unknown (all : List CheckTask) (names : List String) : Prop := ∃ n ∈ names, ∀ t ∈ all, ¬ NamedBy n t

/-- **Picking tasks by name** fails exactly when some name picks no task, and otherwise picks
the first task of each name, in the order named. -/
theorem pickTasks_spec (all : List CheckTask) (names : List String) :
    (∀ unknown, pickTasks all names = .error unknown → Unknown all names) ∧
    (∀ tasks, pickTasks all names = .ok tasks → ¬ Unknown all names ∧
      List.Forall₂ (fun n t => all.find? (fun t => Value.sameKey t.name (.str n)) = some t) names
        tasks) := by
  unfold pickTasks Unknown NamedBy
  dsimp only
  split
  · next hunknown =>
    refine ⟨fun _ _ => by simpa using hunknown, fun _ h => (by cases h)⟩
  · next hknown =>
    have hall : ∀ n ∈ names, ∃ t ∈ all, Value.sameKey t.name (.str n) = true := by
      simpa [List.filter_eq_nil_iff] using hknown
    refine ⟨fun _ h => (by cases h), fun tasks h => ⟨?_, ?_⟩⟩
    · rintro ⟨n, hn, hnone⟩
      obtain ⟨t, ht, hnamed⟩ := hall n hn
      exact hnone t ht hnamed
    · cases h
      -- every name finds its task, so keeping the found ones keeps one per name
      clear hknown
      induction names with
      | nil => exact .nil
      | cons n rest ih =>
        obtain ⟨t, ht, hnamed⟩ := hall n (.head _)
        obtain ⟨t', ht'⟩ := Option.isSome_iff_exists.mp
          (List.find?_isSome (p := fun t => Value.sameKey t.name (.str n)) |>.mpr ⟨t, ht, hnamed⟩)
        rw [List.filterMap_cons, ht']
        exact .cons ht' (ih fun n hn => hall n (.tail _ hn))

/-! ### The run of the task command, branch by branch

`tasksRun` loads the build file, then picks the tasks and runs them.  Each way it can go gets its
lemma, stated from what loading gave; `tasksRun_ends` puts them together. -/

section Branches

variable {f : Found} {s : Session}

/-- **A build file refused with a configuration error ends the command with 2**, with nothing
done after loading but the error printed. -/
theorem tasksRun_of_configError {e : AuditError} (hload : (loadedFrom f s).1 = .error (.audit e))
    (hk : e.kind = .configuration) :
    ((tasksRun f).run s).1 = .ok 2 ∧ LogsOnly (loadedFrom f s).2 ((tasksRun f).run s).2 := by
  unfold tasksRun
  unfold loadedFrom buildFileOf traceOf at hload ⊢
  simp only [run_bind, run_attempt, hload, hk, bne_self_eq_false, Bool.false_eq_true, ite_false,
    print, run_modify, run_pure]
  exact ⟨trivial, LogsOnly.logged _ _⟩

/-- **Any other failure to load the build file leaves the command** as it is. -/
theorem tasksRun_of_loadFailure {F : Failure} (hload : (loadedFrom f s).1 = .error F)
    (hF : ∀ e, F = .audit e → e.kind ≠ .configuration) : ((tasksRun f).run s).1 = .error F := by
  unfold tasksRun
  unfold loadedFrom buildFileOf traceOf at hload
  simp only [run_bind, run_attempt, hload]
  cases F with
  | audit e =>
    have hk : (e.kind != .configuration) = true := by simpa using hF e rfl
    simp only [hk, ite_true, run_bind, run_throw]
  | task _ | fault _ => rfl

/-- The tasks picked by name, or every task when none is named, are the chosen ones. -/
theorem chosen_of_pick {all tasks : List CheckTask} {names : List String}
    (hpick : (if names.isEmpty then .ok all else pickTasks all names) = .ok tasks) :
    Chosen all names tasks := by
  split at hpick
  · next hnil =>
    cases hpick
    exact .inl ⟨by simpa using hnil, rfl⟩
  · exact .inr ((pickTasks_spec all _).2 _ hpick).2

/-- **A named task that the build file lacks ends the command with 2**, with nothing done after
loading but the error printed. -/
theorem tasksRun_of_unknown {all : List CheckTask} {unknown : List String}
    (hload : (loadedFrom f s).1 = .ok all)
    (hpick : (if (f.all "task").isEmpty then .ok all else pickTasks all (f.all "task")) =
      .error unknown) :
    ((tasksRun f).run s).1 = .ok 2 ∧ LogsOnly (loadedFrom f s).2 ((tasksRun f).run s).2 ∧
      Unknown all (f.all "task") := by
  have hunknown : Unknown all (f.all "task") := by
    split at hpick
    · cases hpick
    · exact (pickTasks_spec all _).1 _ hpick
  unfold tasksRun
  unfold loadedFrom buildFileOf traceOf at hload ⊢
  simp only [run_bind, run_attempt, hload, hpick, print, run_modify, run_pure]
  exact ⟨trivial, LogsOnly.logged _ _, hunknown⟩

/-- The count of failed results is positive exactly when some result failed. -/
theorem failedCount_pos_iff (rs : List TaskResult) :
    (rs.filter (·.status == .failed)).length > 0 ↔ ∃ res ∈ rs, res.status = .failed := by
  simp [List.length_pos_iff_exists_mem]

/-- **Once the tasks are chosen, the command ends as their run does**, with 1 when some task
failed and 0 otherwise. -/
theorem tasksRun_of_chosen {all tasks : List CheckTask} (hload : (loadedFrom f s).1 = .ok all)
    (hpick : (if (f.all "task").isEmpty then .ok all else pickTasks all (f.all "task")) =
      .ok tasks) :
    ((tasksRun f).run s).1 = ((runTasks (f.isSet "keep_going") tasks).run (loadedFrom f s).2).1.map
      fun rs => if ∃ res ∈ rs, res.status = .failed then 1 else 0 := by
  unfold tasksRun
  unfold loadedFrom buildFileOf traceOf at hload ⊢
  simp only [run_bind, run_attempt, hload, hpick]
  rcases (runTasks (f.isSet "keep_going") tasks).run _ with ⟨_ | rs, s₂⟩
  · rfl
  · by_cases hany : ∃ res ∈ rs, res.status = .failed
    · simp only [(failedCount_pos_iff rs).mpr hany, ite_true, run_bind, print, run_modify, run_pure]
      simp [Except.map, hany]
    · simp only [mt (failedCount_pos_iff rs).mp hany, ite_false, run_bind, run_log, run_pure]
      simp [Except.map, hany]

end Branches

/-- **How the run of the task command ends**, from a session.  It returns 2 when the build file
fails to load with a configuration error, or when a named task is unknown: decided before any
task runs, as only the error line is printed after loading.  Otherwise it runs the chosen tasks
and returns 1 exactly when some task failed, else 0.  It fails only with a failure of loading
that is no configuration error, or with one that leaves the run of tasks. -/
theorem tasksRun_ends (f : Found) (s : Session) :
    (∀ F, ((tasksRun f).run s).1 = .error F →
      ((loadedFrom f s).1 = .error F ∧
        ∀ e, F = .audit e → e.kind ≠ .configuration) ∨
      ∃ all tasks, (loadedFrom f s).1 = .ok all ∧
        Chosen all (f.all "task") tasks ∧
        ((runTasks (f.isSet "keep_going") tasks).run
          (loadedFrom f s).2).1 = .error F) ∧
    ∀ code, ((tasksRun f).run s).1 = .ok code →
      (code = 2 ∧
        LogsOnly (loadedFrom f s).2 ((tasksRun f).run s).2 ∧
        ((∃ e, (loadedFrom f s).1 = .error (.audit e) ∧
            e.kind = .configuration) ∨
          ∃ all, (loadedFrom f s).1 = .ok all ∧
            Unknown all (f.all "task"))) ∨
      ∃ all tasks rs, (loadedFrom f s).1 = .ok all ∧
        Chosen all (f.all "task") tasks ∧
        ((runTasks (f.isSet "keep_going") tasks).run
          (loadedFrom f s).2).1 = .ok rs ∧
        (code = 1 ↔ ∃ res ∈ rs, res.status = .failed) ∧
        (code = 0 ↔ ∀ res ∈ rs, res.status ≠ .failed) := by
  rcases hload : (loadedFrom f s).1 with F | all
  · -- loading failed: a configuration error is reported, any other failure leaves the command
    by_cases hk : ∃ e, F = .audit e ∧ e.kind = .configuration
    · obtain ⟨e, rfl, hk⟩ := hk
      obtain ⟨hcode, hlogs⟩ := tasksRun_of_configError hload hk
      rw [hcode]
      exact ⟨fun F hF => (by cases hF),
        fun code hcode => .inl ⟨(by cases hcode; rfl), hlogs, .inl ⟨e, rfl, hk⟩⟩⟩
    · have hF : ∀ e, F = .audit e → e.kind ≠ .configuration := fun e he hk' => hk ⟨e, he, hk'⟩
      rw [tasksRun_of_loadFailure hload hF]
      refine ⟨fun F' hF' => .inl ⟨?_, ?_⟩, fun code hcode => (by cases hcode)⟩
      all_goals cases hF'
      · rfl
      · exact hF
  · -- the tasks are loaded: an unknown name is reported, else the chosen tasks run
    rcases hpick : (if (f.all "task").isEmpty then .ok all else pickTasks all (f.all "task")) with
      unknown | tasks
    · obtain ⟨hcode, hlogs, hunknown⟩ := tasksRun_of_unknown hload hpick
      rw [hcode]
      exact ⟨fun F hF => (by cases hF),
        fun code hcode => .inl ⟨(by cases hcode; rfl), hlogs, .inr ⟨all, rfl, hunknown⟩⟩⟩
    · have hchosen := chosen_of_pick hpick
      rw [tasksRun_of_chosen hload hpick]
      rcases hrun : ((runTasks (f.isSet "keep_going") tasks).run (loadedFrom f s).2).1 with F | rs
      · exact ⟨fun F' hF' => .inr ⟨all, tasks, rfl, hchosen, (by cases hF'; exact hrun)⟩,
          fun code hcode => (by cases hcode)⟩
      · refine ⟨fun F hF => (by cases hF),
          fun code hcode => .inr ⟨all, tasks, rs, rfl, hchosen, hrun, ?_⟩⟩
        cases hcode
        dsimp only
        -- the code says whether some task failed
        by_cases hany : ∃ res ∈ rs, res.status = .failed
        · obtain ⟨res, hres, hfailed⟩ := hany
          rw [if_pos ⟨res, hres, hfailed⟩]
          exact ⟨⟨fun _ => ⟨res, hres, hfailed⟩, fun _ => rfl⟩,
            ⟨fun h => absurd h one_ne_zero, fun hall => absurd hfailed (hall res hres)⟩⟩
        · rw [if_neg hany]
          exact ⟨⟨fun h => absurd h zero_ne_one, fun hsome => absurd hsome hany⟩,
            ⟨fun _ res hres hfailed => hany ⟨res, hres, hfailed⟩, fun _ => rfl⟩⟩

/-- **Once its arguments are read, the task command fails only when its log file cannot be
opened**, or with a failure of its run; otherwise it ends with its run's code, from the session
or the one the opened log file leaves, with the same environment. -/
theorem tasksCommand_found_run {args : List String} {f : Found}
    (hargs : read taskOptions args = .found f) (s : Session) :
    (∀ F, ((tasksCommand args).run s).1 = .error F →
      (∃ p, logFile? f = some p ∧ ((openLogFile p).run s).1 = .error F) ∨
      ∃ s₁, s₁.env = s.env ∧ ((tasksRun f).run s₁).1 = .error F) ∧
    ∀ ending, ((tasksCommand args).run s).1 = .ok ending →
      ending.refused = false ∧ ∃ s₁, s₁.env = s.env ∧
        (tasksRun f).run s₁ = (.ok ending.code, ((tasksCommand args).run s).2) := by
  unfold tasksCommand
  rw [hargs]
  dsimp only
  unfold logFile?
  cases hlog : Option.filter (fun x => !x.isEmpty) (f.last? "log_file") with
  | none =>
    simp only [run_bind]
    rcases hr : (tasksRun f).run s with ⟨_ | code, s₂⟩
    · refine ⟨fun F hF => .inr ⟨s, rfl, ?_⟩, fun ending hend => (by cases hend)⟩
      cases hF
      rw [hr]
    · simp only [run_pure]
      refine ⟨fun F hF => (by cases hF), fun ending hend => ?_⟩
      cases hend
      exact ⟨rfl, s, rfl, by rw [hr]⟩
  | some p =>
    simp only [run_bind]
    rcases hopen : (openLogFile p).run s with ⟨_ | _, s₁⟩
    · refine ⟨fun F hF => .inl ⟨p, rfl, ?_⟩, fun ending hend => (by cases hend)⟩
      cases hF
      rw [hopen]
    · have henv : s₁.env = s.env := by
        rw [← openLogFile_env p s, hopen]
      dsimp only
      rcases hr : (tasksRun f).run s₁ with ⟨_ | code, s₂⟩
      · refine ⟨fun F hF => .inr ⟨s₁, henv, ?_⟩, fun ending hend => (by cases hend)⟩
        cases hF
        rw [hr]
      · simp only [run_pure]
        refine ⟨fun F hF => (by cases hF), fun ending hend => ?_⟩
        cases hend
        exact ⟨rfl, s₁, henv, by rw [hr]⟩

/-! ## The runner, whole -/

/-- A working directory holding a directory `logs` and no build file. -/
def logsOnlySession : Session :=
  { tree := FileTree.initial.put ["work", "logs"] .dir, env := Environment.base }

end CommandLine

end ApiAudit
