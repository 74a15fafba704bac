import ApiAudit.Proofs.Drive

/-!
# Proofs/Kernel — how a whole run ends

    start ──▸ body ──▸ (context acquired ──▸ factory ──▸ drive ──▸ context closed) ──▸ end

The drive's relations (`Driving`) are wrapped, step by step, into those of a whole run:

* `Executing` — the engine run in its class-loading context: the factory called once with
  the context, then the drive; `execute_run` also shows the context closed afterwards;
* `Body` — what happens before: a configuration without signatures, the classpath, the class
  files found first where an empty set skips the run (`classFiles_tolerant`);
* `Running` — the traced start and end around the body (`run_ends`).

`Handled` says what becomes of the class-loading context: untouched unless the factory was
called, and then the context given to it, closed.  A run whose file tree ends as it began wrote
no trace (`untraced_of_static`).
-/

namespace ApiAudit

open Audit

namespace Audit

variable {α : Type}

/-- A step whose every way out closes something (`f`): the result is the step's, and the
closing is done on whatever session it left. -/
theorem run_ensuring_modify (x : Audit α) (f : Session → Session) (s : Session) :
    (ensuring x (modify f)).run s = ((x.run s).1, f (x.run s).2) := by
  rw [run_ensuring, run_modify]

/-- A result as a trace event after it leaves it: unchanged, or replaced by the event's fault. -/
def Released (tr : Tracer) (r₀ r : Except Failure α) : Prop :=
  r = r₀ ∨ tr.path.isSome ∧ ∃ f, r = .error (.fault f)

/-- Without a trace file, nothing is released. -/
theorem Released.eq_of_untraced {tr : Tracer} (htr : tr.path = none) {r₀ r : Except Failure α}
    (h : Released tr r₀ r) : r = r₀ := by
  rcases h with h | ⟨hpath, -⟩
  · exact h
  · simp [htr] at hpath

/-- A step followed, whatever happens, by a trace event: the event touches only the tree and
may only replace the result by its own fault. -/
theorem ensuring_emit_cases (x : Audit α) (tr : Tracer) (happening : Trace.Happening)
    (stage : Option Trace.Stage) (message data : Option Value) (s : Session) :
    ∃ t, ((ensuring x (tr.emit happening stage message data)).run s).2 =
        { (x.run s).2 with tree := t } ∧
      Released tr (x.run s).1 ((ensuring x (tr.emit happening stage message data)).run s).1 := by
  obtain ⟨t, ht, hr⟩ := tr.emit_cases happening stage message data (x.run s).2
  rw [run_ensuring]
  rcases hrun : (tr.emit happening stage message data).run (x.run s).2 with ⟨_ | u, s'⟩ <;>
    rw [hrun] at ht hr <;> dsimp only at ht hr ⊢ <;> subst ht
  · rcases hr with h | ⟨htr, f, hf⟩
    · cases h
    · cases hf
      exact ⟨t, rfl, .inr ⟨htr, _, rfl⟩⟩
  · exact ⟨t, rfl, .inl rfl⟩

/-- **A trace event and what follows it**: the event touches only the tree, and either the rest
runs or the event's fault ends the step. -/
theorem run_emit_bind {β : Type} (tr : Tracer) (happening : Trace.Happening)
    (stage : Option Trace.Stage) (message data : Option Value) (k : Unit → Audit β)
    (s : Session) :
    ∃ t, (tr.emit happening stage message data >>= k).run s = (k ()).run { s with tree := t } ∨
      tr.path.isSome ∧ ∃ f, (tr.emit happening stage message data >>= k).run s =
        (.error (.fault f), { s with tree := t }) := by
  obtain ⟨t, ht, hr⟩ := tr.emit_cases happening stage message data s
  refine ⟨t, ?_⟩
  rw [run_bind]
  rcases hrun : (tr.emit happening stage message data).run s with ⟨_ | u, s₁⟩ <;>
    rw [hrun] at ht hr <;> dsimp only at ht hr ⊢ <;> subst ht
  · rcases hr with h | ⟨htr, f, hf⟩
    · cases h
    · cases hf
      exact .inr ⟨htr, f, rfl⟩
  · exact .inl rfl

end Audit

/-- **The class-loading context after a run that made the exchanges `N`**: untouched when
the factory was never called; otherwise the context handed to it, closed. -/
def Handled (before after : Option Loader) (N : List Exchange) : Prop :=
  (N = [] ∧ after = before) ∨
    ∃ (context : Loader) (policy : Policy) (a : Except Failure Value) (M : List Exchange),
      N = ⟨.build context policy, a⟩ :: M ∧ after = some context.close

/-- A run stopped by its trace file: there is one, and the run failed with a fault. -/
def TraceStopped {α : Type} (tr : Tracer) (r : Except Failure α) : Prop :=
  tr.path.isSome ∧ ∃ f, r = .error (.fault f)

theorem Audit.Released.traceStopped {α : Type} {tr : Tracer} {r₀ r : Except Failure α}
    (h₀ : TraceStopped tr r₀) (h : Released tr r₀ r) : TraceStopped tr r := by
  rcases h with rfl | h
  · exact h₀
  · exact h

/-- **How running the engine in its class-loading context ends**: the context's acquisition traced
(which may fail), the factory called once with the context, then the drive; the release traced
last may replace the result by its fault. -/
inductive Executing (tr : Tracer) (ctx : RunContext) (config : RunConfig) (seen : FileTree → Prop)
    (classpath : List String) (files : ClassFiles) :
    List Exchange → Except Failure Outcome → Prop
  | unacquired (f : Fault) : tr.path.isSome →
      Executing tr ctx config seen classpath files [] (.error (.fault f))
  | unbuilt (X : Failure) {r : Except Failure Outcome} :
      Released tr (.error (Failure.ofEngineCall "create the scanning engine" none X)) r →
      Executing tr ctx config seen classpath files
        [⟨.build { roots := classpath } config.policy, .error X⟩] r
  | driven {N : List Exchange} {r₀ r : Except Failure Outcome} :
      Driving tr ctx config seen files N r₀ → (∀ x ∈ N, x.request.isCall) →
      Released tr r₀ r →
      Executing tr ctx config seen classpath files
        (⟨.build { roots := classpath } config.policy, .ok .null⟩ :: N) r

/-- **Running the engine**: how it ends, and the class-loading context left closed once it was
handed to the factory. -/
theorem execute_run (factory : Engine.Factory) {tr : Tracer} {seen : FileTree → Prop}
    (hk : Keeps tr seen) (ctx : RunContext) (config : RunConfig) (classpath : List String)
    (files : ClassFiles) (s : Session) (hs : seen s.tree) :
    ∃ N, ((execute factory tr ctx config classpath files
          (Kernel.classFiles tr ctx config)).run s).2.exchanges = s.exchanges ++ N ∧
      Executing tr ctx config seen classpath files N
        ((execute factory tr ctx config classpath files
          (Kernel.classFiles tr ctx config)).run s).1 ∧
      Handled s.loader
        ((execute factory tr ctx config classpath files
          (Kernel.classFiles tr ctx config)).run s).2.loader N := by
  unfold execute
  dsimp only
  rw [run_bind]
  obtain ⟨t₁, ht₁, hr₁⟩ := tr.emit_cases .loaderAcquired (some .acquire) none
    (some (Value.obj [("classpath", Value.strs classpath)])) s
  have hs₁ : seen t₁ := by
    have := hk .loaderAcquired (some .acquire) none
      (some (Value.obj [("classpath", Value.strs classpath)])) s hs
    rwa [ht₁] at this
  rcases hrun : (tr.emit .loaderAcquired (some .acquire) none
      (some (Value.obj [("classpath", Value.strs classpath)]))).run s with ⟨_ | u, s₁⟩ <;>
    rw [hrun] at ht₁ hr₁ <;> dsimp only at ht₁ hr₁ ⊢ <;> subst ht₁
  · rcases hr₁ with h | ⟨htr, f, hf⟩
    · cases h
    · cases hf
      exact ⟨[], by simp, .unacquired f htr, .inl ⟨rfl, rfl⟩⟩
  · obtain ⟨t₂, hsess, hrel⟩ :=
      ensuring_emit_cases _ tr .loaderReleased (some .release) none none { s with tree := t₁ }
    rw [hsess]
    rw [run_ensuring_modify] at hrel ⊢
    dsimp only at hrel ⊢
    simp only [run_bind, run_modify, run_engineCall, run_build] at hrel ⊢
    cases hmake : factory.make { roots := classpath } config.policy with
    | error X =>
      simp only [hmake] at hrel ⊢
      exact ⟨[⟨_, .error X⟩], rfl, .unbuilt X hrel, .inr ⟨_, _, _, [], rfl, rfl⟩⟩
    | ok e =>
      simp only [hmake, Except.map] at hrel ⊢
      -- the drive runs with the engine built and the context handed over
      generalize hs₃ : ({
          tree := t₁, env := s.env, journal := s.journal, engine := some e,
          loader := some { roots := classpath },
          exchanges :=
            s.exchanges ++ [⟨.build { roots := classpath } config.policy, .ok .null⟩] } :
          Session) = s₃ at hrel ⊢
      have hF := (Frame.engine tr).and hk.frame
      obtain ⟨M, hM, hdrive⟩ :=
        ends_drive hF (fun _ h => h.1) (fun _ h => h.2) ctx config files s₃
          ⟨by rw [← hs₃]; rfl, by rw [← hs₃]; exact hs₁⟩
      have hloader := (Frame.loader tr (some { roots := classpath })).drive ctx config files
        ((Frame.loader tr _).classFiles ctx config) s₃ (by rw [← hs₃])
      obtain ⟨M', hM', hcalls⟩ := (Frame.calls tr s₃.exchanges).drive ctx config files
        ((Frame.calls tr _).classFiles ctx config) s₃ ⟨[], by simp, by simp⟩
      have hsame : M' = M := List.append_cancel_left (hM'.symm.trans hM)
      subst hsame
      refine ⟨⟨.build { roots := classpath } config.policy, .ok .null⟩ :: M', ?_,
        .driven hdrive hcalls hrel, .inr ⟨_, _, _, M', rfl, ?_⟩⟩
      · rw [hM', ← hs₃]
        simp
      · rw [hloader]
        rfl

/-- **Where the front end tolerates an empty class set, the class files are those selected in
the tree the search starts in**, unless their trace event fails. -/
theorem classFiles_tolerant (tr : Tracer) {ctx : RunContext} (config : RunConfig)
    (hskip : ctx.skipWhenNoClasses = true) (s : Session) :
    Released tr (.ok (Kernel.selectIn s.tree config))
      ((Kernel.classFiles tr ctx config).run s).1 := by
  unfold Kernel.classFiles
  simp only [run_bind, run_log, run_get, hskip, Bool.not_true, Bool.and_false, Bool.false_eq_true,
    if_false]
  obtain ⟨t, -, hr⟩ := tr.emit_cases .filesResolved (some .files) none
    (some (Value.obj [("count", .int (Kernel.selectIn s.tree config).length)]))
    { s with journal := s.journal ++ [.logged .info "Scanning for classes to check..."] }
  rcases hrun : (tr.emit .filesResolved (some .files) none
      (some (Value.obj [("count", .int (Kernel.selectIn s.tree config).length)]))).run
      { s with journal := s.journal ++ [.logged .info "Scanning for classes to check..."] } with
    ⟨_ | u, s₁⟩ <;> rw [hrun] at hr <;> dsimp only at hr ⊢
  · rcases hr with h | ⟨htr, f, hf⟩
    · cases h
    · cases hf
      exact .inr ⟨htr, f, rfl⟩
  · exact .inl rfl

/-- A configuration that names no signature source while allowing internal runtime classes. -/
def RunConfig.Unsigned (config : RunConfig) : Prop :=
  config.sources = [] ∧ config.policy.internalRuntimeForbidden.truthy = false

/-- **How the body of a run ends**, from the tree `t` and environment `env` it starts in: a
configuration without signatures is skipped or rejected, the classpath is built, the class
files are found first where an empty set skips the run, and then the engine runs. -/
inductive Body (tr : Tracer) (ctx : RunContext) (config : RunConfig) (seen : FileTree → Prop)
    (t : FileTree) (env : Environment) : List Exchange → Except Failure Outcome → Prop
  | unsignedSkipped : config.Unsigned → ctx.skipWhenNoSignatures = true →
      Body tr ctx config seen t env [] (.ok (Outcome.skip noSignaturesSkip))
  | unsigned : config.Unsigned → ctx.skipWhenNoSignatures = false →
      Body tr ctx config seen t env []
        (.error (Failure.config "signatures.none" noSignaturesMessage))
  | unbuilt (F : Failure) : ¬config.Unsigned →
      Classpath.build env config.classpathEntries (.str config.classesDirectory) = .error F →
      Body tr ctx config seen t env [] (.error F)
  | empty (classpath : List String) : ¬config.Unsigned →
      Classpath.build env config.classpathEntries (.str config.classesDirectory) = .ok classpath →
      ctx.skipWhenNoClasses = true → Kernel.selectIn t config = [] →
      Body tr ctx config seen t env [] (.ok (Outcome.skip (Kernel.noClassesMessage config)))
  | executed (classpath : List String) {files : ClassFiles} {N : List Exchange}
      {r : Except Failure Outcome} : ¬config.Unsigned →
      Classpath.build env config.classpathEntries (.str config.classesDirectory) = .ok classpath →
      files = (if ctx.skipWhenNoClasses then .found (Kernel.selectIn t config) else .later) →
      (ctx.skipWhenNoClasses = true → Kernel.selectIn t config ≠ []) →
      Executing tr ctx config seen classpath files N r → Body tr ctx config seen t env N r
  | stopped (f : Fault) : tr.path.isSome → Body tr ctx config seen t env [] (.error (.fault f))

/-- A run skipped by the body: logged, traced, and no exchange made. -/
theorem skip_run (tr : Tracer) (stage : Trace.Stage) (logged message : String) (s : Session) :
    let x : Audit Outcome := do
      Audit.log .info logged
      tr.emit .runSkipped (some stage) (some (.str message))
      return Outcome.skip message
    (x.run s).2.exchanges = s.exchanges ∧ (x.run s).2.loader = s.loader ∧
      Released tr (.ok (Outcome.skip message)) (x.run s).1 := by
  intro x
  simp only [x]
  rw [run_bind_ok (run_log _ _ _)]
  obtain ⟨t, h | ⟨htr, f, h⟩⟩ :=
    run_emit_bind tr .runSkipped (some stage) (some (.str message)) none
      (fun _ => pure (Outcome.skip message))
      { s with journal := s.journal ++ [.logged .info logged] }
  · rw [h, run_pure]
    exact ⟨rfl, rfl, .inl rfl⟩
  · rw [h]
    exact ⟨rfl, rfl, .inr ⟨htr, f, rfl⟩⟩

/-- **How the body of a run ends**, with the class-loading context handed to the factory
closed again. -/
theorem body_run (factory : Engine.Factory) {tr : Tracer} {seen : FileTree → Prop}
    (hk : Keeps tr seen) (ctx : RunContext) (config : RunConfig) (s : Session) (hs : seen s.tree) :
    ∃ N, ((Kernel.body factory tr ctx config).run s).2.exchanges = s.exchanges ++ N ∧
      Body tr ctx config seen s.tree s.env N ((Kernel.body factory tr ctx config).run s).1 ∧
      Handled s.loader ((Kernel.body factory tr ctx config).run s).2.loader N := by
  unfold Kernel.body
  dsimp only
  split
  · -- no signature source while internal runtime classes are allowed
    rename_i hunsigned
    have hu : config.Unsigned := by simpa [RunConfig.Unsigned] using hunsigned
    split
    · rename_i hskip
      obtain ⟨hN, hl, hr⟩ := skip_run tr .signatures noSignaturesSkip noSignaturesSkip s
      refine ⟨[], by simpa using hN, ?_, .inl ⟨rfl, hl⟩⟩
      rcases hr with h | ⟨htr, f, h⟩ <;> rw [h]
      · exact .unsignedSkipped hu hskip
      · exact .stopped f htr
    · rename_i hskip
      rw [run_bind_error (run_throw _ _)]
      exact ⟨[], by simp, .unsigned hu (by simpa using hskip), .inl ⟨rfl, rfl⟩⟩
  · rename_i hsigned
    have hu : ¬config.Unsigned := by simpa [RunConfig.Unsigned] using hsigned
    rw [run_bind_ok (run_get s), run_bind, run_lift]
    cases hcp : Classpath.build s.env config.classpathEntries (.str config.classesDirectory) with
    | error F => exact ⟨[], by simp, .unbuilt F hu hcp, .inl ⟨rfl, rfl⟩⟩
    | ok classpath =>
      dsimp only
      split
      · -- the class files are found first, in the tree the body started in
        rename_i hskip
        have hfound := classFiles_tolerant tr config hskip s
        obtain ⟨N₀, hN₀, rfl, -⟩ := ends_classFiles hk.frame (fun _ h => h) ctx config s hs
        have hl₀ := (Frame.loader tr s.loader).classFiles ctx config s rfl
        have hs₀ := hk.frame.classFiles ctx config s hs
        rw [run_bind]
        rcases hrun : (Kernel.classFiles tr ctx config).run s with ⟨r₁, s₁⟩
        rw [hrun] at hfound hN₀ hl₀ hs₀
        dsimp only at hfound hN₀ hl₀ hs₀ ⊢
        rcases hfound with rfl | ⟨htr, f, rfl⟩
        · dsimp only
          split
          · rename_i hempty
            obtain ⟨hN, hl, hr⟩ := skip_run tr .files _ (Kernel.noClassesMessage config) s₁
            refine ⟨[], by simpa [hN₀] using hN, ?_, .inl ⟨rfl, hl.trans hl₀⟩⟩
            rcases hr with h | ⟨htr, f, h⟩ <;> rw [h]
            · exact .empty classpath hu hcp hskip (by simpa using hempty)
            · exact .stopped f htr
          · rename_i hsome
            obtain ⟨N, hN, hrun, hl⟩ := execute_run factory hk ctx config classpath
              (.found (Kernel.selectIn s.tree config)) s₁ hs₀
            refine ⟨N, by simpa [hN₀] using hN, .executed classpath hu hcp (by simp [hskip])
              (fun _ => by simpa using hsome) hrun, ?_⟩
            rwa [hl₀] at hl
        · exact ⟨[], by simpa using hN₀, .stopped f htr, .inl ⟨rfl, hl₀⟩⟩
      · -- the class files are found during the drive
        rename_i hskip
        obtain ⟨N, hN, hrun, hl⟩ := execute_run factory hk ctx config classpath .later s hs
        exact ⟨N, hN,
          .executed classpath hu hcp (by simp [hskip]) (fun h => absurd h hskip) hrun, hl⟩

/-- **How a whole run ends**, from what its start answered and the tree `t` it left: a failed
start ends the run, otherwise the body runs and the closing trace event may replace its result
by its fault. -/
inductive Running (ctx : RunContext) (config : RunConfig) (seen : FileTree → Prop)
    (started : Except Failure Unit) (t : FileTree) (env : Environment) :
    List Exchange → Except Failure Outcome → Prop
  | unstarted (f : Fault) : started = .error (.fault f) → ctx.tracePath.isSome →
      Running ctx config seen started t env [] (.error (.fault f))
  | ran {N : List Exchange} {r₀ r : Except Failure Outcome} : started = .ok () →
      Body (Kernel.tracer ctx) ctx config seen t env N r₀ →
      Released (Kernel.tracer ctx) r₀ r →
      Running ctx config seen started t env N r

/-- The end of a run once its body is over: a trace event that may only replace the result by
its fault. -/
theorem finish_run (ctx : RunContext) (r₀ : Except Failure Outcome) (s : Session) :
    let x : Audit Outcome := match r₀ with
      | .ok outcome => do
        (Kernel.tracer ctx).emit .runFinished none (some outcome.message)
          (some (Value.obj [("status", .str outcome.status.name),
            ("files_checked", .int outcome.filesChecked)]))
        pure outcome
      | .error (.audit e) => do
        (Kernel.tracer ctx).emit .runFailed none (some e.message)
          (some (Value.obj [("code", e.code)]))
        throw (.audit e)
      | .error other => throw other
    (x.run s).2.exchanges = s.exchanges ∧ (x.run s).2.loader = s.loader ∧
      Released (Kernel.tracer ctx) r₀ (x.run s).1 := by
  match r₀ with
  | .ok outcome =>
    intro x
    obtain ⟨t, h | ⟨htr, f, h⟩⟩ := run_emit_bind (Kernel.tracer ctx) .runFinished none
      (some outcome.message) (some (Value.obj [("status", .str outcome.status.name),
        ("files_checked", .int outcome.filesChecked)])) (fun _ => pure outcome) s
    · simp only [x]
      rw [h, run_pure]
      exact ⟨rfl, rfl, .inl rfl⟩
    · simp only [x]
      rw [h]
      exact ⟨rfl, rfl, .inr ⟨htr, f, rfl⟩⟩
  | .error (.audit e) =>
    intro x
    obtain ⟨t, h | ⟨htr, f, h⟩⟩ := run_emit_bind (Kernel.tracer ctx) .runFailed none
      (some e.message) (some (Value.obj [("code", e.code)])) (fun _ => throw (.audit e)) s
    · simp only [x]
      rw [h, run_throw]
      exact ⟨rfl, rfl, .inl rfl⟩
    · simp only [x]
      rw [h]
      exact ⟨rfl, rfl, .inr ⟨htr, f, rfl⟩⟩
  | .error (.task e) => exact ⟨rfl, rfl, .inl rfl⟩
  | .error (.fault e) => exact ⟨rfl, rfl, .inl rfl⟩

/-- The start of a run touches only the tree, and fails only by its trace event. -/
theorem start_cases (ctx : RunContext) (config : RunConfig) (s : Session) :
    ∃ t, ((Kernel.start ctx config).run s).2 = { s with tree := t } ∧
      Released (Kernel.tracer ctx) (.ok ()) ((Kernel.start ctx config).run s).1 :=
  Tracer.emit_cases _ _ _ _ _ s

/-- **How a run ends**: its exchanges with the engine and its factory, what it answers, and
the class-loading context it leaves. -/
theorem run_ends (factory : Engine.Factory) (ctx : RunContext) (config : RunConfig)
    {seen : FileTree → Prop} (hk : Keeps (Kernel.tracer ctx) seen) (s : Session)
    (hs : seen s.tree) :
    ∃ N, ((Kernel.run factory ctx config).run s).2.exchanges = s.exchanges ++ N ∧
      Running ctx config seen ((Kernel.start ctx config).run s).1
        ((Kernel.start ctx config).run s).2.tree s.env N
        ((Kernel.run factory ctx config).run s).1 ∧
      Handled s.loader ((Kernel.run factory ctx config).run s).2.loader N := by
  obtain ⟨t₁, ht₁, hr₁⟩ := start_cases ctx config s
  have hs₁ : seen t₁ := by
    have : seen ((Kernel.start ctx config).run s).2.tree := hk _ _ _ _ s hs
    rwa [ht₁] at this
  unfold Kernel.run
  dsimp only
  rw [run_bind]
  rcases hrun : (Kernel.start ctx config).run s with ⟨_ | u, s₁⟩ <;>
    rw [hrun] at ht₁ hr₁ <;> dsimp only at ht₁ hr₁ ⊢ <;> subst ht₁
  · -- the start's trace event failed
    rcases hr₁ with h | ⟨htr, f, hf⟩
    · cases h
    · cases hf
      exact ⟨[], by simp, .unstarted f rfl htr, .inl ⟨rfl, rfl⟩⟩
  · rw [run_bind, run_attempt]
    dsimp only
    obtain ⟨N, hN, hbody, hl⟩ := body_run factory hk ctx config { s with tree := t₁ } hs₁
    obtain ⟨hN', hl', hr⟩ := finish_run ctx
      ((Kernel.body factory (Kernel.tracer ctx) ctx config).run { s with tree := t₁ }).1
      ((Kernel.body factory (Kernel.tracer ctx) ctx config).run { s with tree := t₁ }).2
    exact ⟨N, hN'.trans hN, .ran rfl hbody hr, (congrArg (Handled s.loader · N) hl').mpr hl⟩

/-- The start of a run grows the tree, strictly when it writes to a trace file. -/
theorem start_grows (ctx : RunContext) (config : RunConfig) (s : Session) :
    FileTree.Grows s.tree ((Kernel.start ctx config).run s).2.tree ∧
      (((Kernel.start ctx config).run s).1 = .ok () → ctx.tracePath.isSome →
        ∃ q, s.tree.extent q < ((Kernel.start ctx config).run s).2.tree.extent q) :=
  Tracer.emit_grows _ _ _ _ _ s

/-- **Without a trace file a run leaves the file tree alone.** -/
theorem static_of_untraced (factory : Engine.Factory) (ctx : RunContext) (config : RunConfig)
    (s : Session) (htr : ctx.tracePath = none) :
    ((Kernel.run factory ctx config).run s).2.tree = s.tree := by
  have hk := keeps_of_untraced (show (Kernel.tracer ctx).path = none from htr) (· = s.tree)
  refine hk.run_started factory config s ?_
  rw [Kernel.start, run_emit_untraced _ htr]

/-- **A run that leaves its file tree as it found it wrote no trace**: there is no trace file,
or the event that starts the run failed. -/
theorem untraced_of_static (factory : Engine.Factory) (ctx : RunContext) (config : RunConfig)
    (s : Session) (hstatic : ((Kernel.run factory ctx config).run s).2.tree = s.tree) :
    ctx.tracePath = none ∨ ∃ F, ((Kernel.start ctx config).run s).1 = .error F := by
  cases hpath : ctx.tracePath with
  | none => exact .inl rfl
  | some p =>
    refine .inr ?_
    cases hstart : ((Kernel.start ctx config).run s).1 with
    | error F => exact ⟨F, rfl⟩
    | ok u =>
      -- the start wrote to the trace file, and nothing after it shrinks the tree
      obtain ⟨q, hq⟩ := (start_grows ctx config s).2 hstart (by simp [hpath])
      have hgrow := (Tracer.keeps_grows (Kernel.tracer ctx)
        ((Kernel.start ctx config).run s).2.tree).run_started factory config s
          (FileTree.Grows.refl _)
      exact absurd hstatic (FileTree.ne_of_grows_of_lt hgrow hq)

end ApiAudit
