import ApiAudit.Proofs.Kernel

/-!
# Proofs/TraceFile — what a run writes to its trace file

A trace event goes to the trace file as one line: the directories above the file are made, and
the line, when UTF-8 can encode it, is appended (`Tracer.Appends`).  `Tracer.Written tr t E t'`
says that writing the lines of the events `E` one after another, each of them an event of `tr`,
takes the tree `t` to `t'`, and that nothing else happened to it.

`Audit.Writes tr x R` is a triple over what a step writes: from every session, running `x`
appends some exchanges `N` and either writes some events `E` to the trace, with `R N E r` of its
result `r`, or is stopped by the trace file with a fault (`TraceStopped`).  Steps that leave the
tree alone write nothing (`Writes.quiet`), an event writes itself (`Writes.emit`), and
`Writes.bind` puts two steps one after the other: their exchanges and their events add up.
-/

namespace ApiAudit

open Audit

/-- The line an event is written as. -/
def Trace.Event.line (e : Trace.Event) : String := Json.render traceStyle e.toValue ++ "\n"

/-- **The event a tracer writes** for a happening: its run, and the parts given, a null message
or data left out. -/
def Tracer.event (tr : Tracer) (happening : Trace.Happening) (stage : Option Trace.Stage)
    (message data : Option Value) : Trace.Event :=
  { runId := tr.runId, happening, stage, message := message.filter (!·.isNull),
    data := data.filter (!·.isNull) }

@[simp] theorem Tracer.event_runId (tr : Tracer) (happening : Trace.Happening)
    (stage : Option Trace.Stage) (message data : Option Value) :
    (tr.event happening stage message data).runId = tr.runId := rfl

@[simp] theorem Tracer.event_happening (tr : Tracer) (happening : Trace.Happening)
    (stage : Option Trace.Stage) (message data : Option Value) :
    (tr.event happening stage message data).happening = happening := rfl

/-- **One event appended to the trace file**: an event of the tracer's run, whose line UTF-8 can
encode, written after the directories above the file are made. -/
def Tracer.Appends (tr : Tracer) (t : FileTree) (e : Trace.Event) (t' : FileTree) : Prop :=
  ∃ p, tr.path = some p ∧ e.runId = tr.runId ∧ Text.firstRun? e.line = none ∧
    ∃ t₁, t.makeDirs (Path.parent p) = .ok t₁ ∧ t₁.appendBytes p (utf8Bytes e.line) = .ok t'

/-- **The events `E` written to the trace file, in order**, taking the tree `t` to `t'`. -/
inductive Tracer.Written (tr : Tracer) : FileTree → List Trace.Event → FileTree → Prop
  | nil (t : FileTree) : Tracer.Written tr t [] t
  | cons {t t₁ t' : FileTree} {e : Trace.Event} {E : List Trace.Event} :
      tr.Appends t e t₁ → Tracer.Written tr t₁ E t' → Tracer.Written tr t (e :: E) t'

namespace Tracer.Written

variable {tr : Tracer} {t t₁ t' : FileTree} {E E₁ E₂ : List Trace.Event}

theorem single {e : Trace.Event} (h : tr.Appends t e t') : tr.Written t [e] t' :=
  .cons h (.nil t')

theorem append (h₁ : tr.Written t E₁ t₁) (h₂ : tr.Written t₁ E₂ t') :
    tr.Written t (E₁ ++ E₂) t' := by
  induction h₁ with
  | nil => exact h₂
  | cons happ _ ih => exact .cons happ (ih h₂)

/-- Every event written names the tracer's run. -/
theorem runId (h : tr.Written t E t') : ∀ e ∈ E, e.runId = tr.runId := by
  induction h with
  | nil => simp
  | cons happ _ ih =>
    obtain ⟨p, -, hrun, -⟩ := happ
    intro e he
    rcases List.mem_cons.mp he with rfl | he
    · exact hrun
    · exact ih e he

end Tracer.Written

/-- **A trace event on a trace file**: appended, or failed with a fault. -/
theorem Tracer.run_emit (tr : Tracer) (htr : tr.path.isSome) (happening : Trace.Happening)
    (stage : Option Trace.Stage) (message data : Option Value) (s : Session) :
    (∃ t', tr.Appends s.tree (tr.event happening stage message data) t' ∧
      (tr.emit happening stage message data).run s = (.ok (), { s with tree := t' })) ∨
    ∃ f t', (tr.emit happening stage message data).run s = (.error (.fault f), { s with tree := t' }) := by
  obtain ⟨p, hp⟩ := Option.isSome_iff_exists.mp htr
  unfold Tracer.emit
  rw [hp]
  dsimp only
  rw [run_bind, run_alterTree]
  cases hdirs : s.tree.makeDirs (Path.parent p) with
  | error err => exact .inr ⟨_, s.tree, rfl⟩
  | ok t₁ =>
    dsimp only
    split
    · -- a line that cannot be encoded: the file is touched, then the event fails
      rw [run_bind, run_alterTree]
      cases t₁.appendBytes p [] with
      | error err => exact .inr ⟨_, t₁, rfl⟩
      | ok t₂ => exact .inr ⟨_, t₂, rfl⟩
    · rename_i hline
      rw [run_alterTree]
      cases happend : t₁.appendBytes p _ with
      | error err => exact .inr ⟨_, t₁, rfl⟩
      | ok t₂ => exact .inl ⟨t₂, ⟨p, hp, rfl, hline, t₁, hdirs, happend⟩, rfl⟩

namespace Audit

variable {α β : Type} (tr : Tracer)

/-- **What running `x` writes to the trace**: from every session, running `x` appends exchanges
`N` and either writes the events `E`, and nothing else, to the tree, with `R N E r` of its result
`r`, or is stopped by the trace file. -/
def Writes (x : Audit α) (R : List Exchange → List Trace.Event → Except Failure α → Prop) :
    Prop :=
  ∀ s, ∃ N, (x.run s).2.exchanges = s.exchanges ++ N ∧
    ((∃ E, tr.Written s.tree E (x.run s).2.tree ∧ R N E (x.run s).1) ∨
      TraceStopped tr (x.run s).1)

variable {tr} {x : Audit α} {R R' : List Exchange → List Trace.Event → Except Failure α → Prop}

namespace Writes

theorem mono (h : Writes tr x R) (hR : ∀ N E r, R N E r → R' N E r) : Writes tr x R' := by
  intro s
  obtain ⟨N, hN, hw⟩ := h s
  refine ⟨N, hN, hw.imp_left ?_⟩
  rintro ⟨E, hE, hr⟩
  exact ⟨E, hE, hR _ _ _ hr⟩

/-- **Sequencing**: a step that failed ends the run with its failure; one that returned hands
its value on, and the exchanges and the events of the two add up. -/
theorem bind {k : α → Audit β} {R₂ : α → List Exchange → List Trace.Event → Except Failure β → Prop}
    (hx : Writes tr x R) (hk : ∀ a, Writes tr (k a) (R₂ a)) :
    Writes tr (x >>= k) fun N E r => (∃ f, R N E (.error f) ∧ r = .error f) ∨
      ∃ a N₁ N₂ E₁ E₂, R N₁ E₁ (.ok a) ∧ R₂ a N₂ E₂ r ∧ N = N₁ ++ N₂ ∧ E = E₁ ++ E₂ := by
  intro s
  obtain ⟨N₁, hN₁, hw₁⟩ := hx s
  rw [run_bind]
  rcases hrun : x.run s with ⟨_ | a, s₁⟩ <;> rw [hrun] at hN₁ hw₁ <;> dsimp only at hN₁ hw₁ ⊢
  · -- the first step failed: nothing more runs
    refine ⟨N₁, hN₁, ?_⟩
    rcases hw₁ with ⟨E, hE, hr⟩ | ⟨htr, f, hf⟩
    · exact .inl ⟨E, hE, .inl ⟨_, hr, rfl⟩⟩
    · cases hf
      exact .inr ⟨htr, f, rfl⟩
  · obtain ⟨N₂, hN₂, hw₂⟩ := hk a s₁
    refine ⟨N₁ ++ N₂, by rw [hN₂, hN₁, List.append_assoc], ?_⟩
    rcases hw₁ with ⟨E₁, hE₁, hr₁⟩ | ⟨-, f, hf⟩
    · rcases hw₂ with ⟨E₂, hE₂, hr₂⟩ | hstop
      · exact .inl ⟨E₁ ++ E₂, hE₁.append hE₂, .inr ⟨a, N₁, N₂, E₁, E₂, hr₁, hr₂, rfl, rfl⟩⟩
      · exact .inr hstop
    · cases hf

/-- **A step that leaves the tree alone writes nothing.** -/
theorem quiet {R₀ : List Exchange → Except Failure α → Prop} (hx : Ends x (fun _ => True) R₀)
    (htree : ∀ t, Preserves x (·.tree = t)) : Writes tr x fun N E r => E = [] ∧ R₀ N r := by
  intro s
  obtain ⟨N, hN, hr⟩ := hx s trivial
  refine ⟨N, hN, .inl ⟨[], ?_, rfl, hr⟩⟩
  rw [htree s.tree s rfl]
  exact .nil _

/-- **A trace event writes itself**, on a trace file. -/
theorem emit (htr : tr.path.isSome) (happening : Trace.Happening) (stage : Option Trace.Stage)
    (message data : Option Value) :
    Writes tr (tr.emit happening stage message data) fun N E r =>
      N = [] ∧ E = [tr.event happening stage message data] ∧ r = .ok () := by
  intro s
  rcases tr.run_emit htr happening stage message data s with ⟨t', happ, hrun⟩ | ⟨f, t', hrun⟩ <;>
    rw [hrun]
  · exact ⟨[], by simp, .inl ⟨_, .single happ, rfl, rfl, rfl⟩⟩
  · exact ⟨[], by simp, .inr ⟨htr, f, rfl⟩⟩

/-- A closing step that touches neither the tree nor the exchanges changes nothing written. -/
theorem ensuring_modify (h : Writes tr x R) (f : Session → Session)
    (hf : ∀ s, (f s).tree = s.tree ∧ (f s).exchanges = s.exchanges) :
    Writes tr (ensuring x (modify f)) R := by
  intro s
  obtain ⟨N, hN, hw⟩ := h s
  rw [run_ensuring_modify]
  refine ⟨N, by rw [(hf _).2, hN], ?_⟩
  dsimp only
  rw [(hf _).1]
  exact hw

/-- **A trace event written whatever the step did** comes after the step's events, and may only
stop the run. -/
theorem ensuring_emit (h : Writes tr x R) (htr : tr.path.isSome) (happening : Trace.Happening)
    (stage : Option Trace.Stage) (message data : Option Value) :
    Writes tr (ensuring x (tr.emit happening stage message data)) fun N E r =>
      ∃ E₀, R N E₀ r ∧ E = E₀ ++ [tr.event happening stage message data] := by
  intro s
  obtain ⟨N, hN, hw⟩ := h s
  rw [run_ensuring]
  rcases tr.run_emit htr happening stage message data (x.run s).2 with
    ⟨t', happ, hrun⟩ | ⟨f, t', hrun⟩ <;> rw [hrun] <;> dsimp only
  · refine ⟨N, hN, ?_⟩
    rcases hw with ⟨E₀, hE₀, hr⟩ | hstop
    · exact .inl ⟨E₀ ++ [_], hE₀.append (.single happ), E₀, hr, rfl⟩
    · exact .inr hstop
  · exact ⟨N, hN, .inr ⟨htr, f, rfl⟩⟩

end Writes

/-! ## Steps that leave the tree alone -/

/-- An engine call, with or without an engine to call. -/
theorem Ends.invoke_any {pre : Session → Prop} (m : Engine.Method) (args : List Value) :
    Ends (Audit.invoke m args) pre fun N r =>
      N = [⟨.call m args, r⟩] ∨ N = [] ∧ ∃ f, r = .error (.fault f) := by
  intro s _
  rw [run_invoke_eq]
  cases s.engine with
  | none => exact ⟨[], by simp, .inr ⟨rfl, _, rfl⟩⟩
  | some e => exact ⟨_, rfl, .inl rfl⟩

/-- A call of the factory appends its one exchange, whatever it answers. -/
theorem Ends.build {pre : Session → Prop} (factory : Engine.Factory) (context : Loader)
    (policy : Policy) :
    Ends (Audit.build factory context policy) pre fun N r =>
      N = [⟨.build context policy, r.map fun _ => .null⟩] := by
  intro s _
  rw [run_build]
  exact ⟨_, rfl, rfl⟩

theorem Preserves.tree_invoke (t : FileTree) (m : Engine.Method) (args : List Value) :
    Preserves (Audit.invoke m args) (·.tree = t) :=
  .invoke (fun _ _ _ _ h => h) m args

theorem Preserves.tree_loadSource (t : FileTree) (source : Source) :
    Preserves (loadSource source) (·.tree = t) := by
  have hlog : ∀ level message, Preserves (Audit.log level message) (·.tree = t) :=
    .log fun _ _ h => h
  cases source with
  | bundled name hint =>
    exact .bind (hlog _ _) fun _ => .bind (.tree_invoke t _ _) fun _ => .pure _
  | inline text =>
    exact .bind (hlog _ _) fun _ => .bind (.tree_invoke t _ _) fun _ => .pure _
  | file path =>
    refine .bind (hlog _ _) fun _ => .bind .get fun s => ?_
    split
    · exact .throw_bind _ _
    · exact .bind (.tree_invoke t _ _) fun _ => .pure _

/-- **The loading of a signature source**, with or without an engine: its one load call, or a
fault before it. -/
theorem Ends.loadSource_any {pre : Session → Prop} (source : Source) :
    Ends (loadSource source) pre fun N r =>
      (∃ a, N = [⟨.load source, a⟩] ∧ r = a.map fun _ => source.shown) ∨
        N = [] ∧ ∃ f, r = .error (.fault f) := by
  -- the load call, under the name the source is traced with
  have hcall : ∀ (m : Engine.Method) (args : List Value) (s : Session),
      Request.load source = .call m args →
      ∃ N, ((Audit.invoke m args >>= fun _ => Pure.pure source.shown).run s).2.exchanges =
          s.exchanges ++ N ∧
        ((∃ a, N = [⟨.load source, a⟩] ∧
            ((Audit.invoke m args >>= fun _ => Pure.pure source.shown).run s).1 =
              a.map fun _ => source.shown) ∨
          N = [] ∧ ∃ f, ((Audit.invoke m args >>= fun _ => Pure.pure source.shown).run s).1 =
            .error (.fault f)) := by
    intro m args s hload
    obtain ⟨N, hN, hr⟩ := @Ends.invoke_any (fun _ => True) m args s trivial
    rw [run_bind]
    rcases hrun : (Audit.invoke m args).run s with ⟨_ | v, s₁⟩ <;> rw [hrun] at hN hr <;>
      dsimp only at hN hr ⊢
    · rcases hr with rfl | ⟨rfl, f, hf⟩
      · exact ⟨_, hN, .inl ⟨_, by rw [hload], rfl⟩⟩
      · cases hf
        exact ⟨[], hN, .inr ⟨rfl, f, rfl⟩⟩
    · rcases hr with rfl | ⟨-, f, hf⟩
      · exact ⟨_, hN, .inl ⟨_, by rw [hload], rfl⟩⟩
      · cases hf
  intro s _
  cases source with
  | bundled name hint =>
    rw [loadSource, run_bind_ok (run_log _ _ s)]
    exact hcall _ _ _ rfl
  | inline text =>
    rw [loadSource, run_bind_ok (run_log _ _ s)]
    exact hcall _ _ _ rfl
  | file path =>
    rw [loadSource, run_bind_ok (run_log _ _ s), run_bind_ok (run_get _)]
    split
    · rw [run_bind_error (run_throw _ _)]
      exact ⟨[], by simp, .inr ⟨rfl, _, rfl⟩⟩
    · exact hcall _ _ _ rfl

namespace Writes

variable {γ : Type} {R : List Exchange → List Trace.Event → Except Failure γ → Prop}

/-- A step that leaves the session as it is writes nothing. -/
theorem still {x : Audit γ} {r₀ : Except Failure γ} (h : ∀ s, x.run s = (r₀, s)) :
    Writes tr x fun N E r => N = [] ∧ E = [] ∧ r = r₀ := by
  intro s
  rw [h s]
  exact ⟨[], by simp, .inl ⟨[], .nil _, rfl, rfl, rfl⟩⟩

theorem pure (a : α) : Writes tr (Pure.pure a) fun N E r => N = [] ∧ E = [] ∧ r = .ok a :=
  still (run_pure a)

theorem throw (f : Failure) :
    Writes tr (MonadExcept.throw f : Audit α) fun N E r => N = [] ∧ E = [] ∧ r = .error f :=
  still (run_throw f)

/-- What follows a failure never runs. -/
theorem throw_bind (f : Failure) (k : α → Audit γ) :
    Writes tr (MonadExcept.throw f >>= k) fun N E r => N = [] ∧ E = [] ∧ r = .error f :=
  still fun s => run_bind_error (run_throw f s) k

/-- A change of the session that keeps its tree and its exchanges writes nothing. -/
theorem modify {f : Session → Session}
    (hf : ∀ s, (f s).tree = s.tree ∧ (f s).exchanges = s.exchanges) :
    Writes tr (modify f : Audit PUnit) fun N E r => N = [] ∧ E = [] ∧ r = .ok ⟨⟩ := by
  intro s
  rw [run_modify, (hf s).1]
  exact ⟨[], by rw [(hf s).2, List.append_nil], .inl ⟨[], .nil _, rfl, rfl, rfl⟩⟩

/-- A record logged first changes nothing the rest writes. -/
theorem log_bind {level : Level} {message : String} {k : Unit → Audit γ} (hk : Writes tr (k ()) R) :
    Writes tr (Audit.log level message >>= k) R := by
  intro s
  rw [run_bind_ok (run_log _ _ s)]
  exact hk _

/-- What follows a look at the session writes what it writes from there. -/
theorem get_bind {k : Session → Audit γ} (hk : ∀ s, Writes tr (k s) R) :
    Writes tr (MonadState.get >>= k) R := by
  intro s
  rw [run_bind_ok (run_get s)]
  exact hk s s

/-- The result of a computation outside the session, and what follows it: a failure ends the
step with nothing written. -/
theorem lift_bind {r₀ : Except Failure α} {k : α → Audit γ} (hk : ∀ a, Writes tr (k a) R)
    (herror : ∀ F, R [] [] (.error F)) : Writes tr (Audit.lift r₀ >>= k) R := by
  intro s
  cases r₀ with
  | ok a =>
    rw [run_bind_ok (run_lift _ s)]
    exact hk a s
  | error F =>
    rw [run_bind_error (run_lift _ s)]
    exact ⟨[], by simp, .inl ⟨[], .nil _, herror F⟩⟩

/-- A trace event, and then a step that neither calls nor writes anything. -/
theorem emit_then (htr : tr.path.isSome) (happening : Trace.Happening)
    (stage : Option Trace.Stage) (message data : Option Value) {k : Unit → Audit γ}
    {P : Except Failure γ → Prop} (hk : ∀ u, Writes tr (k u) fun N E r => N = [] ∧ E = [] ∧ P r) :
    Writes tr (tr.emit happening stage message data >>= k) fun N E r =>
      N = [] ∧ E = [tr.event happening stage message data] ∧ P r := by
  refine ((emit htr happening stage message data).bind hk).mono ?_
  rintro N E r (⟨F, ⟨-, -, h⟩, -⟩ | ⟨⟨⟩, N₁, N₂, E₁, E₂, ⟨rfl, rfl, -⟩, ⟨rfl, rfl, hr⟩, rfl, rfl⟩)
  · cases h
  · exact ⟨rfl, rfl, hr⟩

/-- An engine step: one call, or none without an engine, and its failures turned. -/
theorem engineCall_invoke (what : String) (onOs : Option (Fault → Failure)) (m : Engine.Method)
    (args : List Value) :
    Writes tr (engineCall what onOs (Audit.invoke m args)) fun N E _ =>
      E = [] ∧ ∃ r₀, N = [⟨.call m args, r₀⟩] ∨ N = [] := by
  refine (quiet ((Ends.invoke_any m args).turned _)
    fun t => .tryCatch (.tree_invoke t m args) fun _ => .throw _).mono ?_
  rintro N E r ⟨rfl, r₀, (rfl | ⟨rfl, -⟩), -⟩
  · exact ⟨rfl, r₀, .inl rfl⟩
  · exact ⟨rfl, r₀, .inr rfl⟩

theorem attempt_invoke (m : Engine.Method) (args : List Value) :
    Writes tr (Audit.attempt (Audit.invoke m args)) fun N E r =>
      E = [] ∧ ∃ r₀, r = .ok r₀ ∧ (N = [⟨.call m args, r₀⟩] ∨ N = [] ∧ ∃ f, r₀ = .error (.fault f)) := by
  refine (quiet (Ends.invoke_any m args).attempt fun t => .attempt (.tree_invoke t m args)).mono ?_
  rintro N E r ⟨rfl, r₀, h, rfl⟩
  exact ⟨rfl, r₀, rfl, h⟩

/-- The factory's call, its failure turned. -/
theorem engineCall_build (what : String) (onOs : Option (Fault → Failure))
    (factory : Engine.Factory) (context : Loader) (policy : Policy) :
    Writes tr (engineCall what onOs (Audit.build factory context policy)) fun N E _ =>
      E = [] ∧ ∃ a, N = [⟨.build context policy, a⟩] := by
  refine (quiet ((Ends.build factory context policy).turned _)
    fun t => .tryCatch (.build (fun _ _ h => h) _ _ _) fun _ => .throw _).mono ?_
  rintro N E r ⟨rfl, r₀, rfl, -⟩
  exact ⟨rfl, _, rfl⟩

/-- The loading of a signature source, its failures turned. -/
theorem loadSource (g : Failure → Failure) (source : Source) :
    Writes tr (tryCatch (ApiAudit.loadSource source) fun f => MonadExcept.throw (g f))
      fun N E r => E = [] ∧
        ((∃ a, N = [⟨.load source, a⟩] ∧ r = (a.map fun _ => source.shown).mapError g) ∨
          N = [] ∧ ∃ f, r = .error (g (.fault f))) := by
  refine (quiet ((Ends.loadSource_any source).turned g)
    fun t => .tryCatch (.tree_loadSource t source) fun _ => .throw _).mono ?_
  rintro N E r ⟨rfl, r₀, (⟨a, rfl, rfl⟩ | ⟨rfl, f, rfl⟩), rfl⟩
  · exact ⟨rfl, .inl ⟨a, rfl, rfl⟩⟩
  · exact ⟨rfl, .inr ⟨rfl, f, rfl⟩⟩

end Writes

end Audit

end ApiAudit
