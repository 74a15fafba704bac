import ApiAudit.Proofs.TraceFile

/-!
# Proofs/TraceEmit — every event a step emits, written or refused

`Audit.Writes` (Proofs/TraceFile) follows the events a step writes until the trace file fails;
a run whose trace file failed is left there.  Here nothing is left: every event a step emits is
followed, whether the trace file took its line (`Tracer.Appends`) or refused it
(`Tracer.Refused`: a line UTF-8 cannot encode, or a file or directory that cannot be written).
Steps after a refused event go on emitting, since a run still releases its class-loading context.

`Tracer.Emitted tr t E t'` says that the events `E` were emitted one after another, taking the
tree `t` to `t'`, and that nothing else happened to it.  `Audit.Emits tr x R` is the triple: from
every session, running `x` appends some exchanges `N`, emits some events `E` and ends with a
result `r` such that `R N E r`.  It has the rules of `Audit.Writes` with no case left out, and
one for `ensuring`, whose final step runs whatever the body did.
-/

namespace ApiAudit

open Audit

/-- **A trace event the trace file refused**: nothing was appended, though the directories above
the file may have been made and the file opened. -/
def Tracer.Refused (tr : Tracer) (t : FileTree) (e : Trace.Event) (t' : FileTree) : Prop :=
  ∃ p, tr.path = some p ∧ e.runId = tr.runId ∧
    (t' = t ∨ ∃ t₁, t.makeDirs (Path.parent p) = .ok t₁ ∧ (t' = t₁ ∨ t₁.appendBytes p [] = .ok t'))

/-- **The events `E` emitted, in order**, taking the tree `t` to `t'`: each written to the trace
file or refused by it. -/
inductive Tracer.Emitted (tr : Tracer) : FileTree → List Trace.Event → FileTree → Prop
  | nil (t : FileTree) : Tracer.Emitted tr t [] t
  | written {t t₁ t' : FileTree} {e : Trace.Event} {E : List Trace.Event} :
      tr.Appends t e t₁ → Tracer.Emitted tr t₁ E t' → Tracer.Emitted tr t (e :: E) t'
  | refused {t t₁ t' : FileTree} {e : Trace.Event} {E : List Trace.Event} :
      tr.Refused t e t₁ → Tracer.Emitted tr t₁ E t' → Tracer.Emitted tr t (e :: E) t'

namespace Tracer.Emitted

variable {tr : Tracer} {t t₁ t' : FileTree} {E E₁ E₂ : List Trace.Event}

theorem append (h₁ : tr.Emitted t E₁ t₁) (h₂ : tr.Emitted t₁ E₂ t') :
    tr.Emitted t (E₁ ++ E₂) t' := by
  induction h₁ with
  | nil => exact h₂
  | written happ _ ih => exact .written happ (ih h₂)
  | refused hrefused _ ih => exact .refused hrefused (ih h₂)

/-- Every event emitted names the tracer's run. -/
theorem runId (h : tr.Emitted t E t') : ∀ e ∈ E, e.runId = tr.runId := by
  induction h with
  | nil => simp
  | written happ _ ih =>
    obtain ⟨p, -, hrun, -⟩ := happ
    intro e he
    rcases List.mem_cons.mp he with rfl | he
    · exact hrun
    · exact ih e he
  | refused hrefused _ ih =>
    obtain ⟨p, -, hrun, -⟩ := hrefused
    intro e he
    rcases List.mem_cons.mp he with rfl | he
    · exact hrun
    · exact ih e he

end Tracer.Emitted

/-- **A trace event, emitted**: on a trace file it is written or refused, and a refusal fails
with a fault; without a file nothing happens.  Only the tree changes. -/
theorem Tracer.run_emit_emitted (tr : Tracer) (happening : Trace.Happening)
    (stage : Option Trace.Stage) (message data : Option Value) (s : Session) :
    ∃ E t' r, (tr.emit happening stage message data).run s = (r, { s with tree := t' }) ∧
      tr.Emitted s.tree E t' ∧ E = (tr.path.map fun _ => tr.event happening stage message data).toList ∧
      (r = .ok () ∨ ∃ f, r = .error (.fault f)) := by
  cases hp : tr.path with
  | none => exact ⟨[], s.tree, _, run_emit_untraced tr hp _ _ _ _ s, .nil _, by simp, .inl rfl⟩
  | some p =>
    -- the event refused, once the tree is `t'`
    have hrefused : ∀ t', tr.Refused s.tree (tr.event happening stage message data) t' →
        tr.Emitted s.tree [tr.event happening stage message data] t' :=
      fun t' h => .refused h (.nil t')
    unfold Tracer.emit
    rw [hp]
    dsimp only
    rw [run_bind, run_alterTree]
    cases hdirs : s.tree.makeDirs (Path.parent p) with
    | error err =>
      exact ⟨_, s.tree, _, rfl, hrefused _ ⟨p, hp, rfl, .inl rfl⟩, by simp, .inr ⟨_, rfl⟩⟩
    | ok t₁ =>
      dsimp only
      split
      · -- a line that cannot be encoded: the file is touched, then the event fails
        rw [run_bind, run_alterTree]
        cases hopen : t₁.appendBytes p [] with
        | error err =>
          exact ⟨_, t₁, _, rfl, hrefused _ ⟨p, hp, rfl, .inr ⟨t₁, hdirs, .inl rfl⟩⟩, by simp,
            .inr ⟨_, rfl⟩⟩
        | ok t₂ =>
          exact ⟨_, t₂, _, rfl, hrefused _ ⟨p, hp, rfl, .inr ⟨t₁, hdirs, .inr hopen⟩⟩, by simp,
            .inr ⟨_, rfl⟩⟩
      · rename_i hline
        rw [run_alterTree]
        cases happend : t₁.appendBytes p _ with
        | error err =>
          exact ⟨_, t₁, _, rfl, hrefused _ ⟨p, hp, rfl, .inr ⟨t₁, hdirs, .inl rfl⟩⟩, by simp,
            .inr ⟨_, rfl⟩⟩
        | ok t₂ =>
          exact ⟨_, t₂, _, rfl, .written ⟨p, hp, rfl, hline, t₁, hdirs, happend⟩ (.nil t₂),
            rfl, .inl rfl⟩

namespace Audit

variable {α β : Type} (tr : Tracer)

/-- **What running `x` emits**: from every session, running `x` appends exchanges `N`, emits
the events `E`, and nothing else happens to the tree, with `R N E r` of its result `r`. -/
def Emits (x : Audit α) (R : List Exchange → List Trace.Event → Except Failure α → Prop) : Prop :=
  ∀ s, ∃ N E, (x.run s).2.exchanges = s.exchanges ++ N ∧
    tr.Emitted s.tree E (x.run s).2.tree ∧ R N E (x.run s).1

variable {tr} {x : Audit α} {R R' : List Exchange → List Trace.Event → Except Failure α → Prop}

namespace Emits

theorem mono (h : Emits tr x R) (hR : ∀ N E r, R N E r → R' N E r) : Emits tr x R' := by
  intro s
  obtain ⟨N, E, hN, hE, hr⟩ := h s
  exact ⟨N, E, hN, hE, hR _ _ _ hr⟩

/-- **Sequencing**: a step that failed ends the run with its failure; one that returned hands
its value on, and the exchanges and the events of the two add up. -/
theorem bind {k : α → Audit β} {R₂ : α → List Exchange → List Trace.Event → Except Failure β → Prop}
    (hx : Emits tr x R) (hk : ∀ a, Emits tr (k a) (R₂ a)) :
    Emits tr (x >>= k) fun N E r => (∃ f, R N E (.error f) ∧ r = .error f) ∨
      ∃ a N₁ N₂ E₁ E₂, R N₁ E₁ (.ok a) ∧ R₂ a N₂ E₂ r ∧ N = N₁ ++ N₂ ∧ E = E₁ ++ E₂ := by
  intro s
  obtain ⟨N₁, E₁, hN₁, hE₁, hr₁⟩ := hx s
  rw [run_bind]
  rcases hrun : x.run s with ⟨_ | a, s₁⟩ <;> rw [hrun] at hN₁ hE₁ hr₁ <;> dsimp only at hN₁ hE₁ hr₁ ⊢
  · exact ⟨N₁, E₁, hN₁, hE₁, .inl ⟨_, hr₁, rfl⟩⟩
  · obtain ⟨N₂, E₂, hN₂, hE₂, hr₂⟩ := hk a s₁
    exact ⟨N₁ ++ N₂, E₁ ++ E₂, by rw [hN₂, hN₁, List.append_assoc], hE₁.append hE₂,
      .inr ⟨a, N₁, N₂, E₁, E₂, hr₁, hr₂, rfl, rfl⟩⟩

/-- **A step that leaves the tree alone emits nothing.** -/
theorem quiet {R₀ : List Exchange → Except Failure α → Prop} (hx : Ends x (fun _ => True) R₀)
    (htree : ∀ t, Preserves x (·.tree = t)) : Emits tr x fun N E r => E = [] ∧ R₀ N r := by
  intro s
  obtain ⟨N, hN, hr⟩ := hx s trivial
  refine ⟨N, [], hN, ?_, rfl, hr⟩
  rw [htree s.tree s rfl]
  exact .nil _

/-- **A trace event emits itself**, on a trace file; a refusal fails with a fault. -/
theorem emit (happening : Trace.Happening) (stage : Option Trace.Stage) (message data : Option Value) :
    Emits tr (tr.emit happening stage message data) fun N E r =>
      N = [] ∧ E = (tr.path.map fun _ => tr.event happening stage message data).toList ∧
        (r = .ok () ∨ ∃ f, r = .error (.fault f)) := by
  intro s
  obtain ⟨E, t', r, hrun, hE, hevent, hr⟩ := tr.run_emit_emitted happening stage message data s
  rw [hrun]
  exact ⟨[], E, by simp, hE, rfl, hevent, hr⟩

/-- `attempt` always returns, with what the step gave as its value. -/
theorem attempt (h : Emits tr x R) :
    Emits tr (Audit.attempt x) fun N E r => ∃ r₀, R N E r₀ ∧ r = .ok r₀ := by
  intro s
  obtain ⟨N, E, hN, hE, hr⟩ := h s
  rw [run_attempt]
  exact ⟨N, E, hN, hE, _, hr, rfl⟩

/-- **A final step runs whatever the body did**: the exchanges and events of the two add up,
and a failure of the final step replaces the body's result. -/
theorem ensuring {final : Audit Unit} {R₂ : List Exchange → List Trace.Event → Except Failure Unit → Prop}
    (h : Emits tr x R) (hfinal : Emits tr final R₂) :
    Emits tr (ensuring x final) fun N E r => ∃ r₀ u N₁ N₂ E₁ E₂, R N₁ E₁ r₀ ∧ R₂ N₂ E₂ u ∧
      N = N₁ ++ N₂ ∧ E = E₁ ++ E₂ ∧ (u = .ok () ∧ r = r₀ ∨ ∃ f, u = .error f ∧ r = .error f) := by
  intro s
  obtain ⟨N₁, E₁, hN₁, hE₁, hr₁⟩ := h s
  obtain ⟨N₂, E₂, hN₂, hE₂, hr₂⟩ := hfinal (x.run s).2
  rw [run_ensuring]
  rcases hrun : final.run (x.run s).2 with ⟨_ | ⟨⟩, s₂⟩ <;> rw [hrun] at hN₂ hE₂ hr₂ <;>
    dsimp only at hN₂ hE₂ hr₂ ⊢
  · exact ⟨N₁ ++ N₂, E₁ ++ E₂, by rw [hN₂, hN₁, List.append_assoc], hE₁.append hE₂,
      _, _, N₁, N₂, E₁, E₂, hr₁, hr₂, rfl, rfl, .inr ⟨_, rfl, rfl⟩⟩
  · exact ⟨N₁ ++ N₂, E₁ ++ E₂, by rw [hN₂, hN₁, List.append_assoc], hE₁.append hE₂,
      _, _, N₁, N₂, E₁, E₂, hr₁, hr₂, rfl, rfl, .inl ⟨rfl, rfl⟩⟩

variable {γ : Type} {R : List Exchange → List Trace.Event → Except Failure γ → Prop}

/-- A step that leaves the session as it is emits nothing. -/
theorem still {x : Audit γ} {r₀ : Except Failure γ} (h : ∀ s, x.run s = (r₀, s)) :
    Emits tr x fun N E r => N = [] ∧ E = [] ∧ r = r₀ := by
  intro s
  rw [h s]
  exact ⟨[], [], by simp, .nil _, rfl, rfl, rfl⟩

theorem pure (a : α) : Emits tr (Pure.pure a) fun N E r => N = [] ∧ E = [] ∧ r = .ok a :=
  still (run_pure a)

theorem throw (f : Failure) :
    Emits tr (MonadExcept.throw f : Audit α) fun N E r => N = [] ∧ E = [] ∧ r = .error f :=
  still (run_throw f)

theorem throw_bind (f : Failure) (k : α → Audit γ) :
    Emits tr (MonadExcept.throw f >>= k) fun N E r => N = [] ∧ E = [] ∧ r = .error f :=
  still fun s => run_bind_error (run_throw f s) k

/-- A change of the session that keeps its tree and its exchanges emits nothing. -/
theorem modify {f : Session → Session}
    (hf : ∀ s, (f s).tree = s.tree ∧ (f s).exchanges = s.exchanges) :
    Emits tr (modify f : Audit PUnit) fun N E r => N = [] ∧ E = [] ∧ r = .ok ⟨⟩ := by
  intro s
  rw [run_modify, (hf s).1]
  exact ⟨[], [], by rw [(hf s).2, List.append_nil], .nil _, rfl, rfl, rfl⟩

/-- A record logged first changes nothing the rest emits. -/
theorem log_bind {level : Level} {message : String} {k : Unit → Audit γ} (hk : Emits tr (k ()) R) :
    Emits tr (Audit.log level message >>= k) R := by
  intro s
  rw [run_bind_ok (run_log _ _ s)]
  exact hk _

/-- What follows a look at the session emits what it emits from there. -/
theorem get_bind {k : Session → Audit γ} (hk : ∀ s, Emits tr (k s) R) :
    Emits tr (MonadState.get >>= k) R := by
  intro s
  rw [run_bind_ok (run_get s)]
  exact hk s s

/-- The result of a computation outside the session, and what follows it. -/
theorem lift_bind {r₀ : Except Failure α} {k : α → Audit γ} (hk : ∀ a, Emits tr (k a) R)
    (herror : ∀ F, r₀ = .error F → R [] [] (.error F)) : Emits tr (Audit.lift r₀ >>= k) R := by
  intro s
  cases r₀ with
  | ok a =>
    rw [run_bind_ok (run_lift _ s)]
    exact hk a s
  | error F =>
    rw [run_bind_error (run_lift _ s)]
    exact ⟨[], [], by simp, .nil _, herror F rfl⟩

end Emits

end Audit

end ApiAudit
