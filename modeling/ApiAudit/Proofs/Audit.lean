import ApiAudit.Run.Drive

/-!
# Proofs/Audit — running audit computations step by step

An `Audit` computation is run from a session (`Audit.run`) and gives a result and the session
afterwards.  Here is what each building block does when run: `pure`, `throw`, `>>=`,
`tryCatch`, the session's `get` and `modify`, and the module's own `lift`, `attempt`, `ensuring`,
logging, engine calls and trace events.  Later proofs step through a run by rewriting with these,
never by unfolding the monad.

Then the **frames**: `Audit.Preserves x P` says that running `x` from a session where `P` holds
ends in one where it still holds.  It is closed under `>>=` and `tryCatch`, so a frame of a whole
step follows from the frames of its parts:

* logging and tracing touch neither the engine, the class-loading context nor the exchanges;
* an engine call touches neither the tree nor the context, and leaves an engine in place;
* without a trace file, nothing touches the tree.
-/

namespace ApiAudit

namespace Audit

variable {α β : Type}

/-! ## One building block at a time -/

@[simp] theorem run_pure (a : α) (s : Session) : (pure a : Audit α).run s = (.ok a, s) := rfl

@[simp] theorem run_throw (f : Failure) (s : Session) :
    (throw f : Audit α).run s = (.error f, s) := rfl

theorem run_bind (x : Audit α) (k : α → Audit β) (s : Session) :
    (x >>= k).run s = match x.run s with
      | (.ok a, s') => (k a).run s'
      | (.error f, s') => (.error f, s') := by
  simp only [Audit.run, bind, ExceptT.bind, ExceptT.mk, StateT.bind, ExceptT.run, StateT.run]
  rcases x s with ⟨_ | a, s'⟩ <;> rfl

/-- A step that returned hands its value and session to the rest. -/
theorem run_bind_ok {x : Audit α} {s s' : Session} {a : α} (h : x.run s = (.ok a, s'))
    (k : α → Audit β) : (x >>= k).run s = (k a).run s' := by
  rw [run_bind, h]

/-- A step that failed ends the computation there. -/
theorem run_bind_error {x : Audit α} {s s' : Session} {f : Failure} (h : x.run s = (.error f, s'))
    (k : α → Audit β) : (x >>= k).run s = (.error f, s') := by
  rw [run_bind, h]

theorem run_tryCatch (x : Audit α) (h : Failure → Audit α) (s : Session) :
    (tryCatch x h).run s = match x.run s with
      | (.ok a, s') => (.ok a, s')
      | (.error f, s') => (h f).run s' := by
  show (ExceptT.tryCatch x h).run.run s = _
  simp only [Audit.run, ExceptT.tryCatch, ExceptT.mk, ExceptT.run, StateT.bind, bind, StateT.run]
  rcases x s with ⟨_ | a, s'⟩ <;> rfl

theorem run_map (f : α → β) (x : Audit α) (s : Session) :
    (f <$> x).run s = match x.run s with
      | (.ok a, s') => (.ok (f a), s')
      | (.error e, s') => (.error e, s') := by
  simp only [Audit.run, Functor.map, ExceptT.map, ExceptT.mk, ExceptT.run, StateT.bind, bind,
    StateT.run]
  rcases x s with ⟨_ | a, s'⟩ <;> rfl

@[simp] theorem run_get (s : Session) : (get : Audit Session).run s = (.ok s, s) := rfl

@[simp] theorem run_modify (f : Session → Session) (s : Session) :
    (modify f : Audit PUnit).run s = (.ok ⟨⟩, f s) := rfl

@[simp] theorem run_set (s' s : Session) : (set s' : Audit PUnit).run s = (.ok ⟨⟩, s') := rfl

@[simp] theorem run_lift (r : Except Failure α) (s : Session) : (lift r).run s = (r, s) := by
  cases r <;> rfl

/-- `attempt` always returns, with the computation's result as its value. -/
@[simp] theorem run_attempt (x : Audit α) (s : Session) :
    (attempt x).run s = (.ok (x.run s).1, (x.run s).2) := by
  change (tryCatch (Except.ok <$> x) fun f => pure (Except.error f)).run s = _
  rw [run_tryCatch, run_map]
  rcases x.run s with ⟨_ | a, s'⟩ <;> rfl

/-- **`ensuring` runs its final step whatever the body did**; a failure of the final step
replaces the body's result. -/
theorem run_ensuring (body : Audit α) (final : Audit Unit) (s : Session) :
    (ensuring body final).run s =
      match final.run (body.run s).2 with
      | (.ok _, s') => ((body.run s).1, s')
      | (.error f, s') => (.error f, s') := by
  change (attempt body >>= fun r => final >>= fun _ => lift r).run s = _
  rw [run_bind, run_attempt]
  simp only [run_bind]
  rcases final.run (body.run s).2 with ⟨_ | u, s'⟩ <;> simp

theorem run_alterTree (f : FileTree → Except OsError FileTree) (s : Session) :
    (alterTree f).run s = match f s.tree with
      | .ok t => (.ok (), { s with tree := t })
      | .error e => (.error (.fault (Fault.ofOs e)), s) := by
  simp only [alterTree, run_bind, run_get]
  cases f s.tree <;> rfl

@[simp] theorem run_log (level : Level) (message : String) (s : Session) :
    (log level message).run s = (.ok (), { s with journal := s.journal ++ [.logged level message] }) :=
  rfl

/-- **An engine call** records the exchange and answers with the engine's result; without an
engine it fails. -/
theorem run_invoke_eq (m : Engine.Method) (args : List Value) (s : Session) :
    (invoke m args).run s = match s.engine with
      | none => (.error (.fault ⟨.attribute, s!"'NoneType' object has no attribute '{m.name}'"⟩), s)
      | some e =>
        ((Engine.call s.tree e m args).result,
          { s with engine := some (Engine.call s.tree e m args).engine,
                   journal := s.journal ++ (Engine.call s.tree e m args).notes,
                   exchanges := s.exchanges ++ [⟨.call m args, (Engine.call s.tree e m args).result⟩] }) := by
  unfold invoke
  simp only [run_bind, run_get]
  cases s.engine with
  | none => rfl
  | some e => simp only [run_bind, run_set, run_lift]

theorem run_invoke (m : Engine.Method) (args : List Value) (s : Session) (e : Engine)
    (he : s.engine = some e) :
    (invoke m args).run s =
      ((Engine.call s.tree e m args).result,
        { s with engine := some (Engine.call s.tree e m args).engine,
                 journal := s.journal ++ (Engine.call s.tree e m args).notes,
                 exchanges := s.exchanges ++ [⟨.call m args, (Engine.call s.tree e m args).result⟩] }) := by
  rw [run_invoke_eq, he]

/-- **A factory call** records the exchange and answers with the engine built. -/
theorem run_build (factory : Engine.Factory) (context : Loader) (policy : Policy) (s : Session) :
    (build factory context policy).run s =
      (factory.make context policy,
        { s with exchanges := s.exchanges ++
          [⟨.build context policy, (factory.make context policy).map fun _ => .null⟩] }) := by
  simp only [build, run_bind, run_modify, run_lift]

end Audit

/-- **An engine step** answers like its action, a failure turned by `Failure.ofEngineCall`. -/
theorem run_engineCall {α : Type} (what : String) (onOs : Option (Fault → Failure)) (act : Audit α)
    (s : Session) :
    (engineCall what onOs act).run s = match act.run s with
      | (.ok a, s') => (.ok a, s')
      | (.error f, s') => (.error (Failure.ofEngineCall what onOs f), s') := by
  rw [engineCall, Audit.run_tryCatch]
  rcases act.run s with ⟨_ | a, s'⟩ <;> rfl

/-- Without a trace file, emitting an event does nothing. -/
@[simp] theorem run_emit_untraced (tr : Tracer) (h : tr.path = none) (happening : Trace.Happening)
    (stage : Option Trace.Stage) (message data : Option Value) (s : Session) :
    (tr.emit happening stage message data).run s = (.ok (), s) := by
  simp [Tracer.emit, h]

/-- **What a trace event does**: it changes at most the tree, and it is either written or fails
with a fault, the latter only when there is a trace file. -/
theorem Tracer.emit_cases (tr : Tracer) (happening : Trace.Happening) (stage : Option Trace.Stage)
    (message data : Option Value) (s : Session) :
    ∃ t, ((tr.emit happening stage message data).run s).2 = { s with tree := t } ∧
      (((tr.emit happening stage message data).run s).1 = .ok () ∨
        tr.path.isSome ∧ ∃ f, ((tr.emit happening stage message data).run s).1 = .error (.fault f)) := by
  unfold Tracer.emit
  split
  · exact ⟨s.tree, rfl, .inl rfl⟩
  · rename_i p hp
    simp only [hp, Option.isSome_some, true_and]
    rw [Audit.run_bind, Audit.run_alterTree]
    cases (s.tree.makeDirs (Path.parent p)) with
    | error err => exact ⟨s.tree, rfl, .inr ⟨_, rfl⟩⟩
    | ok t₁ =>
      dsimp only
      split
      · -- a line that cannot be encoded: the file is touched, then the event fails
        rw [Audit.run_bind, Audit.run_alterTree]
        cases (t₁.appendBytes p []) with
        | error err => exact ⟨t₁, rfl, .inr ⟨_, rfl⟩⟩
        | ok t₂ => exact ⟨t₂, rfl, .inr ⟨_, rfl⟩⟩
      · rw [Audit.run_alterTree]
        cases (t₁.appendBytes p _) with
        | error err => exact ⟨t₁, rfl, .inr ⟨_, rfl⟩⟩
        | ok t₂ => exact ⟨t₂, rfl, .inl rfl⟩

/-! ## Frames -/

namespace Audit

variable {α β : Type}

/-- **Running `x` keeps `P`**: from a session where `P` holds, `x` ends in one where it holds. -/
def Preserves (x : Audit α) (P : Session → Prop) : Prop := ∀ s, P s → P (x.run s).2

variable {P : Session → Prop}

theorem Preserves.pure (a : α) : Preserves (Pure.pure a : Audit α) P := fun _ h => h

theorem Preserves.throw (f : Failure) : Preserves (MonadExcept.throw f : Audit α) P := fun _ h => h

theorem Preserves.get : Preserves (MonadState.get : Audit Session) P := fun _ h => h

theorem Preserves.lift (r : Except Failure α) : Preserves (lift r) P := by
  intro s h
  rw [run_lift]
  exact h

theorem Preserves.modify {f : Session → Session} (hf : ∀ s, P s → P (f s)) :
    Preserves (modify f : Audit PUnit) P := fun s h => hf s h

theorem Preserves.bind {x : Audit α} {k : α → Audit β} (hx : Preserves x P)
    (hk : ∀ a, Preserves (k a) P) : Preserves (x >>= k) P := by
  intro s h
  have hs := hx s h
  rw [run_bind]
  rcases hr : x.run s with ⟨_ | a, s'⟩ <;> rw [hr] at hs
  · exact hs
  · exact hk a s' hs

theorem Preserves.tryCatch {x : Audit α} {handler : Failure → Audit α} (hx : Preserves x P)
    (hh : ∀ f, Preserves (handler f) P) : Preserves (tryCatch x handler) P := by
  intro s h
  have hs := hx s h
  rw [run_tryCatch]
  rcases hr : x.run s with ⟨_ | a, s'⟩ <;> rw [hr] at hs
  · exact hh _ s' hs
  · exact hs

theorem Preserves.attempt {x : Audit α} (hx : Preserves x P) : Preserves (attempt x) P := by
  intro s h
  rw [run_attempt]
  exact hx s h

theorem Preserves.ensuring {body : Audit α} {final : Audit Unit} (hb : Preserves body P)
    (hf : Preserves final P) : Preserves (ensuring body final) P := by
  intro s h
  have hs := hf _ (hb s h)
  rw [run_ensuring]
  rcases hr : final.run (body.run s).2 with ⟨_ | u, s'⟩ <;> rw [hr] at hs <;> exact hs

/-- A property blind to the journal survives logging. -/
theorem Preserves.log (hP : ∀ s j, P s → P { s with journal := j }) (level : Level)
    (message : String) : Preserves (Audit.log level message) P := fun s h => hP s _ h

/-- A property blind to the engine, the journal and the exchanges survives an engine call. -/
theorem Preserves.invoke (hP : ∀ s e j xs, P s → P { s with engine := e, journal := j, exchanges := xs })
    (m : Engine.Method) (args : List Value) : Preserves (invoke m args) P := by
  intro s h
  cases he : s.engine with
  | none =>
    unfold Audit.invoke
    simp only [run_bind, run_get, he, run_throw]
    exact h
  | some e =>
    rw [run_invoke m args s e he]
    exact hP s _ _ _ h

theorem Preserves.alterTree (hP : ∀ s t, P s → P { s with tree := t })
    (f : FileTree → Except OsError FileTree) : Preserves (alterTree f) P := by
  intro s h
  rw [run_alterTree]
  cases f s.tree with
  | ok t => exact hP s t h
  | error e => exact h

end Audit

/-- A property blind to the tree survives a trace event. -/
theorem Audit.Preserves.emit {P : Session → Prop} (hP : ∀ s t, P s → P { s with tree := t })
    (tr : Tracer) (happening : Trace.Happening) (stage : Option Trace.Stage)
    (message data : Option Value) : Audit.Preserves (tr.emit happening stage message data) P := by
  intro s h
  obtain ⟨t, ht, -⟩ := tr.emit_cases happening stage message data s
  rw [ht]
  exact hP s t h

/-- **An engine step keeps what its action keeps.** -/
theorem Audit.Preserves.engineCall {α : Type} {P : Session → Prop} {act : Audit α}
    (h : Audit.Preserves act P) (what : String) (onOs : Option (Fault → Failure)) :
    Audit.Preserves (engineCall what onOs act) P :=
  .tryCatch h fun _ => .throw _

end ApiAudit
