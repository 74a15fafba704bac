import ApiAudit.Proofs.Frame

/-!
# Proofs/Ends — what a step adds to the exchanges, and what it answers

`Audit.Ends x pre R` is a triple over the exchanges with the engine and its factory: from every
session satisfying `pre`, running `x` appends some exchanges `N` and answers `r` with `R N r`.
The building blocks each get one such triple (`Ends.pure`, `Ends.invoke`, `Ends.emit`, ...),
and `Ends.bind` puts two steps one after the other: the first one's failure ends the run, its
value feeds the second, and their exchanges add up.  `Ends.engineStep` is the shape every engine
step of a run has: one call, whose failure is turned, or whose answer feeds the rest.

The relations that describe how each part of a run ends (`Proofs/Drive`, `Proofs/Kernel`) are
proved sound with these triples.
-/

namespace ApiAudit

namespace Audit

variable {α β : Type}

/-- **What running `x` appends and answers**: from every session satisfying `pre`, running `x`
appends exchanges `N` and answers `r` with `R N r`. -/
def Ends (x : Audit α) (pre : Session → Prop) (R : List Exchange → Except Failure α → Prop) : Prop :=
  ∀ s, pre s → ∃ N, (x.run s).2.exchanges = s.exchanges ++ N ∧ R N (x.run s).1

variable {x : Audit α} {pre : Session → Prop} {R R' : List Exchange → Except Failure α → Prop}

theorem Ends.mono (h : Ends x pre R) (hR : ∀ N r, R N r → R' N r) : Ends x pre R' := fun s hs =>
  let ⟨N, hN, hr⟩ := h s hs
  ⟨N, hN, hR N _ hr⟩

/-- **Sequencing**: a step that failed ends the run with its failure; one that returned hands its
value on, and the exchanges of the two add up. -/
theorem Ends.bind {k : α → Audit β} {R₂ : α → List Exchange → Except Failure β → Prop}
    (hx : Ends x pre R) (hp : Preserves x pre) (hk : ∀ a, Ends (k a) pre (R₂ a)) :
    Ends (x >>= k) pre fun N r => (∃ f, R N (.error f) ∧ r = .error f) ∨
      ∃ a N₁ N₂, R N₁ (.ok a) ∧ R₂ a N₂ r ∧ N = N₁ ++ N₂ := by
  intro s hs
  obtain ⟨N₁, hN₁, hr₁⟩ := hx s hs
  have hs₁ := hp s hs
  rw [run_bind]
  rcases hrun : x.run s with ⟨_ | a, s₁⟩ <;> rw [hrun] at hN₁ hr₁ hs₁
  · exact ⟨N₁, hN₁, .inl ⟨_, hr₁, rfl⟩⟩
  · obtain ⟨N₂, hN₂, hr₂⟩ := hk a s₁ hs₁
    exact ⟨N₁ ++ N₂, by rw [hN₂, hN₁, List.append_assoc], .inr ⟨a, N₁, N₂, hr₁, hr₂, rfl⟩⟩

theorem Ends.pure (a : α) : Ends (Pure.pure a : Audit α) pre fun N r => N = [] ∧ r = .ok a :=
  fun _ _ => ⟨[], by simp, rfl, rfl⟩

theorem Ends.throw (f : Failure) :
    Ends (MonadExcept.throw f : Audit α) pre fun N r => N = [] ∧ r = .error f :=
  fun _ _ => ⟨[], by simp, rfl, rfl⟩

/-- What follows a failure never runs. -/
theorem Ends.throw_bind (f : Failure) (k : α → Audit β) :
    Ends (MonadExcept.throw f >>= k) pre fun N r => N = [] ∧ r = .error f := fun s _ => by
  rw [run_bind_error (run_throw f s)]
  exact ⟨[], by simp, rfl, rfl⟩

theorem Ends.log (level : Level) (message : String) :
    Ends (Audit.log level message) pre fun N r => N = [] ∧ r = .ok () :=
  fun _ _ => ⟨[], by simp, rfl, rfl⟩

theorem Ends.get : Ends (MonadState.get : Audit Session) pre fun N r => N = [] ∧ ∃ s, pre s ∧ r = .ok s :=
  fun s hs => ⟨[], by simp, rfl, s, hs, rfl⟩

theorem Ends.lift (r₀ : Except Failure α) : Ends (Audit.lift r₀) pre fun N r => N = [] ∧ r = r₀ :=
  fun _ _ => ⟨[], by simp, rfl, by simp⟩

/-- An engine call appends its one exchange and answers with it. -/
theorem Ends.invoke (m : Engine.Method) (args : List Value) (hpre : ∀ s, pre s → s.engine.isSome) :
    Ends (Audit.invoke m args) pre fun N r => N = [⟨.call m args, r⟩] := by
  intro s hs
  obtain ⟨e, he⟩ := Option.isSome_iff_exists.mp (hpre s hs)
  rw [run_invoke m args s e he]
  exact ⟨_, rfl, rfl⟩

/-- A trace event appends nothing, and fails only with a fault when there is a trace file. -/
theorem Ends.emit (tr : Tracer) (happening : Trace.Happening) (stage : Option Trace.Stage)
    (message data : Option Value) :
    Ends (tr.emit happening stage message data) pre fun N r =>
      N = [] ∧ (r = .ok () ∨ tr.path.isSome ∧ ∃ f, r = .error (.fault f)) := by
  intro s _
  obtain ⟨t, ht, hr⟩ := tr.emit_cases happening stage message data s
  exact ⟨[], by rw [ht, List.append_nil], rfl, hr⟩

/-- A step whose failures are turned by `g`. -/
theorem Ends.turned (g : Failure → Failure) (h : Ends x pre R) :
    Ends (tryCatch x fun f => MonadExcept.throw (g f)) pre fun N r =>
      ∃ r₀, R N r₀ ∧ r = r₀.mapError g := by
  intro s hs
  obtain ⟨N, hN, hr⟩ := h s hs
  rw [run_tryCatch]
  rcases hrun : x.run s with ⟨_ | a, s₁⟩ <;> rw [hrun] at hN hr
  · exact ⟨N, hN, _, hr, rfl⟩
  · exact ⟨N, hN, _, hr, rfl⟩

/-- `attempt` always returns, with the step's result as its value. -/
theorem Ends.attempt (h : Ends x pre R) :
    Ends (Audit.attempt x) pre fun N r => ∃ r₀, R N r₀ ∧ r = .ok r₀ := by
  intro s hs
  obtain ⟨N, hN, hr⟩ := h s hs
  rw [run_attempt]
  exact ⟨N, hN, _, hr, rfl⟩

variable {tr : Tracer}

/-- A record logged first changes nothing the rest appends or answers. -/
theorem Ends.log_bind (hF : Frame tr pre) {level : Level} {message : String} {k : Unit → Audit β}
    {R₂ : List Exchange → Except Failure β → Prop} (hk : Ends (k ()) pre R₂) :
    Ends (Audit.log level message >>= k) pre R₂ := by
  refine ((Ends.log level message).bind (hF.log _ _) fun _ => hk).mono ?_
  rintro N r (⟨f, ⟨-, h⟩, -⟩ | ⟨⟨⟩, N₁, N₂, ⟨rfl, -⟩, h₂, rfl⟩)
  · cases h
  · exact h₂

/-- A trace event first: either it fails, with nothing appended, or the rest runs. -/
theorem Ends.emit_bind (hF : Frame tr pre) {happening : Trace.Happening}
    {stage : Option Trace.Stage} {message data : Option Value} {k : Unit → Audit β}
    {R₂ : List Exchange → Except Failure β → Prop} (hk : Ends (k ()) pre R₂) :
    Ends (tr.emit happening stage message data >>= k) pre fun N r =>
      (N = [] ∧ tr.path.isSome ∧ ∃ f, r = .error (.fault f)) ∨ R₂ N r := by
  refine ((Ends.emit tr happening stage message data).bind (hF.emit _ _ _ _) fun _ => hk).mono ?_
  rintro N r (⟨f, ⟨rfl, h⟩, rfl⟩ | ⟨⟨⟩, N₁, N₂, ⟨rfl, -⟩, h₂, rfl⟩)
  · rcases h with h | ⟨htr, g, hg⟩
    · cases h
    · cases hg
      exact .inl ⟨rfl, htr, g, rfl⟩
  · exact .inr h₂

/-- A trace event written only when `c` holds, before the rest. -/
theorem Ends.optional_emit (hF : Frame tr pre) (c : Bool) {happening : Trace.Happening}
    {stage : Option Trace.Stage} {message data : Option Value} {y : Audit β}
    {R₂ : List Exchange → Except Failure β → Prop} (hy : Ends y pre R₂) :
    Ends (if c then tr.emit happening stage message data >>= (fun _ => y) else y) pre fun N r =>
      (N = [] ∧ tr.path.isSome ∧ ∃ f, r = .error (.fault f)) ∨ R₂ N r := by
  cases c
  · exact Ends.mono hy fun _ _ h => .inr h
  · exact Ends.emit_bind hF hy

/-- **One engine step**: a call whose failure is turned by `Failure.ofEngineCall`, or whose
answer feeds the rest. -/
theorem Ends.engineStep (hF : Frame tr pre) (hpre : ∀ s, pre s → s.engine.isSome)
    (what : String) (onOs : Option (Fault → Failure)) (m : Engine.Method) (args : List Value)
    {k : Value → Audit β} {R₂ : Value → List Exchange → Except Failure β → Prop}
    (hk : ∀ v, Ends (k v) pre (R₂ v)) :
    Ends (engineCall what onOs (Audit.invoke m args) >>= k) pre fun N r =>
      (∃ X, N = [⟨.call m args, .error X⟩] ∧ r = .error (Failure.ofEngineCall what onOs X)) ∨
        ∃ v N', N = ⟨.call m args, .ok v⟩ :: N' ∧ R₂ v N' r := by
  refine (((Ends.invoke m args hpre).turned _).bind (.engineCall (hF.invoke _ _) _ _) hk).mono ?_
  rintro N r (⟨f, ⟨r₀, rfl, hr₀⟩, rfl⟩ | ⟨v, N₁, N₂, ⟨r₀, rfl, hr₀⟩, hrest, rfl⟩)
  · cases r₀ with
    | error X =>
      cases hr₀
      exact .inl ⟨X, rfl, rfl⟩
    | ok v => cases hr₀
  · cases r₀ with
    | error X => cases hr₀
    | ok v' =>
      cases hr₀
      exact .inr ⟨v, N₂, rfl, hrest⟩

end Audit

end ApiAudit
