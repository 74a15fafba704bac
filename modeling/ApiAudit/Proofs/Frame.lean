import ApiAudit.Proofs.Growth
import ApiAudit.Run.Kernel

/-!
# Proofs/Frame — what the steps of a run leave alone

A run's engine steps change the session in three ways only: the journal grows, an engine call
replaces the engine and records one exchange of a call, and a trace event writes to the tree.
`Audit.Frame tr P` says that a property `P` survives all three; then every step of the drive
keeps it (`Frame.drive`, and one lemma for each of its steps).  The frames used later are the
engine being there, the context left alone, the exchanges added being calls, and a property of
the tree alone that trace events keep (`Audit.Keeps`); a whole run keeps the last once its
start has (`Keeps.run_started`), and with `Tracer.keeps_grows` its tree only grows.
-/

namespace ApiAudit

/-- Whether a request is an engine call rather than a call of the factory. -/
def Request.isCall : Request → Bool
  | .call .. => true
  | .build .. => false

namespace Audit

/-- **A frame for the engine steps of a run**: a property of sessions that survives a new
journal, an engine call (a new engine, new notes and one more exchange of a call) and every
trace event of `tr`. -/
structure Frame (tr : Tracer) (P : Session → Prop) : Prop where
  journal : ∀ s j, P s → P { s with journal := j }
  call : ∀ s e j m args a, P s →
    P { s with engine := some e, journal := j, exchanges := s.exchanges ++ [⟨.call m args, a⟩] }
  emit : ∀ happening stage message data, Preserves (tr.emit happening stage message data) P

/-- What follows a failure never runs. -/
theorem Preserves.throw_bind {α β : Type} {P : Session → Prop} (f : Failure) (k : α → Audit β) :
    Preserves (MonadExcept.throw f >>= k) P := fun s h => by
  rw [run_bind_error (run_throw f s)]
  exact h

namespace Frame

variable {tr : Tracer} {P : Session → Prop} (hF : Frame tr P)
include hF

theorem log (level : Level) (message : String) : Preserves (Audit.log level message) P :=
  fun s h => hF.journal s _ h

theorem invoke (m : Engine.Method) (args : List Value) : Preserves (Audit.invoke m args) P := by
  intro s h
  cases he : s.engine with
  | none =>
    unfold Audit.invoke
    simp only [run_bind, run_get, he, run_throw]
    exact h
  | some e =>
    rw [run_invoke m args s e he]
    exact hF.call s _ _ m args _ h

theorem loadSource (source : Source) : Preserves (ApiAudit.loadSource source) P := by
  unfold ApiAudit.loadSource
  split
  · exact .bind (hF.log _ _) fun _ => .bind (hF.invoke _ _) fun _ => .pure _
  · exact .bind (hF.log _ _) fun _ => .bind (hF.invoke _ _) fun _ => .pure _
  · refine .bind (hF.log _ _) fun _ => .bind .get fun s => ?_
    dsimp only
    split
    · exact .bind (.throw _) fun _ => .bind (hF.invoke _ _) fun _ => .pure _
    · exact .bind (hF.invoke _ _) fun _ => .pure _

theorem loadSignatures : ∀ sources, Preserves (ApiAudit.loadSignatures tr sources) P
  | [] => .pure ()
  | _ :: rest =>
    .bind (.tryCatch (hF.loadSource _) fun _ => .throw _) fun _ =>
      .bind (hF.emit _ _ _ _) fun _ => loadSignatures rest

theorem registerClassFiles (dir : String) : ∀ files, Preserves (ApiAudit.registerClassFiles dir files) P
  | [] => .pure ()
  | _ :: rest => .bind (.engineCall (hF.invoke _ _) _ _) fun _ => registerClassFiles dir rest

theorem registerSuppressions : ∀ patterns, Preserves (ApiAudit.registerSuppressions patterns) P
  | [] => .pure ()
  | _ :: rest => .bind (.engineCall (hF.invoke _ _) _ _) fun _ => registerSuppressions rest

theorem scan (config : RunConfig) (count : Nat) : Preserves (ApiAudit.scan tr config count) P := by
  unfold ApiAudit.scan
  refine .bind (hF.log _ _) fun _ => .bind (.attempt (hF.invoke _ _)) fun r => ?_
  split
  · exact .bind (hF.emit _ _ _ _) fun _ => .pure _
  · split
    · refine .bind (hF.emit _ _ _ _) fun _ => ?_
      split
      · exact .pure _
      · exact .bind (hF.log _ _) fun _ => .pure _
    · exact .throw _
  · exact .throw _

theorem registerAndScan (config : RunConfig) (files : List String) :
    Preserves (ApiAudit.registerAndScan tr config files) P :=
  .bind (hF.log _ _) fun _ => .bind (hF.registerClassFiles _ _) fun _ =>
    .bind (hF.emit _ _ _ _) fun _ => hF.scan _ _

theorem checkSignatures (ctx : RunContext) (config : RunConfig) (files : List String) :
    Preserves (ApiAudit.checkSignatures tr ctx config files) P := by
  unfold ApiAudit.checkSignatures
  split
  · refine .bind (.engineCall (hF.invoke _ _) _ _) fun _ => ?_
    split
    · split
      · exact .bind (hF.log _ _) fun _ => .bind (hF.emit _ _ _ _) fun _ => .pure _
      · exact .throw _
    · exact hF.registerAndScan _ _
  · exact hF.registerAndScan _ _

theorem classFiles (ctx : RunContext) (config : RunConfig) :
    Preserves (Kernel.classFiles tr ctx config) P := by
  unfold Kernel.classFiles
  refine .bind (hF.log _ _) fun _ => .bind .get fun s => ?_
  dsimp only
  split
  · exact .bind (.throw _) fun _ => .bind (hF.emit _ _ _ _) fun _ => by
      split
      · exact .bind (.throw _) fun _ => .pure _
      · exact .pure _
  · refine .bind (hF.emit _ _ _ _) fun _ => ?_
    split
    · exact .bind (.throw _) fun _ => .pure _
    · exact .pure _

theorem driveSupported (ctx : RunContext) (config : RunConfig) (files : ClassFiles)
    {find : Audit (List String)} (hfind : Preserves find P) :
    Preserves (ApiAudit.driveSupported tr ctx config files find) P := by
  unfold ApiAudit.driveSupported
  refine .bind (hF.emit _ _ _ _) fun _ => .bind (hF.registerSuppressions _) fun _ => ?_
  have rest : ∀ fs, Preserves (ApiAudit.loadSignatures tr config.sources >>= fun _ =>
      ApiAudit.checkSignatures tr ctx config fs) P := fun _ =>
    .bind (hF.loadSignatures _) fun _ => hF.checkSignatures _ _ _
  dsimp only
  split
  · refine .bind (hF.emit _ _ _ _) fun _ => ?_
    split
    · exact .bind (.pure _) rest
    · exact .bind hfind rest
  · split
    · exact .bind (.pure _) rest
    · exact .bind hfind rest

theorem drive (ctx : RunContext) (config : RunConfig) (files : ClassFiles)
    {find : Audit (List String)} (hfind : Preserves find P) :
    Preserves (ApiAudit.drive tr ctx config files find) P := by
  unfold ApiAudit.drive
  have skipped : Preserves (Audit.log .warning unsupportedRuntimeMessage >>= fun _ =>
      tr.emit .runSkipped (some .capability) (some (.str unsupportedRuntimeMessage)) >>= fun _ =>
      pure (Outcome.skip unsupportedRuntimeMessage)) P :=
    .bind (hF.log _ _) fun _ => .bind (hF.emit _ _ _ _) fun _ => .pure _
  refine .bind (.engineCall (hF.invoke _ _) _ _) fun _ => ?_
  split
  · dsimp only
    split
    · exact .bind (.throw _) fun _ => skipped
    · exact skipped
  · exact hF.driveSupported ctx config files hfind

end Frame

/-- A property blind to the exchanges survives a call of the factory. -/
theorem Preserves.build {P : Session → Prop} (hP : ∀ s xs, P s → P { s with exchanges := xs })
    (factory : Engine.Factory) (context : Loader) (policy : Policy) :
    Preserves (Audit.build factory context policy) P :=
  .bind (.modify fun s h => hP s _ h) fun _ => .lift _

/-- **A property of trees that every trace event of `tr` keeps.** -/
def Keeps (tr : Tracer) (Q : FileTree → Prop) : Prop :=
  ∀ happening stage message data, Preserves (tr.emit happening stage message data) (Q ·.tree)

namespace Keeps

variable {tr : Tracer} {Q : FileTree → Prop} (hk : Keeps tr Q)
include hk

theorem frame : Frame tr (Q ·.tree) where
  journal _ _ h := h
  call _ _ _ _ _ _ h := h
  emit := hk

theorem execute (factory : Engine.Factory) (ctx : RunContext) (config : RunConfig)
    (classpath : List String) (files : ClassFiles) {find : Audit (List String)}
    (hfind : Preserves find (Q ·.tree)) :
    Preserves (ApiAudit.execute factory tr ctx config classpath files find) (Q ·.tree) :=
  .bind (hk _ _ _ _) fun _ =>
    .ensuring (.ensuring (.bind (.modify fun _ h => h) fun _ =>
      .bind (.engineCall (.build (fun _ _ h => h) _ _ _) _ _) fun _ => .bind (.modify fun _ h => h) fun _ =>
        hk.frame.drive ctx config files hfind) (.modify fun _ h => h)) (hk _ _ _ _)

theorem body (factory : Engine.Factory) (ctx : RunContext) (config : RunConfig) :
    Preserves (Kernel.body factory tr ctx config) (Q ·.tree) := by
  have hfind := hk.frame.classFiles ctx config
  unfold Kernel.body
  dsimp only
  split
  · split
    · exact .bind (hk.frame.log _ _) fun _ => .bind (hk _ _ _ _) fun _ => .pure _
    · exact .throw_bind _ _
  · refine .bind .get fun _ => .bind (.lift _) fun _ => ?_
    split
    · refine .bind hfind fun _ => ?_
      split
      · exact .bind (hk.frame.log _ _) fun _ => .bind (hk _ _ _ _) fun _ => .pure _
      · exact hk.execute _ _ _ _ _ hfind
    · exact hk.execute _ _ _ _ _ hfind

end Keeps

/-- **A whole run keeps what every trace event keeps**, from the tree its start left on. -/
theorem Keeps.run_started {Q : FileTree → Prop} {ctx : RunContext} (hk : Keeps (Kernel.tracer ctx) Q)
    (factory : Engine.Factory) (config : RunConfig) (s : Session)
    (hs : Q ((Kernel.start ctx config).run s).2.tree) :
    Q ((Kernel.run factory ctx config).run s).2.tree := by
  unfold Kernel.run
  rw [run_bind]
  rcases hstart : (Kernel.start ctx config).run s with ⟨_ | u, s₁⟩ <;> rw [hstart] at hs
  · exact hs
  · refine (Preserves.bind (.attempt (hk.body _ _ _)) fun r => ?_) s₁ hs
    split
    · exact .bind (hk _ _ _ _) fun _ => .pure _
    · exact .bind (hk _ _ _ _) fun _ => .throw _
    · exact .throw _

/-! ## The frames used -/

variable {tr : Tracer}

theorem Frame.and {P P' : Session → Prop} (h : Frame tr P) (h' : Frame tr P') :
    Frame tr fun s => P s ∧ P' s where
  journal s j hs := ⟨h.journal s j hs.1, h'.journal s j hs.2⟩
  call s e j m args a hs := ⟨h.call s e j m args a hs.1, h'.call s e j m args a hs.2⟩
  emit happening stage message data s hs :=
    ⟨h.emit happening stage message data s hs.1, h'.emit happening stage message data s hs.2⟩

/-- Once there, an engine stays. -/
theorem Frame.engine (tr : Tracer) : Frame tr fun s => s.engine.isSome where
  journal _ _ h := h
  call _ _ _ _ _ _ _ := rfl
  emit _ _ _ _ := .emit (fun _ _ h => h) tr _ _ _ _

/-- The engine steps leave the class-loading context alone. -/
theorem Frame.loader (tr : Tracer) (L : Option Loader) : Frame tr fun s => s.loader = L where
  journal _ _ h := h
  call _ _ _ _ _ _ h := h
  emit _ _ _ _ := .emit (fun _ _ h => h) tr _ _ _ _

/-- The engine steps add only exchanges of engine calls. -/
theorem Frame.calls (tr : Tracer) (E : List Exchange) :
    Frame tr fun s => ∃ M, s.exchanges = E ++ M ∧ ∀ x ∈ M, x.request.isCall where
  journal _ _ h := h
  call s _ _ m args a := by
    rintro ⟨M, hM, hcalls⟩
    refine ⟨M ++ [⟨.call m args, a⟩], by simp [hM], ?_⟩
    intro x hx
    rcases List.mem_append.mp hx with hx | hx
    · exact hcalls x hx
    · simp [List.mem_singleton.mp hx, Request.isCall]
  emit _ _ _ _ := .emit (fun _ _ h => h) tr _ _ _ _

/-- Without a trace file, trace events keep every property of the tree. -/
theorem keeps_of_untraced (h : tr.path = none) (Q : FileTree → Prop) : Keeps tr Q :=
  fun happening stage message data s hs => by
    rw [run_emit_untraced tr h]
    exact hs

/-- Trace events keep every tree grown from `t`. -/
theorem Tracer.keeps_grows (tr : Tracer) (t : FileTree) : Keeps tr (FileTree.Grows t) :=
  fun happening stage message data _ hs => hs.trans (tr.emit_grows happening stage message data _).1

end Audit

end ApiAudit
