import ApiAudit.Proofs.TraceFile
import ApiAudit.Proofs.Outcome

/-!
# Proofs/TraceShape — the events a traced run writes, and their order

A run with a trace file writes one event per step it takes.  Read against the exchanges the run
made, the events of a run that returned an outcome or raised an audit error have one shape
(`TraceShape`):

* all of them name the run; the start comes first and one closing event last, which carries the
  outcome's status, count and message, or the error's code;
* the class-loading context is acquired exactly when the factory is called, once at most, and
  released just before the closing event; every event of an engine step lies between the two;
* one skip event exactly when the run is skipped, one `signaturesLoaded` per load call that
  succeeded, in order and naming its source, and one `violationsFound` per scan that raised
  violations (`Accounts`).

The proof follows the run's parts from the inside out.  Each part gets a `Writes` triple whose
relation says which events it wrote against which exchanges (`Driven` for the parts of a drive),
and `Writes.seq` chains the parts of a drive; the body and the whole run are assembled last.
-/

namespace ApiAudit

open Audit

namespace Trace.Happening

/-- The happenings the engine's steps are traced with. -/
def isEngineStep : Happening → Bool
  | .runtimeChecked | .suppressionsRegistered | .signaturesLoaded | .classesRegistered
  | .violationsFound | .scanFinished => true
  | _ => false

/-- The happenings the body of a run traces on either side of the class-loading context: the
class files found, and a skip. -/
def isBodyStep : Happening → Bool
  | .filesResolved | .runSkipped => true
  | _ => false

/-- The happenings a drive traces. -/
def isDriven (h : Happening) : Bool := h.isEngineStep || h.isBodyStep

end Trace.Happening

/-- The name a signature source that loaded is traced under, read off its load call. -/
def Exchange.loadedSource? : Exchange → Option String
  | ⟨.call .loadBundledSignatures (.str name :: _), .ok _⟩ => some name
  | ⟨.call .loadInlineSignatures _, .ok _⟩ => some "<inline>"
  | ⟨.call .loadSignatureFile (.str path :: _), .ok _⟩ => some path
  | _ => none

@[simp] theorem Exchange.loadedSource?_load (source : Source) (v : Value) :
    (⟨.load source, .ok v⟩ : Exchange).loadedSource? = some source.shown := by
  cases source <;> rfl

@[simp] theorem Exchange.loadedSource?_load_error (source : Source) (X : Failure) :
    (⟨.load source, .error X⟩ : Exchange).loadedSource? = none := by
  cases source <;> rfl

@[simp] theorem Exchange.loadedSource?_scan (a : Except Failure Value) :
    (⟨.call .execute [], a⟩ : Exchange).loadedSource? = none := rfl

@[simp] theorem Exchange.raisesViolation_load (source : Source) (a : Except Failure Value) :
    (⟨.load source, a⟩ : Exchange).raisesViolation = false := by
  cases source <;> rfl

/-- The data of the event that traces a loaded source. -/
def sourceData (name : String) : Option Value := some (Value.obj [("source", .str name)])

/-- The data of the events that trace loaded sources, in order. -/
def Trace.loadedData (E : List Trace.Event) : List (Option Value) :=
  (E.filter (·.happening == .signaturesLoaded)).map (·.data)

/-- The skips a result stands for: one for a skipped outcome. -/
def skipsOf : Except Failure Outcome → Nat
  | .ok o => if o.status = .skipped then 1 else 0
  | .error _ => 0

theorem skipsOf_eq (r : Except Failure Outcome) :
    skipsOf r = if EndedWith r .skipped then 1 else 0 := by
  cases r with
  | error F => simp [skipsOf, EndedWith]
  | ok o => simp [skipsOf, EndedWith]

/-- **What the events `E` account for, against the exchanges `N`**: one `signaturesLoaded` per
load call that succeeded, in the same order and with its source's name; one `violationsFound`
per scan that raised violations; and `skips` skips. -/
structure Accounts (N : List Exchange) (E : List Trace.Event) (skips : Nat) : Prop where
  loaded : Trace.loadedData E = (N.filterMap Exchange.loadedSource?).map sourceData
  violations : E.countP (·.happening == .violationsFound) = N.countP Exchange.raisesViolation
  skipped : E.countP (·.happening == .runSkipped) = skips

namespace Accounts

variable {N N₁ N₂ : List Exchange} {E E₁ E₂ : List Trace.Event} {k₁ k₂ : Nat}

theorem append (h₁ : Accounts N₁ E₁ k₁) (h₂ : Accounts N₂ E₂ k₂) :
    Accounts (N₁ ++ N₂) (E₁ ++ E₂) (k₁ + k₂) where
  loaded := by simp [Trace.loadedData, h₁.loaded.symm, h₂.loaded.symm]
  violations := by simp [h₁.violations, h₂.violations]
  skipped := by simp [h₁.skipped, h₂.skipped]

/-- Exchanges that load nothing and raise no violation, and events that neither trace a load,
violations nor a skip, account for nothing. -/
theorem uncounted (hN : ∀ x ∈ N, x.loadedSource? = none ∧ x.raisesViolation = false)
    (hE : ∀ e ∈ E, e.happening ≠ .signaturesLoaded ∧ e.happening ≠ .violationsFound ∧
      e.happening ≠ .runSkipped) : Accounts N E 0 where
  loaded := by
    have hload : N.filterMap Exchange.loadedSource? = [] :=
      List.filterMap_eq_nil_iff.mpr fun x hx => (hN x hx).1
    have hevents : E.filter (·.happening == .signaturesLoaded) = [] :=
      List.filter_eq_nil_iff.mpr fun e he => by simpa using (hE e he).1
    simp [Trace.loadedData, hload, hevents]
  violations := by
    rw [List.countP_eq_zero.mpr fun e he => by simpa using (hE e he).2.1,
      List.countP_eq_zero.mpr fun x hx => by simpa using (hN x hx).2]
  skipped := List.countP_eq_zero.mpr fun e he => by simpa using (hE e he).2.2

/-- Class files found and skips account for their skips only. -/
theorem bodySteps (hE : ∀ e ∈ E, e.happening.isBodyStep) :
    Accounts [] E (E.countP (·.happening == .runSkipped)) where
  loaded := by
    have hevents : E.filter (·.happening == .signaturesLoaded) = [] :=
      List.filter_eq_nil_iff.mpr fun e he => by
        have := hE e he
        revert this
        cases e.happening <;> simp [Trace.Happening.isBodyStep]
    simp [Trace.loadedData, hevents]
  violations := by
    refine (List.countP_eq_zero.mpr fun e he => ?_).trans List.countP_nil.symm
    have := hE e he
    revert this
    cases e.happening <;> simp [Trace.Happening.isBodyStep]
  skipped := rfl

end Accounts

/-- **What a part of a drive traced**: only the drive's happenings, accounted for. -/
structure Driven (N : List Exchange) (E : List Trace.Event) (skips : Nat) : Prop
    extends Accounts N E skips where
  driven : ∀ e ∈ E, e.happening.isDriven

namespace Driven

variable {N N₁ N₂ : List Exchange} {E E₁ E₂ : List Trace.Event} {k k₁ k₂ : Nat}

theorem append (h₁ : Driven N₁ E₁ k₁) (h₂ : Driven N₂ E₂ k₂) :
    Driven (N₁ ++ N₂) (E₁ ++ E₂) (k₁ + k₂) where
  toAccounts := h₁.toAccounts.append h₂.toAccounts
  driven e he := (List.mem_append.mp he).elim (h₁.driven e) (h₂.driven e)

theorem nil : Driven [] [] 0 := ⟨⟨rfl, rfl, rfl⟩, by simp⟩

/-- Engine calls that load nothing and raise no violation. -/
theorem calls (hN : ∀ x ∈ N, x.loadedSource? = none ∧ x.raisesViolation = false) :
    Driven N [] 0 :=
  ⟨.uncounted hN (by simp), by simp⟩

/-- One event of an engine step that traces neither a load nor violations. -/
theorem step {e : Trace.Event} (hstep : e.happening.isEngineStep)
    (hload : e.happening ≠ .signaturesLoaded) (hviolations : e.happening ≠ .violationsFound) :
    Driven [] [e] 0 := by
  have hskip : e.happening ≠ .runSkipped := by
    intro h
    simp [h, Trace.Happening.isEngineStep] at hstep
  refine ⟨.uncounted (by simp) (by simp [hload, hviolations, hskip]), ?_⟩
  simp [Trace.Happening.isDriven, hstep]

/-- A skip. -/
theorem skip (e : Trace.Event) (h : e.happening = .runSkipped) : Driven [] [e] 1 := by
  refine ⟨⟨by simp [Trace.loadedData, h], by simp [h], by simp [h]⟩, ?_⟩
  simp [h, Trace.Happening.isDriven, Trace.Happening.isBodyStep]

/-- A source that loaded, and its event. -/
theorem loaded_source (tr : Tracer) (source : Source) (v : Value) :
    Driven [⟨.load source, .ok v⟩]
      [tr.event .signaturesLoaded (some .signatures) none
        (some (Value.obj [("source", .str source.shown)]))] 0 := by
  refine ⟨⟨?_, by simp, by simp⟩, by simp [Trace.Happening.isDriven, Trace.Happening.isEngineStep]⟩
  simp [Trace.loadedData, Tracer.event, sourceData]
  rfl

/-- Class files found. -/
theorem resolved (h : ∀ e ∈ E, e.happening = .filesResolved) : Driven [] E 0 := by
  refine ⟨.uncounted (by simp) fun e he => by simp [h e he], fun e he => ?_⟩
  simp [h e he, Trace.Happening.isDriven, Trace.Happening.isBodyStep]

/-- An exchange that accounts for nothing can be left out. -/
theorem of_cons {x : Exchange} (h : Driven (x :: N) E k) (hload : x.loadedSource? = none)
    (hviolation : x.raisesViolation = false) : Driven N E k where
  loaded := by simpa [hload] using h.loaded
  violations := by simpa [hviolation] using h.violations
  skipped := h.skipped
  driven := h.driven

end Driven

section Drive

variable {α β : Type} {tr : Tracer}

/-- **The parts of a drive, one after the other**: a first part that only accounts for its
events, then the rest; a failure of the first part ends the drive without a skip. -/
theorem Audit.Writes.seq {x : Audit α} {k : α → Audit β} {f : Except Failure β → Nat}
    (hf : ∀ F, f (.error F) = 0) (hx : Writes tr x fun N E _ => Driven N E 0)
    (hk : ∀ a, Writes tr (k a) fun N E r => Driven N E (f r)) :
    Writes tr (x >>= k) fun N E r => Driven N E (f r) := by
  refine (hx.bind hk).mono ?_
  rintro N E r (⟨F, h, rfl⟩ | ⟨a, N₁, N₂, E₁, E₂, h₁, h₂, rfl, rfl⟩)
  · rw [hf]
    exact h
  · simpa using h₁.append h₂

/-- An engine step whose call neither loads signatures nor scans. -/
theorem Audit.Writes.plainCall (what : String) (onOs : Option (Fault → Failure)) (m : Engine.Method)
    (args : List Value)
    (hm : ∀ a, (⟨.call m args, a⟩ : Exchange).loadedSource? = none ∧
      (⟨.call m args, a⟩ : Exchange).raisesViolation = false) :
    Writes tr (engineCall what onOs (Audit.invoke m args)) fun N E _ => Driven N E 0 := by
  refine (Writes.engineCall_invoke what onOs m args).mono ?_
  rintro N E r ⟨rfl, a, rfl | rfl⟩
  · exact .calls (by simpa using hm a)
  · exact .nil

/-- A value returned, as a part of a drive. -/
theorem Audit.Writes.pure_driven (a : α) : Writes tr (Pure.pure a) fun N E _ => Driven N E 0 := by
  refine (Writes.pure a).mono ?_
  rintro N E r ⟨rfl, rfl, -⟩
  exact .nil

theorem writes_registerSuppressions : ∀ patterns,
    Writes tr (registerSuppressions patterns) fun N E _ => Driven N E 0
  | [] => .pure_driven ()
  | p :: rest => by
    rw [registerSuppressions]
    exact .seq (fun _ => rfl) (.plainCall _ _ _ _ fun _ => ⟨rfl, rfl⟩) fun _ =>
      writes_registerSuppressions rest

theorem writes_registerClassFiles (dir : String) : ∀ files,
    Writes tr (registerClassFiles dir files) fun N E _ => Driven N E 0
  | [] => .pure_driven ()
  | rel :: rest => by
    rw [registerClassFiles]
    exact .seq (fun _ => rfl) (.plainCall _ _ _ _ fun _ => ⟨rfl, rfl⟩) fun _ =>
      writes_registerClassFiles dir rest

variable (htr : tr.path.isSome)
include htr

/-- The event of an engine step that traces neither a load nor violations. -/
theorem Audit.Writes.emitStep {happening : Trace.Happening} (hstep : happening.isEngineStep)
    (hload : happening ≠ .signaturesLoaded) (hviolations : happening ≠ .violationsFound)
    (stage : Option Trace.Stage) (message data : Option Value) :
    Writes tr (tr.emit happening stage message data) fun N E _ => Driven N E 0 :=
  (Writes.emit htr happening stage message data).mono fun _ _ _ ⟨hN, hE, _⟩ =>
    hN ▸ hE ▸ .step hstep hload hviolations

/-- **A skip inside the drive**: logged, traced, and its outcome returned. -/
theorem Audit.Writes.skipStep (level : Level) (logged : String) (stage : Trace.Stage)
    (message : String) :
    Writes tr (Audit.log level logged >>= fun _ =>
        tr.emit .runSkipped (some stage) (some (.str message)) >>= fun _ =>
          Pure.pure (Outcome.skip message)) fun N E r => Driven N E (skipsOf r) := by
  refine Writes.log_bind ((Writes.emit_then htr _ _ _ _ fun _ => Writes.pure _).mono ?_)
  rintro N E r ⟨rfl, rfl, rfl⟩
  exact .skip _ rfl

/-- **Loading the signature sources**: each source that loaded, then its event. -/
theorem writes_loadSignatures : ∀ sources,
    Writes tr (loadSignatures tr sources) fun N E _ => Driven N E 0
  | [] => .pure_driven ()
  | source :: rest => by
    rw [loadSignatures]
    refine ((Writes.loadSource _ source).bind fun _ =>
      (Writes.emit htr _ _ _ _).bind fun _ => writes_loadSignatures rest).mono ?_
    rintro N E r (⟨F, ⟨rfl, h⟩, rfl⟩ | ⟨d, N₁, N₂, E₁, E₂, ⟨rfl, h₁⟩, h₂, rfl, rfl⟩)
    · -- the source did not load: its call, if any, failed, and nothing was traced
      rcases h with ⟨a, rfl, ha⟩ | ⟨rfl, -⟩
      · cases a with
        | ok v => cases ha
        | error X => exact .calls (by simp)
      · exact .nil
    · rcases h₁ with ⟨a, rfl, ha⟩ | ⟨-, f, hf⟩
      · cases a with
        | error X => cases ha
        | ok v =>
          cases ha
          rcases h₂ with ⟨F, ⟨-, -, h⟩, -⟩ | ⟨⟨⟩, N₃, N₄, E₃, E₄, ⟨rfl, rfl, -⟩, h₄, rfl, rfl⟩
          · cases h
          · simpa using (Driven.loaded_source tr source v).append h₄
      · cases hf

/-- **The scan**: its call, and the event of a scan that went through or raised violations. -/
theorem writes_scan (config : RunConfig) (count : Nat) :
    Writes tr (scan tr config count) fun N E r => Driven N E (skipsOf r) := by
  -- a failure after a scan call that raised no violation traces nothing
  have unraised : ∀ (r₀ : Except Failure Value) (F : Failure),
      (⟨Request.scan, r₀⟩ : Exchange).raisesViolation = false →
      Writes tr (MonadExcept.throw F : Audit Outcome) fun N E r =>
        N = [] ∧ Driven [⟨Request.scan, r₀⟩] E (skipsOf r) := by
    intro r₀ F hviolation
    refine (Writes.throw F).mono ?_
    rintro N E r ⟨rfl, rfl, rfl⟩
    exact ⟨rfl, .calls (by simpa [Request.scan] using hviolation)⟩
  unfold scan
  refine Writes.log_bind (((Writes.attempt_invoke .execute []).bind fun r₀ => (?_ :
    Writes tr _ fun N E r => N = [] ∧ Driven [⟨Request.scan, r₀⟩] E (skipsOf r))).mono ?_)
  · cases r₀ with
    | ok v =>
      refine (Writes.emit_then htr _ _ _ _ fun _ => Writes.pure _).mono ?_
      rintro N E r ⟨rfl, rfl, rfl⟩
      exact ⟨rfl, (Driven.calls (N := [⟨Request.scan, .ok v⟩])
        (by simp [Exchange.raisesViolation, Request.scan])).append
          (.step (by simp [Trace.Happening.isEngineStep]) (by simp) (by simp))⟩
    | error X =>
      cases X with
      | audit e =>
        dsimp only
        split
        · -- violations: traced, and an outcome whatever the policy
          rename_i hkind
          refine ((Writes.emit htr _ _ _ _).bind fun _ => (?_ :
            Writes tr _ fun N E r => N = [] ∧ E = [] ∧ skipsOf r = 0)).mono ?_
          · split
            · refine (Writes.pure _).mono ?_
              rintro N E r ⟨rfl, rfl, rfl⟩
              exact ⟨rfl, rfl, rfl⟩
            · refine Writes.log_bind ((Writes.pure _).mono ?_)
              rintro N E r ⟨rfl, rfl, rfl⟩
              exact ⟨rfl, rfl, rfl⟩
          · rintro N E r (⟨F, ⟨-, -, h⟩, -⟩ |
              ⟨⟨⟩, N₁, N₂, E₁, E₂, ⟨rfl, rfl, -⟩, ⟨rfl, rfl, hr⟩, rfl, rfl⟩)
            · cases h
            · refine ⟨rfl, ⟨⟨by simp [Trace.loadedData, Exchange.loadedSource?, Request.scan],
                ?_, by simp [hr]⟩, by simp [Trace.Happening.isDriven, Trace.Happening.isEngineStep]⟩⟩
              simp [Exchange.raisesViolation, Request.scan, hkind]
        · rename_i hkind
          exact unraised _ _ (by simpa [Exchange.raisesViolation, Request.scan] using hkind)
      | task t => exact unraised _ _ rfl
      | fault f => exact unraised _ _ rfl
  · rintro N E r (⟨F, ⟨-, r₀, h, -⟩, -⟩ | ⟨r₀, N₁, N₂, E₁, E₂, ⟨rfl, r₁, h, hN₁⟩, ⟨rfl, h₂⟩, rfl, rfl⟩)
    · cases h
    · cases h
      rcases hN₁ with rfl | ⟨rfl, f, rfl⟩
      · simpa [Request.scan] using h₂
      · simpa using h₂.of_cons (by rfl) (by rfl)

/-- A trace event of an engine step written only when `c` holds, before the rest. -/
theorem Audit.Writes.optionalStep (c : Bool) {happening : Trace.Happening}
    (hstep : happening.isEngineStep) (hload : happening ≠ .signaturesLoaded)
    (hviolations : happening ≠ .violationsFound) {stage : Option Trace.Stage}
    {message data : Option Value} {y : Audit β} {f : Except Failure β → Nat}
    (hf : ∀ F, f (.error F) = 0) (hy : Writes tr y fun N E r => Driven N E (f r)) :
    Writes tr (if c then tr.emit happening stage message data >>= (fun _ => y) else y)
      fun N E r => Driven N E (f r) := by
  cases c
  · exact hy
  · exact .seq hf (.emitStep htr hstep hload hviolations _ _ _) fun _ => hy

theorem writes_registerAndScan (config : RunConfig) (files : List String) :
    Writes tr (registerAndScan tr config files) fun N E r => Driven N E (skipsOf r) := by
  unfold registerAndScan
  exact Writes.log_bind (.seq (fun _ => rfl) (writes_registerClassFiles _ _) fun _ =>
    .seq (fun _ => rfl) (.emitStep htr (by decide) (by decide) (by decide) _ _ _) fun _ =>
      writes_scan htr config _)

/-- **The signature check**: an engine without signatures skips the run, with its event, where
the front end tolerates that. -/
theorem writes_checkSignatures (ctx : RunContext) (config : RunConfig) (files : List String) :
    Writes tr (checkSignatures tr ctx config files) fun N E r => Driven N E (skipsOf r) := by
  unfold checkSignatures
  split
  · refine .seq (fun _ => rfl) (.plainCall _ _ _ _ fun _ => ⟨rfl, rfl⟩) fun v => ?_
    dsimp only
    split
    · split
      · exact .skipStep htr _ _ _ _
      · refine (Writes.throw _).mono ?_
        rintro N E r ⟨rfl, rfl, rfl⟩
        exact .nil
    · exact writes_registerAndScan htr config files
  · exact writes_registerAndScan htr config files

/-- **Finding the class files** traces only that, and calls nothing. -/
theorem writes_classFiles (ctx : RunContext) (config : RunConfig) :
    Writes tr (Kernel.classFiles tr ctx config) fun N E _ =>
      N = [] ∧ ∀ e ∈ E, e.happening = .filesResolved := by
  unfold Kernel.classFiles
  refine Writes.log_bind (Writes.get_bind fun s => ?_)
  dsimp only
  split
  · refine (Writes.throw_bind _ _).mono ?_
    rintro N E r ⟨rfl, rfl, -⟩
    exact ⟨rfl, by simp⟩
  · refine ((Writes.emit htr _ _ _ _).bind fun _ =>
      (?_ : Writes tr _ fun N E _ => N = [] ∧ E = [])).mono ?_
    · split
      · exact (Writes.throw_bind _ _).mono fun _ _ _ ⟨hN, hE, _⟩ => ⟨hN, hE⟩
      · exact (Writes.pure _).mono fun _ _ _ ⟨hN, hE, _⟩ => ⟨hN, hE⟩
    · rintro N E r (⟨F, ⟨-, -, h⟩, -⟩ | ⟨⟨⟩, N₁, N₂, E₁, E₂, ⟨rfl, rfl, -⟩, ⟨rfl, rfl⟩, rfl, rfl⟩)
      · cases h
      · exact ⟨rfl, by simp⟩

/-- The class files found, as a part of a drive. -/
theorem writes_classFiles_driven (ctx : RunContext) (config : RunConfig) :
    Writes tr (Kernel.classFiles tr ctx config) fun N E _ => Driven N E 0 :=
  (writes_classFiles htr ctx config).mono fun _ _ _ ⟨hN, hE⟩ => hN ▸ .resolved hE

theorem writes_driveSupported (ctx : RunContext) (config : RunConfig) (files : ClassFiles)
    {find : Audit (List String)} (hfind : Writes tr find fun N E _ => Driven N E 0) :
    Writes tr (driveSupported tr ctx config files find) fun N E r => Driven N E (skipsOf r) := by
  unfold driveSupported
  refine .seq (fun _ => rfl) (.emitStep htr (by decide) (by decide) (by decide) _ _ _) fun _ =>
    .seq (fun _ => rfl) (writes_registerSuppressions _) fun _ =>
      .optionalStep htr _ (by decide) (by decide) (by decide) (fun _ => rfl) ?_
  -- the class files, found already or now, then the signature sources and the rest
  have rest : ∀ fs, Writes tr (loadSignatures tr config.sources >>= fun _ =>
      checkSignatures tr ctx config fs) fun N E r => Driven N E (skipsOf r) := fun fs =>
    .seq (fun _ => rfl) (writes_loadSignatures htr _) fun _ => writes_checkSignatures htr ctx config fs
  cases files with
  | found fs => exact .seq (fun _ => rfl) (.pure_driven fs) rest
  | later => exact .seq (fun _ => rfl) hfind rest

/-- **The drive**: an unsupported runtime skips the run, with its event, where the policy
tolerates that. -/
theorem writes_drive (ctx : RunContext) (config : RunConfig) (files : ClassFiles)
    {find : Audit (List String)} (hfind : Writes tr find fun N E _ => Driven N E 0) :
    Writes tr (drive tr ctx config files find) fun N E r => Driven N E (skipsOf r) := by
  unfold drive
  refine .seq (fun _ => rfl) (.plainCall _ _ _ _ fun _ => ⟨rfl, rfl⟩) fun v => ?_
  dsimp only
  split
  · split
    · refine (Writes.throw_bind _ _).mono ?_
      rintro N E r ⟨rfl, rfl, rfl⟩
      exact .nil
    · exact .skipStep htr _ _ _ _
  · exact writes_driveSupported htr ctx config files hfind

/-- **The engine in its class-loading context**: the context's acquisition traced first, the
factory called, the drive, and the release traced last. -/
theorem writes_execute (factory : Engine.Factory) (ctx : RunContext) (config : RunConfig)
    (classpath : List String) (files : ClassFiles) {find : Audit (List String)}
    (hfind : Writes tr find fun N E _ => Driven N E 0) :
    Writes tr (execute factory tr ctx config classpath files find) fun N E r =>
      ∃ a N' D, N = ⟨.build { roots := classpath } config.policy, a⟩ :: N' ∧
        E = tr.event .loaderAcquired (some .acquire) none
            (some (Value.obj [("classpath", Value.strs classpath)])) ::
          (D ++ [tr.event .loaderReleased (some .release) none none]) ∧
        Driven N' D (skipsOf r) := by
  unfold execute
  dsimp only
  refine ((Writes.emit htr _ _ _ _).bind fun _ =>
    ((Writes.ensuring_modify (?_ : Writes tr _ fun N E r =>
      ∃ a N', N = ⟨.build { roots := classpath } config.policy, a⟩ :: N' ∧
        Driven N' E (skipsOf r)) _ ?_).ensuring_emit htr _ _ _ _)).mono ?_
  · -- inside the context: the factory's call, then the drive
    refine ((Writes.modify (by simp)).bind fun _ =>
      (Writes.engineCall_build _ _ _ _ _).bind fun _ =>
        (Writes.modify (by simp)).bind fun _ =>
          writes_drive htr ctx config files hfind).mono ?_
    rintro N E r (⟨F, ⟨-, -, h⟩, -⟩ | ⟨⟨⟩, N₁, N₂, E₁, E₂, ⟨rfl, rfl, -⟩, h₂, rfl, rfl⟩)
    · cases h
    · rcases h₂ with ⟨F, ⟨rfl, a, rfl⟩, rfl⟩ | ⟨engine, N₃, N₄, E₃, E₄, ⟨rfl, a, rfl⟩, h₄, rfl, rfl⟩
      · exact ⟨a, [], rfl, .nil⟩
      · rcases h₄ with ⟨F, ⟨-, -, h⟩, -⟩ | ⟨⟨⟩, N₅, N₆, E₅, E₆, ⟨rfl, rfl, -⟩, h₆, rfl, rfl⟩
        · cases h
        · exact ⟨a, _, rfl, h₆⟩
  · exact fun _ => ⟨rfl, rfl⟩
  · rintro N E r (⟨F, ⟨-, -, h⟩, -⟩ |
      ⟨⟨⟩, N₁, N₂, E₁, E₂, ⟨rfl, rfl, -⟩, ⟨E₀, ⟨a, N', rfl, h⟩, rfl⟩, rfl, rfl⟩)
    · cases h
    · exact ⟨a, N', E₀, rfl, rfl, h⟩

end Drive

section Body

variable {tr : Tracer}

/-- **What the body of a run wrote**, against its exchanges `N` and its result `r`: without a
class-loading context, no exchange, and only class files found and a skip; with one, the
factory's call first, and the drive's events between the context's acquisition and its release,
after the class files found before it. -/
def BodyWrote (tr : Tracer) (config : RunConfig) (N : List Exchange) (E : List Trace.Event)
    (r : Except Failure Outcome) : Prop :=
  (N = [] ∧ (∀ e ∈ E, e.happening.isBodyStep) ∧
      E.countP (·.happening == .runSkipped) = skipsOf r) ∨
    ∃ classpath a N' before D, N = ⟨.build { roots := classpath } config.policy, a⟩ :: N' ∧
      E = before ++ tr.event .loaderAcquired (some .acquire) none
          (some (Value.obj [("classpath", Value.strs classpath)])) ::
        (D ++ [tr.event .loaderReleased (some .release) none none]) ∧
      (∀ e ∈ before, e.happening = .filesResolved) ∧ Driven N' D (skipsOf r)

variable (htr : tr.path.isSome)
include htr

/-- **The body of a run**: a skip or a failure before the context, or the engine run in it. -/
theorem writes_body (factory : Engine.Factory) (ctx : RunContext) (config : RunConfig) :
    Writes tr (Kernel.body factory tr ctx config) (BodyWrote tr config) := by
  have hfind := writes_classFiles_driven htr ctx config
  have resolved_bodyStep : ∀ e : Trace.Event, e.happening = .filesResolved →
      e.happening.isBodyStep := fun e he => by simp [he, Trace.Happening.isBodyStep]
  unfold Kernel.body
  dsimp only
  split
  · -- no signature source while internal runtime classes are allowed
    split
    · refine Writes.log_bind ((Writes.emit_then htr _ _ _ _ fun _ => Writes.pure _).mono ?_)
      rintro N E r ⟨rfl, rfl, rfl⟩
      exact .inl ⟨rfl, by simp [Trace.Happening.isBodyStep], rfl⟩
    · refine (Writes.throw_bind _ _).mono ?_
      rintro N E r ⟨rfl, rfl, rfl⟩
      exact .inl ⟨rfl, by simp, rfl⟩
  · refine Writes.get_bind fun s => Writes.lift_bind (fun classpath => ?_) fun F =>
      .inl ⟨rfl, by simp, rfl⟩
    split
    · -- the class files are found first, and none skips the run
      refine ((writes_classFiles htr ctx config).bind fun files => (?_ : Writes tr _ fun N E r =>
        ∀ before, (∀ e ∈ before, e.happening = .filesResolved) →
          BodyWrote tr config N (before ++ E) r)).mono ?_
      · split
        · refine Writes.log_bind ((Writes.emit_then htr _ _ _ _ fun _ => Writes.pure _).mono ?_)
          rintro N E r ⟨rfl, rfl, rfl⟩ before hbefore
          refine .inl ⟨rfl, fun e he => ?_, ?_⟩
          · rcases List.mem_append.mp he with he | he
            · exact resolved_bodyStep e (hbefore e he)
            · simp [List.mem_singleton.mp he, Trace.Happening.isBodyStep]
          · simp [(Driven.resolved hbefore).skipped, skipsOf, Outcome.skip]
        · refine (writes_execute htr factory ctx config classpath _ hfind).mono ?_
          rintro N E r ⟨a, N', D, rfl, rfl, hD⟩ before hbefore
          exact .inr ⟨classpath, a, N', before, D, rfl, rfl, hbefore, hD⟩
      · rintro N E r (⟨F, ⟨rfl, hE⟩, rfl⟩ | ⟨files, N₁, N₂, E₁, E₂, ⟨rfl, hE₁⟩, h₂, rfl, rfl⟩)
        · exact .inl ⟨rfl, fun e he => resolved_bodyStep e (hE e he), (Driven.resolved hE).skipped⟩
        · exact h₂ E₁ hE₁
    · -- the class files are found during the drive
      refine (writes_execute htr factory ctx config classpath _ hfind).mono ?_
      rintro N E r ⟨a, N', D, rfl, rfl, hD⟩
      exact .inr ⟨classpath, a, N', [], D, rfl, rfl, by simp, hD⟩

end Body

/-! ## The shape of a run's trace -/

/-- A result a run answers with: an outcome, or an audit error. -/
def Answered (r : Except Failure Outcome) : Prop :=
  (∃ o, r = .ok o) ∨ ∃ e, r = .error (.audit e)

instance : DecidablePred Answered := fun r =>
  match r with
  | .ok o => isTrue (.inl ⟨o, rfl⟩)
  | .error (.audit e) => isTrue (.inr ⟨e, rfl⟩)
  | .error (.task _) => isFalse fun h => h.elim (fun ⟨_, h⟩ => nomatch h) fun ⟨_, h⟩ => nomatch h
  | .error (.fault _) => isFalse fun h => h.elim (fun ⟨_, h⟩ => nomatch h) fun ⟨_, h⟩ => nomatch h

/-- A run that answers with a failure raised an audit error. -/
theorem Answered.audit_of_error {F : Failure} (h : Answered (.error F)) : ∃ e, F = .audit e := by
  rcases h with ⟨_, h⟩ | ⟨e, h⟩
  · cases h
  · cases h
    exact ⟨e, rfl⟩

/-- **The event that closes the trace of a run** with the result `r`: the run finished, with the
outcome's status, count and message, or failed, with the audit error's code. -/
def Kernel.closingEvent (ctx : RunContext) : Except Failure Outcome → Option Trace.Event
  | .ok o => some ((tracer ctx).event .runFinished none (some o.message)
      (some (Value.obj [("status", .str o.status.name), ("files_checked", .int o.filesChecked)])))
  | .error (.audit e) =>
    some ((tracer ctx).event .runFailed none (some e.message) (some (Value.obj [("code", e.code)])))
  | .error _ => none

theorem Kernel.closingEvent_happening {ctx : RunContext} {r : Except Failure Outcome}
    {e : Trace.Event} (h : closingEvent ctx r = some e) :
    e.happening = .runFinished ∨ e.happening = .runFailed := by
  unfold closingEvent at h
  split at h <;> cases h
  · exact .inl rfl
  · exact .inr rfl

/-- **How the middle of a run's trace holds the class-loading context**, against the run's
exchanges `N`: with no call of the factory, no exchange at all and only class files found and a
skip; otherwise the factory's call comes first, and the middle ends with the context's
acquisition, the drive's events and the context's release, after the class files found before
it. -/
def HoldsContext (N : List Exchange) (M : List Trace.Event) : Prop :=
  (N = [] ∧ ∀ e ∈ M, e.happening.isBodyStep) ∨
    ∃ context policy a N' before acquired held released,
      N = ⟨.build context policy, a⟩ :: N' ∧ M = before ++ acquired :: (held ++ [released]) ∧
      acquired.happening = .loaderAcquired ∧ released.happening = .loaderReleased ∧
      (∀ e ∈ before, e.happening = .filesResolved) ∧ ∀ e ∈ held, e.happening.isDriven

/-- **The shape of the trace `E` of a run** with the exchanges `N` and the result `r`: every
event names the run; the start comes first and the closing event last, the middle holding the
class-loading context as `HoldsContext` says; and the events account for the run's loads,
violations and skip. -/
structure TraceShape (ctx : RunContext) (N : List Exchange) (r : Except Failure Outcome)
    (E : List Trace.Event) : Prop where
  runId : ∀ e ∈ E, e.runId = ctx.runId
  framed : ∃ started middle closing, E = started :: (middle ++ [closing]) ∧
    started.happening = .runStarted ∧ Kernel.closingEvent ctx r = some closing ∧
    HoldsContext N middle
  accounts : Accounts N E (if EndedWith r .skipped then 1 else 0)

namespace BodyWrote

variable {tr : Tracer} {config : RunConfig} {N : List Exchange} {E : List Trace.Event}
  {r : Except Failure Outcome}

theorem holdsContext (h : BodyWrote tr config N E r) : HoldsContext N E := by
  rcases h with ⟨rfl, hE, -⟩ | ⟨classpath, a, N', before, D, rfl, rfl, hbefore, hD⟩
  · exact .inl ⟨rfl, hE⟩
  · exact .inr ⟨_, _, a, N', before, _, D, _, rfl, rfl, rfl, rfl, hbefore, hD.driven⟩

theorem accounts (h : BodyWrote tr config N E r) : Accounts N E (skipsOf r) := by
  rcases h with ⟨rfl, hE, hskip⟩ | ⟨classpath, a, N', before, D, rfl, rfl, hbefore, hD⟩
  · exact hskip ▸ Accounts.bodySteps hE
  · -- the factory's call and the context's events account for nothing
    have hacquired : Accounts [⟨.build { roots := classpath } config.policy, a⟩]
        [tr.event .loaderAcquired (some .acquire) none
          (some (Value.obj [("classpath", Value.strs classpath)]))] 0 :=
      .uncounted (by simp [Exchange.loadedSource?, Exchange.raisesViolation]) (by simp)
    have hreleased : Accounts [] [tr.event .loaderReleased (some .release) none none] 0 :=
      .uncounted (by simp) (by simp)
    simpa using (Driven.resolved hbefore).toAccounts.append
      (hacquired.append (hD.toAccounts.append hreleased))

end BodyWrote

/-- **What a run writes**: its start, the body's events and its closing event, in the shape
`TraceShape` says when the run answers. -/
theorem writes_run (factory : Engine.Factory) (ctx : RunContext) (config : RunConfig)
    (htr : ctx.tracePath.isSome) :
    Writes (Kernel.tracer ctx) (Kernel.run factory ctx config) fun N E r =>
      Answered r → (∀ e ∈ E, e.runId = ctx.runId) → TraceShape ctx N r E := by
  replace htr : (Kernel.tracer ctx).path.isSome := htr
  have hstart : Writes (Kernel.tracer ctx) (Kernel.start ctx config) fun N E r =>
      N = [] ∧ (∃ e, E = [e] ∧ e.happening = .runStarted) ∧ r = .ok () :=
    (Writes.emit htr _ _ _ _).mono fun _ _ _ ⟨hN, hE, hr⟩ => ⟨hN, ⟨_, hE, rfl⟩, hr⟩
  unfold Kernel.run
  dsimp only
  refine (hstart.bind fun _ => (?_ : Writes _ _ fun N E r => Answered r →
    ∃ closing E₀, Kernel.closingEvent ctx r = some closing ∧
      BodyWrote (Kernel.tracer ctx) config N E₀ r ∧ E = E₀ ++ [closing])).mono ?_
  · -- the body, then its result closed by its event
    intro s
    obtain ⟨N, hN, hw⟩ := writes_body htr factory ctx config s
    rw [run_bind, run_attempt]
    dsimp only
    rcases hw with ⟨E, hE, hbody⟩ | ⟨htr', f, hf⟩
    · rcases hrun : (Kernel.body factory (Kernel.tracer ctx) ctx config).run s with ⟨r₀, s₁⟩
      rw [hrun] at hN hE hbody
      dsimp only at hN hE hbody ⊢
      cases r₀ with
      | ok o =>
        dsimp only
        obtain ⟨N₂, hN₂, hw₂⟩ := Writes.emit_then htr _ _ _ _ (fun _ => Writes.pure o) s₁
        rcases hw₂ with ⟨E₂, hE₂, rfl, rfl, hr⟩ | hstop
        · refine ⟨N, by rw [hN₂, hN, List.append_nil],
            .inl ⟨E ++ _, hE.append hE₂, fun _ => ⟨_, E, by rw [hr]; rfl, ?_, rfl⟩⟩⟩
          rw [hr]
          exact hbody
        · exact ⟨N ++ N₂, by rw [hN₂, hN, List.append_assoc], .inr hstop⟩
      | error X =>
        cases X with
        | audit e =>
          dsimp only
          obtain ⟨N₂, hN₂, hw₂⟩ := Writes.emit_then htr _ _ _ _ (fun _ => Writes.throw (.audit e)) s₁
          rcases hw₂ with ⟨E₂, hE₂, rfl, rfl, hr⟩ | hstop
          · refine ⟨N, by rw [hN₂, hN, List.append_nil],
              .inl ⟨E ++ _, hE.append hE₂, fun _ => ⟨_, E, by rw [hr]; rfl, ?_, rfl⟩⟩⟩
            rw [hr]
            exact hbody
          · exact ⟨N ++ N₂, by rw [hN₂, hN, List.append_assoc], .inr hstop⟩
        | task t => exact ⟨N, hN, .inl ⟨E, hE, fun h => absurd h.audit_of_error (by simp)⟩⟩
        | fault f => exact ⟨N, hN, .inl ⟨E, hE, fun h => absurd h.audit_of_error (by simp)⟩⟩
    · rw [hf]
      exact ⟨N, hN, .inr ⟨htr', f, rfl⟩⟩
  · rintro N E r (⟨F, ⟨-, -, h⟩, -⟩ |
      ⟨⟨⟩, N₁, N₂, E₁, E₂, ⟨rfl, ⟨started, rfl, hstarted⟩, -⟩, h₂, rfl, rfl⟩) hanswered hrunId
    · cases h
    · obtain ⟨closing, E₀, hclosing, hbody, rfl⟩ := h₂ hanswered
      have hclosed : Accounts [] [closing] 0 := .uncounted (by simp) fun e he => by
        rcases Kernel.closingEvent_happening hclosing with h | h <;> simp [List.mem_singleton.mp he, h]
      have hstarted' : Accounts [] [started] 0 := .uncounted (by simp) (by simp [hstarted])
      refine ⟨hrunId, ⟨started, E₀, closing, rfl, hstarted, hclosing, hbody.holdsContext⟩, ?_⟩
      simpa [skipsOf_eq] using hstarted'.append (hbody.accounts.append hclosed)

/-- **The trace of a run that answers**: a run with a trace file that returns an outcome or
raises an audit error appends its events, and nothing else, to the trace file, in the shape
`TraceShape` gives. -/
theorem run_traceShape (factory : Engine.Factory) (ctx : RunContext) (config : RunConfig)
    (s : Session) (htr : ctx.tracePath.isSome)
    (hanswered : Answered ((Kernel.run factory ctx config).run s).1) :
    ∃ N E, ((Kernel.run factory ctx config).run s).2.exchanges = s.exchanges ++ N ∧
      (Kernel.tracer ctx).Written s.tree E ((Kernel.run factory ctx config).run s).2.tree ∧
      TraceShape ctx N ((Kernel.run factory ctx config).run s).1 E := by
  obtain ⟨N, hN, ⟨E, hE, hshape⟩ | ⟨-, f, hf⟩⟩ := writes_run factory ctx config htr s
  · exact ⟨N, E, hN, hE, hshape hanswered hE.runId⟩
  · rw [hf] at hanswered
    exact absurd hanswered.audit_of_error (by simp)

/-- A run context that traces to `/work/trace.jsonl`. -/
def tracedContext : RunContext := { tracePath := some "/work/trace.jsonl" }

/-- Inline signatures, the classes below `/work/c`, and a policy that fails on violations. -/
def tracedConfig : RunConfig :=
  { classesDirectory := "/work/c", sources := [.inline "java.lang.Thread#stop()"],
    policy := { failOnViolation := .bool true } }

/-- One class file below `/work/c`. -/
def tracedSession : Session :=
  { tree := (FileTree.initial.put ["work", "c"] .dir).put ["work", "c", "A.class"] (.file []),
    env := Environment.base }

/-- The violation a scan of `tracedSession` raises. -/
def stopViolation : AuditError :=
  ⟨.violation, .str "forbidden.call", .str "Forbidden method invocation: java.lang.Thread#stop()",
    none⟩

/-- A traced run whose scan raises `stopViolation` answers, and so has a trace of that shape. -/
theorem tracedViolationRun_traceShape :
    tracedContext.tracePath.isSome ∧
      Answered ((Kernel.run (.planned .recording [(.execute, .audit stopViolation)] none)
        tracedContext tracedConfig).run tracedSession).1 ∧
      ∃ N E, ((Kernel.run (.planned .recording [(.execute, .audit stopViolation)] none)
          tracedContext tracedConfig).run tracedSession).2.exchanges = tracedSession.exchanges ++ N ∧
        (Kernel.tracer tracedContext).Written tracedSession.tree E
          ((Kernel.run (.planned .recording [(.execute, .audit stopViolation)] none)
            tracedContext tracedConfig).run tracedSession).2.tree ∧
        TraceShape tracedContext N ((Kernel.run (.planned .recording
          [(.execute, .audit stopViolation)] none) tracedContext tracedConfig).run tracedSession).1 E := by
  have hanswered : Answered ((Kernel.run (.planned .recording [(.execute, .audit stopViolation)] none)
      tracedContext tracedConfig).run tracedSession).1 := by
    decide +kernel
  exact ⟨rfl, hanswered, run_traceShape (.planned .recording [(.execute, .audit stopViolation)] none)
    tracedContext tracedConfig tracedSession rfl hanswered⟩

end ApiAudit
