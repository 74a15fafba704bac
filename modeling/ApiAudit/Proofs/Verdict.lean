import ApiAudit.Proofs.CallOrder

/-!
# Proofs/Verdict — what each answer of the engine brings a run to

Some answers of the engine settle the run (`settles`): a failure of the factory or of any
engine call, a runtime the engine does not support, an engine without signatures, and the
scan.  Each becomes a verdict (`Verdict`): a failure, as the run translates it, or an outcome.

`Running.settled` says that a run keeps to what its exchanges settle (`Settled`), or is one of
the two skips decided before the engine exists:

* `agrees` — whatever an exchange of a run settles, the run comes to, unless its trace file
  stops it;
* `raised` — every failure the factory or the engine raised settles something;
* `decided` — an outcome of a run is settled by one of its exchanges;
* `counted` — an outcome other than a skip counts the class files registered, at least one.

Each relation of a run's parts gets its `settled` lemma (`FailsAs` for the parts that return
nothing), proved from those of its parts; `run_settled` is the whole run.
-/

namespace ApiAudit

open Audit

/-- Whether a request registers a class file. -/
def Request.isRegistration : Request → Bool
  | .call .registerClassFile _ => true
  | _ => false

/-- The class files registered among some exchanges. -/
def registrations (N : List Exchange) : Nat := N.countP (·.request.isRegistration)

/-- What an answer of the engine brings a run to: a failure, or an outcome. -/
inductive Verdict where
  | fails (F : Failure)
  | ends (status : Status) (message : Value)

/-- A result that is the verdict: the failure itself, or an outcome of its status and message. -/
def Agrees (V : Verdict) (r : Except Failure Outcome) : Prop :=
  match V with
  | .fails F => r = .error F
  | .ends status message => ∃ o, r = .ok o ∧ o.status = status ∧ o.message = message

/-- **What an exchange settles**: the verdict the run comes to once the factory or the engine
answered so, or nothing when the run goes on. -/
def settles (ctx : RunContext) (config : RunConfig) (x : Exchange) : Option Verdict :=
  match x.request, x.answer with
  | .build _ _, .error X => some (.fails (Failure.ofEngineCall "create the scanning engine" none X))
  | .call .isRuntimeSupported [], .error X =>
    some (.fails (Failure.ofEngineCall "check runtime support" none X))
  | .call .isRuntimeSupported [], .ok v =>
    if v.truthy then none
    else if config.policy.failOnUnsupportedRuntime.truthy then some (.fails unsupportedRuntime)
    else some (.ends .skipped (.str unsupportedRuntimeMessage))
  | .call .registerSuppression _, .error X =>
    some (.fails (Failure.ofEngineCall "register suppress annotation" none X))
  | .call .loadBundledSignatures _, .error X => some (.fails (Failure.ofSignatureLoad X))
  | .call .loadInlineSignatures _, .error X => some (.fails (Failure.ofSignatureLoad X))
  | .call .loadSignatureFile _, .error X => some (.fails (Failure.ofSignatureLoad X))
  | .call .hasAnySignaturesLoaded [], .error X =>
    some (.fails (Failure.ofEngineCall "report loaded signatures" none X))
  | .call .hasAnySignaturesLoaded [], .ok v =>
    if v.truthy || config.policy.internalRuntimeForbidden.truthy then none
    else if ctx.skipWhenNoSignatures then some (.ends .skipped (.str noSignaturesSkip))
    else some (.fails (Failure.config "signatures.none_loaded" noSignaturesMessage))
  | .call .registerClassFile [.str path], .error X =>
    some (.fails (Failure.ofEngineCall "register class file" (some (classLoadFailed path)) X))
  | .call .execute [], .ok _ => some (.ends .passed .null)
  | .call .execute [], .error (.audit e) =>
    if e.kind = .violation then
      some (.ends (if config.policy.failOnViolation.truthy then .violations else .passed) e.message)
    else some (.fails (.audit e))
  | .call .execute [], .error X =>
    some (.fails (Failure.engineFault s!"Scanning for forbidden API usage failed: {X.text}"))
  | _, _ => none

section Answers

variable (ctx : RunContext) (config : RunConfig)

@[simp] theorem settles_build_ok (context : Loader) (policy : Policy) (v : Value) :
    settles ctx config ⟨.build context policy, .ok v⟩ = none := rfl

@[simp] theorem settles_runtimeCheck (a : Except Failure Value) :
    settles ctx config ⟨.runtimeCheck, a⟩ = match a with
      | .error X => some (.fails (Failure.ofEngineCall "check runtime support" none X))
      | .ok v =>
        if v.truthy then none
        else if config.policy.failOnUnsupportedRuntime.truthy then some (.fails unsupportedRuntime)
        else some (.ends .skipped (.str unsupportedRuntimeMessage)) := by
  cases a <;> rfl

@[simp] theorem settles_suppression_ok (p : String) (v : Value) :
    settles ctx config ⟨.suppression p, .ok v⟩ = none := rfl

@[simp] theorem settles_load_ok (source : Source) (v : Value) :
    settles ctx config ⟨.load source, .ok v⟩ = none := by
  cases source <;> rfl

theorem settles_load_error (source : Source) (X : Failure) :
    settles ctx config ⟨.load source, .error X⟩ =
      some (.fails (Failure.ofSignatureLoad X)) := by
  cases source <;> rfl

@[simp] theorem settles_signatureCheck (a : Except Failure Value) :
    settles ctx config ⟨.signatureCheck, a⟩ = match a with
      | .error X => some (.fails (Failure.ofEngineCall "report loaded signatures" none X))
      | .ok v =>
        if v.truthy || config.policy.internalRuntimeForbidden.truthy then none
        else if ctx.skipWhenNoSignatures then some (.ends .skipped (.str noSignaturesSkip))
        else some (.fails (Failure.config "signatures.none_loaded" noSignaturesMessage)) := by
  cases a <;> rfl

@[simp] theorem settles_registration_ok (dir rel : String) (v : Value) :
    settles ctx config ⟨.registration dir rel, .ok v⟩ = none := rfl

@[simp] theorem settles_scan_ok (v : Value) :
    settles ctx config ⟨.scan, .ok v⟩ = some (.ends .passed .null) := rfl

@[simp] theorem settles_scan_audit (e : AuditError) :
    settles ctx config ⟨.scan, .error (.audit e)⟩ =
      if e.kind = .violation then
        some (.ends (if config.policy.failOnViolation.truthy then .violations else .passed)
          e.message)
      else some (.fails (.audit e)) := rfl

theorem settles_scan_other (X : Failure) (hX : ∀ e, X ≠ .audit e) :
    settles ctx config ⟨.scan, .error X⟩ =
      some (.fails
        (Failure.engineFault s!"Scanning for forbidden API usage failed: {X.text}")) := by
  cases X with
  | audit e => exact absurd rfl (hX e)
  | task t => rfl
  | fault f => rfl

/-- Whatever the scan answers settles the part. -/
theorem settles_scan_isSome (a : Except Failure Value) :
    (settles ctx config ⟨.scan, a⟩).isSome := by
  rcases a with X | v
  · by_cases hX : ∃ e, X = .audit e
    · obtain ⟨e, rfl⟩ := hX
      rw [settles_scan_audit]
      split <;> rfl
    · rw [settles_scan_other ctx config X fun e he => hX ⟨e, he⟩]
      rfl
  · rfl

end Answers

/-! ## What the parts of a run settle -/

/-- **A part of a run, with the exchanges `N` and the result `r`, keeps to what its exchanges
settle**: whatever one of them settles, the part comes to, unless the trace file stopped it;
every failure the factory or the engine raised settles something; an outcome was settled by
one of them; an outcome other than a skip counts the class files registered, at least one. -/
structure Settled (tr : Tracer) (ctx : RunContext) (config : RunConfig) (N : List Exchange)
    (r : Except Failure Outcome) : Prop where
  agrees : ∀ x ∈ N, ∀ V, settles ctx config x = some V → Agrees V r ∨ TraceStopped tr r
  raised : ∀ x ∈ N, ∀ X, x.answer = .error X →
    (settles ctx config x).isSome ∨ TraceStopped tr r
  decided : ∀ o, r = .ok o → ∃ x ∈ N, settles ctx config x = some (.ends o.status o.message)
  counted : ∀ o, r = .ok o → o.status ≠ .skipped →
    o.filesChecked = registrations N ∧ 0 < o.filesChecked

/-- **A part of a run that returns nothing fails as its exchanges settle**: whatever one of
them settles is a failure, and the part fails with it, unless the trace file stopped it; and
every failure the engine raised settles something. -/
structure FailsAs (tr : Tracer) (ctx : RunContext) (config : RunConfig) (N : List Exchange)
    (r : Except Failure Unit) : Prop where
  agrees : ∀ x ∈ N, ∀ V, settles ctx config x = some V →
    (∃ F, V = .fails F ∧ r = .error F) ∨ TraceStopped tr r
  raised : ∀ x ∈ N, ∀ X, x.answer = .error X →
    (settles ctx config x).isSome ∨ TraceStopped tr r

variable {tr : Tracer} {ctx : RunContext} {config : RunConfig} {N N₁ N₂ : List Exchange}

/-- A part that went through settled nothing. -/
theorem FailsAs.quiet (h : FailsAs tr ctx config N (.ok ())) :
    ∀ x ∈ N, settles ctx config x = none := by
  intro x hx
  cases hV : settles ctx config x with
  | none => rfl
  | some V =>
    rcases h.agrees x hx V hV with ⟨F, -, hF⟩ | ⟨-, f, hf⟩
    · cases hF
    · cases hf

/-- A part that went through met no failure. -/
theorem FailsAs.unfailed (h : FailsAs tr ctx config N (.ok ())) :
    ∀ x ∈ N, ∀ X, x.answer ≠ .error X := by
  intro x hx X hX
  rcases h.raised x hx X hX with hsome | ⟨-, f, hf⟩
  · rw [h.quiet x hx] at hsome
    cases hsome
  · cases hf

namespace FailsAs

variable {r : Except Failure Unit}

theorem nil : FailsAs tr ctx config [] r := ⟨by simp, by simp⟩

theorem stopped (h : TraceStopped tr r) : FailsAs tr ctx config N r :=
  ⟨fun _ _ _ _ => .inr h, fun _ _ _ _ => .inr h⟩

/-- One exchange that settles a failure. -/
theorem single {x : Exchange} {F : Failure} (hV : settles ctx config x = some (.fails F)) :
    FailsAs tr ctx config [x] (.error F) where
  agrees y hy V hV' := by
    rw [List.mem_singleton.mp hy, hV] at hV'
    cases hV'
    exact .inl ⟨F, rfl, rfl⟩
  raised y hy _ _ := by
    rw [List.mem_singleton.mp hy, hV]
    exact .inl rfl

/-- An answer that settles nothing, before a part. -/
theorem cons {request : Request} {v : Value}
    (hquiet : settles ctx config ⟨request, .ok v⟩ = none)
    (h : FailsAs tr ctx config N r) : FailsAs tr ctx config (⟨request, .ok v⟩ :: N) r where
  agrees x hx V hV := by
    rcases List.mem_cons.mp hx with rfl | hx
    · rw [hquiet] at hV
      cases hV
    · exact h.agrees x hx V hV
  raised x hx X hX := by
    rcases List.mem_cons.mp hx with rfl | hx
    · cases hX
    · exact h.raised x hx X hX

end FailsAs

namespace Settled

variable {r r₀ : Except Failure Outcome}

theorem stopped (h : TraceStopped tr r) : Settled tr ctx config N r where
  agrees _ _ _ _ := .inr h
  raised _ _ _ _ := .inr h
  decided o ho := by
    obtain ⟨-, f, hf⟩ := h
    rw [ho] at hf
    cases hf
  counted o ho := by
    obtain ⟨-, f, hf⟩ := h
    rw [ho] at hf
    cases hf

/-- A failed part settles as its exchanges do. -/
theorem failed {F : Failure} (h : FailsAs tr ctx config N (.error F)) :
    Settled tr ctx config N (.error F) where
  agrees x hx V hV := by
    rcases h.agrees x hx V hV with ⟨F', rfl, hF⟩ | ⟨hpath, f, hf⟩
    · cases hF
      exact .inl rfl
    · cases hf
      exact .inr ⟨hpath, f, rfl⟩
  raised x hx X hX := by
    rcases h.raised x hx X hX with hsome | ⟨hpath, f, hf⟩
    · exact .inl hsome
    · cases hf
      exact .inr ⟨hpath, f, rfl⟩
  decided _ h := by cases h
  counted _ h := by cases h

/-- A part after a part that went through and registered nothing. -/
theorem append (h₁ : FailsAs tr ctx config N₁ (.ok ())) (hreg : registrations N₁ = 0)
    (h : Settled tr ctx config N₂ r) : Settled tr ctx config (N₁ ++ N₂) r where
  agrees x hx V hV := by
    rcases List.mem_append.mp hx with hx | hx
    · rw [h₁.quiet x hx] at hV
      cases hV
    · exact h.agrees x hx V hV
  raised x hx X hX := by
    rcases List.mem_append.mp hx with hx | hx
    · exact absurd hX (h₁.unfailed x hx X)
    · exact h.raised x hx X hX
  decided o ho := by
    obtain ⟨x, hx, hV⟩ := h.decided o ho
    exact ⟨x, List.mem_append_right _ hx, hV⟩
  counted o ho hs := by
    rw [registrations, List.countP_append, ← registrations, hreg, Nat.zero_add]
    exact h.counted o ho hs

/-- A part after an answer that settles nothing and registers nothing. -/
theorem cons {request : Request} {v : Value}
    (hquiet : settles ctx config ⟨request, .ok v⟩ = none)
    (hreg : request.isRegistration = false) (h : Settled tr ctx config N r) :
    Settled tr ctx config (⟨request, .ok v⟩ :: N) r :=
  show Settled tr ctx config ([_] ++ N) r from
    append (.cons hquiet .nil) (by simp [registrations, hreg]) h

/-- One exchange that settles a failure. -/
theorem single_fails {x : Exchange} {F : Failure} (hV : settles ctx config x = some (.fails F)) :
    Settled tr ctx config [x] (.error F) :=
  failed (.single hV)

/-- One exchange that settles a skip. -/
theorem single_skip {x : Exchange} {message : String}
    (hV : settles ctx config x = some (.ends .skipped (.str message))) :
    Settled tr ctx config [x] (.ok (Outcome.skip message)) where
  agrees y hy V hV' := by
    rw [List.mem_singleton.mp hy, hV] at hV'
    cases hV'
    exact .inl ⟨_, rfl, rfl, rfl⟩
  raised y hy _ _ := by
    rw [List.mem_singleton.mp hy, hV]
    exact .inl rfl
  decided o ho := by
    cases ho
    exact ⟨x, List.mem_singleton_self x, hV⟩
  counted o ho hs := by
    cases ho
    exact absurd rfl hs

/-- An exchange that settles an outcome brings the part to an outcome of that status. -/
theorem ends_of_mem (h : Settled tr ctx config N r) {x : Exchange} (hx : x ∈ N)
    {status : Status} (message : Value)
    (hV : settles ctx config x = some (.ends status message)) :
    (∃ o, r = .ok o ∧ o.status = status) ∨ TraceStopped tr r :=
  (h.agrees x hx _ hV).imp (fun ⟨o, ho, hs, _⟩ => ⟨o, ho, hs⟩) id

/-- An exchange that settles a failure brings the part to that failure. -/
theorem fails_of_mem (h : Settled tr ctx config N r) {x : Exchange} (hx : x ∈ N) {F : Failure}
    (hV : settles ctx config x = some (.fails F)) : r = .error F ∨ TraceStopped tr r :=
  h.agrees x hx _ hV

/-- What the trace event closing a part does to its result does not undo what it settled. -/
theorem released (h : Settled tr ctx config N r₀) (hrel : Released tr r₀ r) :
    Settled tr ctx config N r := by
  rcases hrel with rfl | hstop
  · exact h
  · exact stopped hstop

end Settled

/-! ## Each part keeps to what it settles -/

/-- The requests of a loop of engine calls are those of its items. -/
theorem Calling.requests {γ : Type} {request : γ → Request} {turn : γ → Failure → Failure}
    {items : List γ} {r : Except Failure Unit} (h : Calling request turn items N r) :
    ∀ x ∈ N, ∃ a, x.request = request a := by
  induction h with
  | done => simp
  | refused a rest X =>
    intro x hx
    rw [List.mem_singleton.mp hx]
    exact ⟨a, rfl⟩
  | next a rest v _ ih =>
    intro x hx
    rcases List.mem_cons.mp hx with rfl | hx
    · exact ⟨a, rfl⟩
    · exact ih x hx

theorem Calling.failsAs {γ : Type} {request : γ → Request} {turn : γ → Failure → Failure}
    {items : List γ} {r : Except Failure Unit}
    (hok : ∀ a v, settles ctx config ⟨request a, .ok v⟩ = none)
    (herr : ∀ a X, settles ctx config ⟨request a, .error X⟩ = some (.fails (turn a X)))
    (h : Calling request turn items N r) : FailsAs tr ctx config N r := by
  induction h with
  | done => exact .nil
  | refused a rest X => exact .single (herr a X)
  | next a rest v _ ih => exact .cons (hok a v) ih

theorem Suppressing.failsAs {patterns : List String} {r : Except Failure Unit}
    (h : Suppressing patterns N r) : FailsAs tr ctx config N r :=
  Calling.failsAs (fun _ _ => rfl) (fun _ _ => rfl) h

theorem Registering.failsAs {dir : String} {files : List String} {r : Except Failure Unit}
    (h : Registering dir files N r) : FailsAs tr ctx config N r :=
  Calling.failsAs (fun _ _ => rfl) (fun _ _ => rfl) h

/-- Suppression patterns register no class file. -/
theorem Suppressing.registrations_eq_zero {patterns : List String} {r : Except Failure Unit}
    (h : Suppressing patterns N r) : registrations N = 0 := by
  rw [ApiAudit.registrations, List.countP_eq_zero]
  intro x hx
  obtain ⟨p, hp⟩ := h.requests x hx
  simp [hp, Request.suppression, Request.isRegistration]

/-- Every class file registered is counted. -/
theorem Registering.registrations_eq_length {dir : String} {files : List String}
    (h : Registering dir files N (.ok ())) : registrations N = files.length := by
  have hmap : N.map Exchange.request = files.map (Request.registration dir) := h.follows.2 rfl
  have hcount : registrations N = (N.map Exchange.request).countP Request.isRegistration := by
    rw [List.countP_map]
    rfl
  rw [hcount, hmap, List.countP_map, List.countP_eq_length]
  intro rel _
  rfl

theorem Loading.requests {seen : FileTree → Prop} {sources : List Source}
    {r : Except Failure Unit} (h : Loading tr seen sources N r) (hr : r = .ok ()) :
    ∀ x ∈ N, ∃ source, x.request = .load source := by
  induction h with
  | done => simp
  | missing path rest t ht hfile => simp
  | refused source rest X _ => cases hr
  | next source rest v _ _ ih =>
    intro x hx
    rcases List.mem_cons.mp hx with rfl | hx
    · exact ⟨source, rfl⟩
    · exact ih hr x hx
  | stopped f _ => cases hr

theorem Loading.failsAs {seen : FileTree → Prop} {sources : List Source}
    {r : Except Failure Unit} (h : Loading tr seen sources N r) : FailsAs tr ctx config N r := by
  induction h with
  | done => exact .nil
  | missing path rest t ht hfile => exact .nil
  | refused source rest X _ => exact .single (settles_load_error ctx config source X)
  | next source rest v _ _ ih => exact .cons (settles_load_ok ctx config source v) ih
  | stopped f hpath => exact .stopped ⟨hpath, f, rfl⟩

/-- Signature sources that loaded register no class file. -/
theorem Loading.registrations_eq_zero {seen : FileTree → Prop} {sources : List Source}
    (h : Loading tr seen sources N (.ok ())) : registrations N = 0 := by
  rw [ApiAudit.registrations, List.countP_eq_zero]
  intro x hx
  obtain ⟨source, hs⟩ := h.requests rfl x hx
  cases source <;> simp [hs, Request.load, Request.isRegistration]

/-- **The scan settles what it answers**, and an outcome counts the files it was given. -/
theorem Scanning.settled (ctx : RunContext) {count : Nat} {r : Except Failure Outcome}
    (h : Scanning tr config count N r) :
    TraceStopped tr r ∨
      ∃ a V, N = [⟨.scan, a⟩] ∧ settles ctx config ⟨.scan, a⟩ = some V ∧
      Agrees V r ∧ ∀ o, r = .ok o → o.filesChecked = count := by
  cases h with
  | passed v =>
    exact .inr ⟨_, _, rfl, settles_scan_ok ctx config v, ⟨_, rfl, rfl, rfl⟩, by simp⟩
  | violations e hkind hfail =>
    exact .inr ⟨_, .ends .violations e.message, rfl, by simp [hkind, hfail],
      ⟨_, rfl, rfl, rfl⟩, by simp⟩
  | tolerated e hkind hfail =>
    exact .inr ⟨_, .ends .passed e.message, rfl, by simp [hkind, hfail], ⟨_, rfl, rfl, rfl⟩,
      by simp⟩
  | refused e hkind =>
    exact .inr ⟨_, .fails (.audit e), rfl, by rw [settles_scan_audit, if_neg hkind], rfl,
      by simp⟩
  | faulted X hX =>
    exact .inr ⟨_, _, rfl, settles_scan_other ctx config X hX, show _ = _ from rfl, by simp⟩
  | stopped f hpath => exact .inl ⟨hpath, f, rfl⟩

theorem Finishing.settled {files : List String} (hfiles : files ≠ []) {r : Except Failure Outcome}
    (h : Finishing tr config files N r) : Settled tr ctx config N r := by
  cases h with
  | unregistered hreg => exact .failed hreg.failsAs
  | scanned hreg hscan =>
    -- the registrations went through; the scan settles the rest and counts them
    have hreg' : FailsAs tr ctx config _ _ := hreg.failsAs
    rcases hscan.settled ctx with hstop | ⟨a, V, rfl, hV, hagree, hcount⟩
    · exact .stopped hstop
    refine ⟨fun x hx V' hV' => ?_, fun x hx X hX => ?_, fun o ho => ?_, fun o ho _ => ?_⟩
    · rcases List.mem_append.mp hx with hx | hx
      · rw [hreg'.quiet x hx] at hV'
        cases hV'
      · rw [List.mem_singleton.mp hx, hV] at hV'
        cases hV'
        exact .inl hagree
    · rcases List.mem_append.mp hx with hx | hx
      · exact absurd hX (hreg'.unfailed x hx X)
      · rw [List.mem_singleton.mp hx, hV]
        exact .inl rfl
    · cases V with
      | fails F =>
        rw [ho] at hagree
        cases hagree
      | ends status message =>
        obtain ⟨o', ho', hs, hm⟩ := hagree
        rw [ho] at ho'
        cases ho'
        exact ⟨_, List.mem_append_right _ (List.mem_singleton_self _), by rw [hV, hs, hm]⟩
    · have hscan₀ : registrations [⟨Request.scan, a⟩] = 0 := rfl
      rw [registrations, List.countP_append, ← registrations, ← registrations, hscan₀,
        hreg.registrations_eq_length, hcount o ho]
      exact ⟨rfl, List.length_pos_iff.mpr hfiles⟩
  | stopped f hpath => exact .stopped ⟨hpath, f, rfl⟩

theorem Checking.settled {files : List String} (hfiles : files ≠ []) {r : Except Failure Outcome}
    (h : Checking tr ctx config files N r) : Settled tr ctx config N r := by
  cases h with
  | forbidden _ hfin => exact hfin.settled hfiles
  | failed X _ => exact .single_fails (by simp)
  | skipped v hirf hv hskip => exact .single_skip (by simp [hirf, hv, hskip])
  | rejected v hirf hv hskip => exact .single_fails (by simp [hirf, hv, hskip])
  | confirmed v _ hv hfin => exact .cons (by simp [hv]) rfl (hfin.settled hfiles)
  | stopped f hpath => exact .stopped ⟨hpath, f, rfl⟩

theorem Preparing.settled {seen : FileTree → Prop} {files : ClassFiles}
    (hne : ∀ fs, Obtained tr ctx config seen files fs → fs ≠ []) {r : Except Failure Outcome}
    (h : Preparing tr ctx config seen files N r) : Settled tr ctx config N r := by
  cases h with
  | unfound _ _ => exact .failed .nil
  | unloaded _ hload => exact .failed hload.failsAs
  | loaded hobtained hload hcheck =>
    exact .append hload.failsAs hload.registrations_eq_zero (hcheck.settled (hne _ hobtained))

theorem Supported.settled {seen : FileTree → Prop} {files : ClassFiles}
    (hne : ∀ fs, Obtained tr ctx config seen files fs → fs ≠ []) {r : Except Failure Outcome}
    (h : Supported tr ctx config seen files N r) : Settled tr ctx config N r := by
  cases h with
  | unsuppressed hsup => exact .failed hsup.failsAs
  | suppressed hsup hprep =>
    exact .append hsup.failsAs hsup.registrations_eq_zero (hprep.settled hne)
  | stopped f hpath => exact .stopped ⟨hpath, f, rfl⟩

theorem Driving.settled {seen : FileTree → Prop} {files : ClassFiles}
    (hne : ∀ fs, Obtained tr ctx config seen files fs → fs ≠ []) {r : Except Failure Outcome}
    (h : Driving tr ctx config seen files N r) : Settled tr ctx config N r := by
  cases h with
  | failed X => exact .single_fails (by simp)
  | unsupported v hv hfail => exact .single_fails (by simp [hv, hfail])
  | skipped v hv hfail => exact .single_skip (by simp [hv, hfail])
  | supported v hv hsup => exact .cons (by simp [hv]) rfl (hsup.settled hne)
  | stopped f hpath => exact .stopped ⟨hpath, f, rfl⟩

theorem Executing.settled {seen : FileTree → Prop} {classpath : List String} {files : ClassFiles}
    (hne : ∀ fs, Obtained tr ctx config seen files fs → fs ≠ []) {r : Except Failure Outcome}
    (h : Executing tr ctx config seen classpath files N r) : Settled tr ctx config N r := by
  cases h with
  | unacquired f hpath => exact .stopped ⟨hpath, f, rfl⟩
  | unbuilt X hrel => exact (Settled.single_fails rfl).released hrel
  | driven hdrive _ hrel => exact (Settled.cons rfl rfl (hdrive.settled hne)).released hrel

/-- **The two skips a run decides before its engine exists**, from the tree `t` and
environment `env` its body starts in: no signature source where the front end tolerates
that, or no class files selected where it tolerates that. -/
def SkippedEarly (ctx : RunContext) (config : RunConfig) (env : Environment) (t : FileTree)
    (r : Except Failure Outcome) : Prop :=
  (config.Unsigned ∧ ctx.skipWhenNoSignatures = true ∧
      r = .ok (Outcome.skip noSignaturesSkip)) ∨
    (¬config.Unsigned ∧
      (∃ classpath, Classpath.build env config.classpathEntries (.str config.classesDirectory) =
        .ok classpath) ∧
      ctx.skipWhenNoClasses = true ∧ Kernel.selectIn t config = [] ∧
      r = .ok (Outcome.skip (Kernel.noClassesMessage config)))

/-- The class files a body hands to its drive are never none. -/
theorem Body.obtained_ne_nil {seen : FileTree → Prop} {t : FileTree} {files : ClassFiles}
    (hfiles : files = if ctx.skipWhenNoClasses then .found (Kernel.selectIn t config) else .later)
    (hsome : ctx.skipWhenNoClasses = true → Kernel.selectIn t config ≠ []) :
    ∀ fs, Obtained tr ctx config seen files fs → fs ≠ [] := by
  intro fs hobtained
  cases hskip : ctx.skipWhenNoClasses
  · -- found by the drive, where an empty set is rejected
    rw [hskip, if_neg Bool.false_ne_true] at hfiles
    subst hfiles
    cases hobtained with
    | later hfind =>
      cases hfind with
      | found t' _ hfound => exact (hfound hskip).2
  · rw [hskip, if_pos rfl] at hfiles
    subst hfiles
    cases hobtained
    exact hsome hskip

theorem Body.settled {seen : FileTree → Prop} {t : FileTree} {env : Environment}
    {r : Except Failure Outcome} (h : Body tr ctx config seen t env N r) :
    Settled tr ctx config N r ∨ (N = [] ∧ SkippedEarly ctx config env t r) := by
  cases h with
  | unsignedSkipped hu hskip => exact .inr ⟨rfl, .inl ⟨hu, hskip, rfl⟩⟩
  | unsigned _ _ => exact .inl (.failed .nil)
  | unbuilt F _ _ => exact .inl (.failed .nil)
  | empty classpath hu hcp hskip hnone =>
    exact .inr ⟨rfl, .inr ⟨hu, ⟨classpath, hcp⟩, hskip, hnone, rfl⟩⟩
  | executed _ _ _ hfiles hsome hexec =>
    exact .inl (hexec.settled (Body.obtained_ne_nil hfiles hsome))
  | stopped f hpath => exact .inl (.stopped ⟨hpath, f, rfl⟩)

theorem Running.settled {seen : FileTree → Prop} {started : Except Failure Unit} {t : FileTree}
    {env : Environment} {r : Except Failure Outcome}
    (h : Running ctx config seen started t env N r) :
    Settled (Kernel.tracer ctx) ctx config N r ∨
      (N = [] ∧ SkippedEarly ctx config env t r) := by
  cases h with
  | unstarted f _ hpath => exact .inl (.stopped ⟨hpath, f, rfl⟩)
  | ran _ hbody hrel =>
    rcases hbody.settled with hset | ⟨hN, hskip⟩
    · exact .inl (hset.released hrel)
    · rcases hrel with rfl | hstop
      · exact .inr ⟨hN, hskip⟩
      · exact .inl (.stopped hstop)

/-- **What a run's exchanges settle, it comes to**, unless its trace file stops it; and an
outcome of a run is settled by one of them or is one of the two early skips. -/
theorem run_settled (factory : Engine.Factory) (ctx : RunContext) (config : RunConfig)
    (s : Session) :
    ∃ N, ((Kernel.run factory ctx config).run s).2.exchanges = s.exchanges ++ N ∧
      (Settled (Kernel.tracer ctx) ctx config N ((Kernel.run factory ctx config).run s).1 ∨
        N = [] ∧ SkippedEarly ctx config s.env ((Kernel.start ctx config).run s).2.tree
          ((Kernel.run factory ctx config).run s).1) := by
  have hk : Keeps (Kernel.tracer ctx) fun _ => True := fun _ _ _ _ _ _ => trivial
  obtain ⟨N, hN, hrun, -⟩ := run_ends factory ctx config hk s trivial
  exact ⟨N, hN, hrun.settled⟩

end ApiAudit
