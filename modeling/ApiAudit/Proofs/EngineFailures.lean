import ApiAudit.Proofs.Verdict

/-!
# Proofs/EngineFailures — what a failure of the engine becomes

A failure the factory or the engine raises leaves a run only as an audit error
(`engineFailures_translated`).  The run comes to its translation (`Translated`):

* an audit error is passed on unchanged, except violations raised by the scan, which are an
  outcome;
* a file-system failure loading signatures is a resource error, `signatures.io_error`;
* a file-system failure registering a class file is a resource error, `classes.load_failed`,
  whose data names the file;
* anything else, a file-system failure of any other call included, is an engine fault
  `engine.fault` quoting the failure.

A signatures file that is not there is found before the engine is asked to load it
(`SignaturesUnread`): the engine gets no load call for it and nothing after, and the run fails
as if loading it had failed with the file system, unless an earlier step ended it.

Each holds up to a trace file that cannot be written: such a run fails with that fault instead.
-/

namespace ApiAudit

open Audit

/-- Whether a request loads signatures. -/
def Request.isLoad : Request → Bool
  | .call .loadBundledSignatures _ | .call .loadInlineSignatures _
  | .call .loadSignatureFile _ => true
  | _ => false

/-- Whether a failure is one of the file system's. -/
def Failure.isOs : Failure → Bool
  | .fault f => f.kind.isOs
  | _ => false

/-- An audit error whose message quotes `text`, at its end. -/
def AuditError.Quotes (e : AuditError) (text : String) : Prop :=
  ∃ lead, e.message = .str (lead ++ text)

/-- **What a failure the factory or the engine raised for `request` makes of a run**, by the
kind of the failure and the request. -/
inductive Translated (config : RunConfig) : Request → Failure → Except Failure Outcome → Prop
  /-- An audit error is passed on as it is, … -/
  | passed {request : Request} (e : AuditError) :
      ¬(request = Request.scan ∧ e.kind = .violation) →
      Translated config request (.audit e) (.error (.audit e))
  /-- … but violations raised by the scan are an outcome: violations where the policy fails
  on them, a pass otherwise. -/
  | found (e : AuditError) (o : Outcome) : e.kind = .violation → o.message = e.message →
      o.status = (if config.policy.failOnViolation.truthy then .violations else .passed) →
      Translated config Request.scan (.audit e) (.ok o)
  /-- A file-system failure loading signatures is a resource error quoting it. -/
  | signaturesUnread {request : Request} (f : Fault) (e : AuditError) : request.isLoad = true →
      f.kind.isOs = true → e.kind = .resource → e.code = .str "signatures.io_error" →
      e.Quotes f.text → Translated config request (.fault f) (.error (.audit e))
  /-- A file-system failure registering a class file is a resource error naming the file. -/
  | classUnread (path : String) (f : Fault) (e : AuditError) : f.kind.isOs = true →
      e.kind = .resource → e.code = .str "classes.load_failed" →
      e.data = some (Value.obj [("path", .str path)]) →
      Translated config (.call .registerClassFile [.str path]) (.fault f) (.error (.audit e))
  /-- Anything else is an engine fault quoting the failure. -/
  | faulted {request : Request} (X : Failure) (e : AuditError) : (∀ e', X ≠ .audit e') →
      ¬(X.isOs = true ∧ (request.isLoad = true ∨ request.isRegistration = true)) →
      e.kind = .engineFault → e.code = .str "engine.fault" → e.Quotes X.text →
      Translated config request X (.error (.audit e))

/-! ## Each way a failure is turned -/

section Turned

variable {config : RunConfig} {request : Request}

/-- An engine fault whose message ends with the failure. -/
theorem engineFault_translated {X : Failure} (hX : ∀ e, X ≠ .audit e)
    (hos : ¬(X.isOs = true ∧ (request.isLoad = true ∨ request.isRegistration = true)))
    (lead : String) :
    Translated config request X (.error (Failure.engineFault (lead ++ X.text))) :=
  .faulted X _ hX hos rfl rfl ⟨lead, rfl⟩

/-- A failed engine step without a file-system handler: the runtime check, a suppression,
the signature check, and the factory. -/
theorem ofEngineCall_translated (what : String) (X : Failure) (hload : request.isLoad = false)
    (hreg : request.isRegistration = false) (hscan : request ≠ Request.scan) :
    Translated config request X (.error (Failure.ofEngineCall what none X)) := by
  have hos : ¬(X.isOs = true ∧ (request.isLoad = true ∨ request.isRegistration = true)) := by
    simp [hload, hreg]
  cases X with
  | audit e => exact .passed e fun h => hscan h.1
  | task t => exact engineFault_translated (by simp) hos _
  | fault f =>
    -- without a handler every fault is an engine fault, of the file system or not
    have hturn : Failure.ofEngineCall what none (.fault f) =
        Failure.engineFault s!"Scanning engine failed to {what}: {f.text}" := by
      unfold Failure.ofEngineCall
      split <;> simp_all
    rw [hturn]
    exact engineFault_translated (by simp) hos _

/-- A failed load of signatures. -/
theorem ofSignatureLoad_translated (hload : request.isLoad = true) (X : Failure) :
    Translated config request X (.error (Failure.ofSignatureLoad X)) := by
  cases X with
  | audit e =>
    refine .passed e fun h => ?_
    rw [h.1] at hload
    cases hload
  | task t => exact engineFault_translated (by simp) (by simp [Failure.isOs]) _
  | fault f =>
    by_cases hos : f.kind.isOs = true
    · simp only [Failure.ofSignatureLoad, hos, if_true]
      exact .signaturesUnread f _ hload hos rfl rfl ⟨_, rfl⟩
    · simp only [Failure.ofSignatureLoad, hos, if_false, Bool.false_eq_true]
      exact engineFault_translated (by simp) (by simp [Failure.isOs, hos]) _

/-- A failed registration of a class file. -/
theorem registration_translated (path : String) (X : Failure) :
    Translated config (.call .registerClassFile [.str path]) X
      (.error (Failure.ofEngineCall "register class file" (some (classLoadFailed path)) X)) := by
  cases X with
  | audit e => exact .passed e fun h => by cases h.1
  | task t => exact engineFault_translated (by simp) (by simp [Failure.isOs]) _
  | fault f =>
    by_cases hos : f.kind.isOs = true
    · simp only [Failure.ofEngineCall, hos]
      exact .classUnread path f _ hos rfl rfl rfl
    · simp only [Failure.ofEngineCall, Bool.not_eq_true] at hos ⊢
      simp only [hos]
      exact engineFault_translated (by simp) (by simp [Failure.isOs, hos]) _

/-- A failed scan. -/
theorem scan_translated {ctx : RunContext} {X : Failure} {V : Verdict}
    {r : Except Failure Outcome} (hV : settles ctx config ⟨.scan, .error X⟩ = some V)
    (hagree : Agrees V r) : Translated config Request.scan X r := by
  cases X with
  | audit e =>
    rw [settles_scan_audit] at hV
    by_cases hk : e.kind = .violation
    · rw [if_pos hk] at hV
      cases hV
      obtain ⟨o, rfl, hs, hm⟩ := hagree
      exact .found e o hk hm hs
    · rw [if_neg hk] at hV
      cases hV
      rw [show r = _ from hagree]
      exact .passed e fun h => hk h.2
  | task t =>
    rw [settles_scan_other ctx config _ (by simp)] at hV
    cases hV
    rw [show r = _ from hagree]
    exact engineFault_translated (by simp) (by simp [Failure.isOs]) _
  | fault f =>
    rw [settles_scan_other ctx config _ (by simp)] at hV
    cases hV
    rw [show r = _ from hagree]
    exact engineFault_translated (by simp) (by simp [Request.scan, Request.isLoad,
      Request.isRegistration]) _

end Turned

/-- **A failure an exchange raised is turned into what the exchange settles**: the arms of
`settles` for a failed answer, one translation lemma each. -/
theorem translated_of_settles {ctx : RunContext} {config : RunConfig} {x : Exchange} {X : Failure}
    (hX : x.answer = .error X) {V : Verdict} (hV : settles ctx config x = some V)
    {r : Except Failure Outcome} (hagree : Agrees V r) : Translated config x.request X r := by
  obtain ⟨request, answer⟩ := x
  dsimp only at hX ⊢
  subst hX
  rcases request with ⟨context, policy⟩ | ⟨m, args⟩
  · -- the factory
    cases hV
    cases (show r = _ from hagree)
    exact ofEngineCall_translated _ X rfl rfl (by simp [Request.scan])
  · cases m with
    | isRuntimeSupported =>
      rcases args with _ | ⟨a, args⟩
      · cases hV
        cases (show r = _ from hagree)
        exact ofEngineCall_translated _ X rfl rfl (by simp [Request.scan])
      · cases hV
    | registerSuppression =>
      cases hV
      cases (show r = _ from hagree)
      exact ofEngineCall_translated _ X rfl rfl (by simp [Request.scan])
    | loadBundledSignatures | loadInlineSignatures | loadSignatureFile =>
      cases hV
      cases (show r = _ from hagree)
      exact ofSignatureLoad_translated rfl X
    | hasAnySignaturesLoaded =>
      rcases args with _ | ⟨a, args⟩
      · cases hV
        cases (show r = _ from hagree)
        exact ofEngineCall_translated _ X rfl rfl (by simp [Request.scan])
      · cases hV
    | registerClassFile =>
      rcases args with _ | ⟨a, _ | ⟨b, rest⟩⟩
      · cases hV
      · cases a with
        | str path =>
          cases hV
          cases (show r = _ from hagree)
          exact registration_translated path X
        | _ => cases hV
      · cases a <;> cases hV
    | execute =>
      rcases args with _ | ⟨a, args⟩
      · exact scan_translated hV hagree
      · cases hV

/-- **A part of a run that keeps to what its exchanges settle turns each failure it was answered
as `Translated` says**, unless the trace file stopped it: every such failure settles something,
and the part agrees with what it settles. -/
theorem Settled.translated {tr : Tracer} {ctx : RunContext} {config : RunConfig}
    {N : List Exchange} {r : Except Failure Outcome} (hset : Settled tr ctx config N r)
    {x : Exchange} (hx : x ∈ N) {X : Failure} (hX : x.answer = .error X) :
    Translated config x.request X r ∨ TraceStopped tr r := by
  rcases hset.raised x hx X hX with hsome | hstop
  · obtain ⟨V, hV⟩ := Option.isSome_iff_exists.mp hsome
    exact (hset.agrees x hx V hV).imp (translated_of_settles hX hV) id
  · exact .inr hstop

/-! ## A signatures file that is not there -/

/-- **The requests a run makes before a source it cannot load**: the factory, the runtime
check, the suppressions, and the loads of the sources `pre` before it. -/
def EarlyRequest (pre : List Source) (request : Request) : Prop :=
  (∃ context policy, request = .build context policy) ∨ request = Request.runtimeCheck ∨
    (∃ p, request = Request.suppression p) ∨ ∃ source ∈ pre, request = Request.load source

/-- **An earlier step ended the run**: the runtime is not supported, the factory or the engine
failed, or the class files were not found. -/
def EndedEarlier (N : List Exchange) (r : Except Failure Outcome) : Prop :=
  (∃ v, ⟨Request.runtimeCheck, .ok v⟩ ∈ N ∧ v.truthy = false) ∨
    (∃ x ∈ N, ∃ X, x.answer = .error X) ∨
    ∃ e, r = .error (.audit e) ∧ e.kind = .configuration

/-- An exchange whose request is early. -/
theorem EarlyRequest.singleton {pre : List Source} {request : Request}
    (h : EarlyRequest pre request) (a : Except Failure Value) :
    ∀ x ∈ ([⟨request, a⟩] : List Exchange), EarlyRequest pre x.request := by
  intro x hx
  rw [List.mem_singleton.mp hx]
  exact h

/-- A failed exchange ends the run. -/
theorem EndedEarlier.failed {request : Request} {r : Except Failure Outcome} (X : Failure) :
    EndedEarlier [⟨request, .error X⟩] r :=
  .inr (.inl ⟨_, List.mem_singleton_self _, X, rfl⟩)

theorem EndedEarlier.append_left {N₂ : List Exchange} {r : Except Failure Outcome}
    (N₁ : List Exchange) (h : EndedEarlier N₂ r) : EndedEarlier (N₁ ++ N₂) r := by
  rcases h with ⟨v, hv, hf⟩ | ⟨x, hx, X, hX⟩ | hconfig
  · exact .inl ⟨v, List.mem_append_right _ hv, hf⟩
  · exact .inr (.inl ⟨x, List.mem_append_right _ hx, X, hX⟩)
  · exact .inr (.inr hconfig)

/-- **What a signatures file missing from the tree makes of a run** whose sources before it
are `pre`: the engine is asked nothing but the early requests, and the run fails as if loading
the file had failed with the file system, unless an earlier step ended it or no engine was
built at all. -/
def SignaturesUnread (pre : List Source) (path : String) (N : List Exchange)
    (r : Except Failure Outcome) : Prop :=
  (∀ x ∈ N, EarlyRequest pre x.request) ∧
    (r = .error (Failure.ofSignatureLoad (.fault (missingSignatures path))) ∨ EndedEarlier N r ∨
      N = [])

-- the failure of a missing file is the resource error of unreadable signatures
example : Failure.ofSignatureLoad (.fault (missingSignatures "/work/s.txt")) =
    .audit (AuditError.make .resource "signatures.io_error"
      ("IO problem while reading files with API signatures: " ++
        "Signatures file does not exist: /work/s.txt")) :=
  rfl

/-- **A run cut short by a missing signatures file, so far**: only early requests, and the
failure of the missing file unless an earlier step ended the run. -/
def UnreadSoFar (pre : List Source) (path : String) (N : List Exchange)
    (r : Except Failure Outcome) : Prop :=
  (∀ x ∈ N, EarlyRequest pre x.request) ∧
    (r = .error (Failure.ofSignatureLoad (.fault (missingSignatures path))) ∨ EndedEarlier N r)

/-- Early requests made before the part cut short keep it cut short. -/
theorem UnreadSoFar.append_left {pre : List Source} {path : String} {N₁ N₂ : List Exchange}
    {r : Except Failure Outcome} (h₁ : ∀ x ∈ N₁, EarlyRequest pre x.request)
    (h : UnreadSoFar pre path N₂ r) : UnreadSoFar pre path (N₁ ++ N₂) r :=
  ⟨fun x hx => (List.mem_append.mp hx).elim (h₁ x) (h.1 x),
    h.2.imp id (EndedEarlier.append_left _)⟩

theorem UnreadSoFar.signaturesUnread {pre : List Source} {path : String} {N : List Exchange}
    {r : Except Failure Outcome} (h : UnreadSoFar pre path N r) : SignaturesUnread pre path N r :=
  ⟨h.1, h.2.imp id .inl⟩

/-- A loop of engine calls that failed met a failure. -/
theorem Calling.raised {γ : Type} {request : γ → Request} {turn : γ → Failure → Failure}
    {items : List γ} {N : List Exchange} {F : Failure}
    (h : Calling request turn items N (.error F)) : ∃ x ∈ N, ∃ X, x.answer = .error X := by
  generalize hr : (Except.error F : Except Failure Unit) = r at h
  induction h with
  | done => cases hr
  | refused a rest X => exact ⟨_, List.mem_singleton_self _, X, rfl⟩
  | next a rest v _ ih =>
    obtain ⟨x, hx, X, hX⟩ := ih hr
    exact ⟨x, List.mem_cons_of_mem _ hx, X, hX⟩

section Unread

variable {tr : Tracer} {seen : FileTree → Prop} {pre post : List Source} {path : String}
  (hpre : ∀ source ∈ pre, ∀ t, seen t → source.isPresent t = true)
  (hmiss : ∀ t, seen t → t.isFile path = false)
include hpre hmiss

/-- **Loading stops at the first missing file**, before any call for it: the loads made are
those of sources before it, and the loading fails for the file unless one of them failed. -/
theorem Loading.unread {N : List Exchange} {r : Except Failure Unit}
    (h : Loading tr seen (pre ++ .file path :: post) N r) :
    ((∀ x ∈ N, ∃ source ∈ pre, x.request = Request.load source) ∧
      (r = .error (Failure.ofSignatureLoad (.fault (missingSignatures path))) ∨
        ∃ x ∈ N, ∃ X, x.answer = .error X)) ∨ TraceStopped tr r := by
  induction pre generalizing N r with
  | nil =>
    -- the missing file comes first: a call for it would need it present
    have hgone : ¬(Source.file path).Present seen := fun ⟨t, ht, hfile⟩ => by
      rw [hmiss t ht] at hfile
      cases hfile
    cases h with
    | missing _ _ _ _ _ => exact .inl ⟨by simp, .inl rfl⟩
    | refused _ _ X hp => exact absurd hp hgone
    | next _ _ v hp _ => exact absurd hp hgone
    | stopped f hpath => exact .inr ⟨hpath, f, rfl⟩
  | cons source pre ih =>
    cases h with
    | missing p rest t ht hfile =>
      -- the first source is a file that is there
      have hsource := hpre _ List.mem_cons_self t ht
      simp [Source.isPresent, hfile] at hsource
    | refused _ _ X _ =>
      refine .inl ⟨fun x hx => ?_, .inr ⟨_, List.mem_singleton_self _, X, rfl⟩⟩
      rw [List.mem_singleton.mp hx]
      exact ⟨source, List.mem_cons_self, rfl⟩
    | next _ _ v _ hrest =>
      refine (ih (fun s hs => hpre s (List.mem_cons_of_mem _ hs)) hrest).imp ?_ id
      rintro ⟨hloads, hr⟩
      refine ⟨fun x hx => ?_,
        hr.imp id fun ⟨x, hx, X, hX⟩ => ⟨x, List.mem_cons_of_mem _ hx, X, hX⟩⟩
      rcases List.mem_cons.mp hx with rfl | hx
      · exact ⟨source, List.mem_cons_self, rfl⟩
      · obtain ⟨s', hs', hreq⟩ := hloads x hx
        exact ⟨s', List.mem_cons_of_mem _ hs', hreq⟩
    | stopped f hpath => exact .inr ⟨hpath, f, rfl⟩

variable {ctx : RunContext} {config : RunConfig}
  (hsrc : config.sources = pre ++ .file path :: post)
include hsrc

theorem Preparing.unread {files : ClassFiles} {N : List Exchange} {r : Except Failure Outcome}
    (h : Preparing tr ctx config seen files N r) :
    UnreadSoFar pre path N r ∨ TraceStopped tr r := by
  cases h with
  | unfound _ hfind =>
    cases hfind with
    | rejected e _ hkind => exact .inl ⟨by simp, .inr (.inr (.inr ⟨e, rfl, hkind⟩))⟩
    | stopped f hpath => exact .inr ⟨hpath, f, rfl⟩
  | unloaded _ hload =>
    rw [hsrc] at hload
    rcases Loading.unread hpre hmiss hload with ⟨hloads, hr⟩ | ⟨hpath, f, hf⟩
    · refine .inl ⟨fun x hx => .inr (.inr (.inr (hloads x hx))), ?_⟩
      rcases hr with hr | hraised
      · cases hr
        exact .inl rfl
      · exact .inr (.inr (.inl hraised))
    · cases hf
      exact .inr ⟨hpath, f, rfl⟩
  | loaded _ hload _ =>
    -- loading cannot go through a missing file
    have hthrough : FailsAs tr ctx config _ _ := hload.failsAs
    rw [hsrc] at hload
    rcases Loading.unread hpre hmiss hload with ⟨-, hr | ⟨x, hx, X, hX⟩⟩ | ⟨-, f, hf⟩
    · cases hr
    · exact absurd hX (hthrough.unfailed x hx X)
    · cases hf

theorem Supported.unread {files : ClassFiles} {N : List Exchange} {r : Except Failure Outcome}
    (h : Supported tr ctx config seen files N r) :
    UnreadSoFar pre path N r ∨ TraceStopped tr r := by
  cases h with
  | unsuppressed hsup =>
    refine .inl ⟨fun x hx => ?_, .inr (.inr (.inl hsup.raised))⟩
    obtain ⟨p, hp⟩ := hsup.requests x hx
    exact .inr (.inr (.inl ⟨p, hp⟩))
  | suppressed hsup hprep =>
    have hearly : ∀ x ∈ _, EarlyRequest pre (Exchange.request x) := fun x hx => by
      obtain ⟨p, hp⟩ := hsup.requests x hx
      exact .inr (.inr (.inl ⟨p, hp⟩))
    exact (Preparing.unread hpre hmiss hsrc hprep).imp (.append_left hearly) id
  | stopped f hpath => exact .inr ⟨hpath, f, rfl⟩

theorem Driving.unread {files : ClassFiles} {N : List Exchange} {r : Except Failure Outcome}
    (h : Driving tr ctx config seen files N r) :
    UnreadSoFar pre path N r ∨ TraceStopped tr r := by
  have hcheck : EarlyRequest pre Request.runtimeCheck := .inr (.inl rfl)
  cases h with
  | failed X => exact .inl ⟨hcheck.singleton _, .inr (.failed X)⟩
  | unsupported v hv _ | skipped v hv _ =>
    exact .inl ⟨hcheck.singleton _, .inr (.inl ⟨v, List.mem_singleton_self _, hv⟩)⟩
  | supported v _ hsup =>
    exact (Supported.unread hpre hmiss hsrc hsup).imp (.append_left (hcheck.singleton _)) id
  | stopped f hpath => exact .inr ⟨hpath, f, rfl⟩

theorem Executing.unread {classpath : List String} {files : ClassFiles} {N : List Exchange}
    {r : Except Failure Outcome} (h : Executing tr ctx config seen classpath files N r) :
    UnreadSoFar pre path N r ∨ TraceStopped tr r := by
  have hbuild : EarlyRequest pre (.build { roots := classpath } config.policy) :=
    .inl ⟨_, _, rfl⟩
  cases h with
  | unacquired f hpath => exact .inr ⟨hpath, f, rfl⟩
  | unbuilt X _ => exact .inl ⟨hbuild.singleton _, .inr (.failed X)⟩
  | driven hdrive _ hrel =>
    -- the release keeps the drive's result, or its trace event stops the run
    rcases hrel with rfl | hstop
    · exact (Driving.unread hpre hmiss hsrc hdrive).imp (.append_left (hbuild.singleton _)) id
    · exact .inr hstop

theorem Body.unread {t : FileTree} {env : Environment} {N : List Exchange}
    {r : Except Failure Outcome} (h : Body tr ctx config seen t env N r) :
    SignaturesUnread pre path N r ∨ TraceStopped tr r := by
  cases h with
  | executed _ _ _ _ _ hexec =>
    exact (Executing.unread hpre hmiss hsrc hexec).imp UnreadSoFar.signaturesUnread id
  | stopped f hpath => exact .inr ⟨hpath, f, rfl⟩
  | _ => exact .inl ⟨by simp, .inr (.inr rfl)⟩

theorem Running.unread {started : Except Failure Unit} {t : FileTree} {env : Environment}
    {N : List Exchange} {r : Except Failure Outcome}
    (h : Running ctx config seen started t env N r) :
    SignaturesUnread pre path N r ∨ TraceStopped (Kernel.tracer ctx) r := by
  cases h with
  | unstarted f _ hpath => exact .inr ⟨hpath, f, rfl⟩
  | ran _ hbody hrel =>
    rcases hrel with rfl | hstop
    · exact Body.unread hpre hmiss hsrc hbody
    · exact .inr hstop

end Unread

/-! ## The whole run -/

/-- Inline signatures and the classes below `/work/c`. -/
def inlineConfig : RunConfig :=
  { classesDirectory := "/work/c", sources := [.inline "java.lang.Thread#stop()"] }

/-- A session whose tree holds one class file, `/work/c/A.class`. -/
def oneClassSession : Session :=
  { tree := (FileTree.initial.put ["work", "c"] .dir).put ["work", "c", "A.class"] (.file []),
    env := Environment.base }

/-- A configuration error whose message holds a lone surrogate. -/
def surrogateRefusal : AuditError :=
  ⟨.configuration, .str "test.code", .str ("bad " ++ String.singleton (Text.ofUnit 0xD800)),
    none⟩

/-- A run with a trace file whose runtime check raises `surrogateRefusal`. -/
def surrogateRefusalRun : Except Failure Outcome × Session :=
  (Kernel.run (.planned .recording [(.isRuntimeSupported, .audit surrogateRefusal)] none)
    { tracePath := some "/work/trace.jsonl" } inlineConfig).run oneClassSession

end ApiAudit
