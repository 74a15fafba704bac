import ApiAudit.Proofs.Kernel

/-!
# Proofs/CallOrder — the engine is asked in one fixed order

A run has a fixed list of engine calls (`callOrder`): the runtime check, one registration per
suppression pattern, one load per signature source that is there to load, the signature check
unless internal runtime classes are forbidden, one registration per class file, the scan.

Every part of a run keeps to its share of that list (`Follows`): its calls are a prefix of it,
and all of it once the part is done.  A whole run (`RunFollows`) calls its factory at most once,
first, and then keeps to `callOrder`, all of it when it ends with an outcome other than a skip
(`Completed`).  The list is read off the tree the run starts in: without a trace file the
tree never changes, and a run whose tree ends as it began had none or stopped at its start
(`engineCalls_follow_callOrder`).
-/

namespace ApiAudit

open Audit

/-- Whether a signature source can be loaded from a tree: a signatures file must be a file. -/
def Source.isPresent (t : FileTree) : Source → Bool
  | .file path => t.isFile path
  | _ => true

theorem Source.isPresent_of_present {t : FileTree} {source : Source}
    (h : source.Present (· = t)) : source.isPresent t = true := by
  cases source with
  | file path =>
    obtain ⟨t', rfl, hfile⟩ := h
    exact hfile
  | _ => rfl

/-- **The engine calls of a run**, in order, for the tree `t`. -/
def callOrder (t : FileTree) (config : RunConfig) : List Request :=
  Request.runtimeCheck :: (config.suppressions.map Request.suppression ++
    ((config.sources.filter (Source.isPresent t)).map Request.load ++
      ((if config.policy.internalRuntimeForbidden.truthy then [] else [Request.signatureCheck]) ++
        ((Kernel.selectIn t config).map (Request.registration config.classesDirectory) ++
          [Request.scan]))))

/-- A result that is an outcome other than a skip. -/
def Completed (r : Except Failure Outcome) : Prop := ∃ o, r = .ok o ∧ o.status ≠ .skipped

@[simp] theorem not_completed_error (F : Failure) : ¬Completed (.error F) := by
  rintro ⟨o, h, -⟩
  cases h

@[simp] theorem not_completed_skip (message : String) :
    ¬Completed (.ok (Outcome.skip message)) := by
  rintro ⟨o, h, hs⟩
  cases h
  exact hs rfl

/-- **The exchanges `N` of a part that ended with `r` keep to `expected`**: their requests are
a prefix of it, and all of it once the part is `done`. -/
def Follows {α : Type} (expected : List Request) (done : Except Failure α → Prop)
    (N : List Exchange) (r : Except Failure α) : Prop :=
  N.map Exchange.request <+: expected ∧ (done r → N.map Exchange.request = expected)

namespace Follows

variable {α β : Type} {expected : List Request} {done : Except Failure α → Prop}
  {N : List Exchange} {r : Except Failure α}

theorem all (h : N.map Exchange.request = expected) : Follows expected done N r :=
  ⟨h ▸ List.prefix_refl _, fun _ => h⟩

theorem stop (h : N.map Exchange.request <+: expected) (hr : ¬done r) :
    Follows expected done N r :=
  ⟨h, fun hd => absurd hd hr⟩

theorem cons (x : Exchange) (h : Follows expected done N r) :
    Follows (x.request :: expected) done (x :: N) r :=
  ⟨List.cons_prefix_cons.mpr ⟨rfl, h.1⟩, fun hd => by simp [h.2 hd]⟩

/-- A part done in full, then the next. -/
theorem append {N₁ : List Exchange} {e₁ : List Request}
    (h₁ : N₁.map Exchange.request = e₁) (h : Follows expected done N r) :
    Follows (e₁ ++ expected) done (N₁ ++ N) r := by
  refine ⟨?_, fun hd => ?_⟩
  · rw [List.map_append, h₁]
    exact List.prefix_append_right_inj _ |>.mpr h.1
  · rw [List.map_append, h₁, h.2 hd]

/-- A part that stopped within the first share of what was expected. -/
theorem within {e₁ : List Request} {done' : Except Failure β → Prop} {r' : Except Failure β}
    (h : Follows e₁ done' N r') (hr : ¬done r) : Follows (e₁ ++ expected) done N r :=
  stop (h.1.trans (List.prefix_append _ _)) hr

end Follows

/-! ## Each part keeps to its share -/

theorem Calling.follows {γ : Type} {request : γ → Request} {turn : γ → Failure → Failure}
    {items : List γ} {N : List Exchange} {r : Except Failure Unit}
    (h : Calling request turn items N r) : Follows (items.map request) (· = .ok ()) N r := by
  induction h with
  | done => exact .all rfl
  | refused a rest X => exact .stop (by simp) (by simp)
  | next a rest v _ ih => exact ih.cons ⟨request a, .ok v⟩

section Untraced

variable {tr : Tracer} (htr : tr.path = none) {t : FileTree}
include htr

theorem Loading.follows {sources : List Source} {N : List Exchange} {r : Except Failure Unit}
    (h : Loading tr (· = t) sources N r) :
    Follows ((sources.filter (Source.isPresent t)).map Request.load) (· = .ok ()) N r := by
  induction h with
  | done => exact .all rfl
  | missing path rest t' ht hfile => exact .stop (List.nil_prefix) (by simp)
  | refused source rest X present =>
    refine .stop ?_ (by simp)
    simp [Source.isPresent_of_present present]
  | next source rest v present _ ih =>
    rw [List.filter_cons_of_pos (Source.isPresent_of_present present), List.map_cons]
    exact ih.cons _
  | stopped f hpath => simp [htr] at hpath

theorem Scanning.follows {config : RunConfig} {count : Nat} {N : List Exchange}
    {r : Except Failure Outcome} (h : Scanning tr config count N r) :
    Follows [Request.scan] Completed N r := by
  cases h with
  | stopped f hpath => simp [htr] at hpath
  | _ => exact .all rfl

theorem Finishing.follows {config : RunConfig} {files : List String} {N : List Exchange}
    {r : Except Failure Outcome} (h : Finishing tr config files N r) :
    Follows (files.map (Request.registration config.classesDirectory) ++ [Request.scan])
      Completed N r := by
  cases h with
  | unregistered hreg => exact hreg.follows.within (not_completed_error _)
  | scanned hreg hscan => exact .append (hreg.follows.2 rfl) (hscan.follows htr)
  | stopped f hpath => simp [htr] at hpath

theorem Checking.follows {ctx : RunContext} {config : RunConfig} {files : List String}
    {N : List Exchange} {r : Except Failure Outcome} (h : Checking tr ctx config files N r) :
    Follows
      ((if config.policy.internalRuntimeForbidden.truthy then [] else [Request.signatureCheck]) ++
        (files.map (Request.registration config.classesDirectory) ++ [Request.scan]))
      Completed N r := by
  cases h with
  | forbidden hirf hfin =>
    rw [hirf, if_pos rfl, List.nil_append]
    exact hfin.follows htr
  | failed X hirf => exact .stop (by simp [hirf]) (not_completed_error _)
  | skipped v hirf _ _ => exact .stop (by simp [hirf]) (not_completed_skip _)
  | rejected v hirf _ _ => exact .stop (by simp [hirf]) (not_completed_error _)
  | confirmed v hirf _ hfin =>
    rw [hirf]
    exact (hfin.follows htr).cons _
  | stopped f hpath => simp [htr] at hpath

omit htr in
/-- Class files obtained in a run that sees one tree are those selected there. -/
theorem Obtained.eq_selectIn {ctx : RunContext} {config : RunConfig} {files : ClassFiles}
    {fs : List String} (h : Obtained tr ctx config (· = t) files fs)
    (hfiles : files = .later ∨ files = .found (Kernel.selectIn t config)) :
    fs = Kernel.selectIn t config := by
  cases h with
  | found fs =>
    rcases hfiles with h | h
    · cases h
    · cases h
      rfl
  | later hfind =>
    cases hfind with
    | found t' ht _ => rw [ht]

theorem Preparing.follows {ctx : RunContext} {config : RunConfig} {files : ClassFiles}
    (hfiles : files = .later ∨ files = .found (Kernel.selectIn t config)) {N : List Exchange}
    {r : Except Failure Outcome} (h : Preparing tr ctx config (· = t) files N r) :
    Follows ((config.sources.filter (Source.isPresent t)).map Request.load ++
      ((if config.policy.internalRuntimeForbidden.truthy then [] else [Request.signatureCheck]) ++
        ((Kernel.selectIn t config).map (Request.registration config.classesDirectory) ++
          [Request.scan]))) Completed N r := by
  cases h with
  | unfound _ _ => exact .stop List.nil_prefix (not_completed_error _)
  | unloaded _ hload => exact (hload.follows htr).within (not_completed_error _)
  | loaded hobtained hload hcheck =>
    rw [← hobtained.eq_selectIn hfiles]
    exact .append ((hload.follows htr).2 rfl) (hcheck.follows htr)

theorem Supported.follows {ctx : RunContext} {config : RunConfig} {files : ClassFiles}
    (hfiles : files = .later ∨ files = .found (Kernel.selectIn t config)) {N : List Exchange}
    {r : Except Failure Outcome} (h : Supported tr ctx config (· = t) files N r) :
    Follows (config.suppressions.map Request.suppression ++
      ((config.sources.filter (Source.isPresent t)).map Request.load ++
        ((if config.policy.internalRuntimeForbidden.truthy then [] else [Request.signatureCheck]) ++
          ((Kernel.selectIn t config).map (Request.registration config.classesDirectory) ++
            [Request.scan])))) Completed N r := by
  cases h with
  | unsuppressed hsup => exact hsup.follows.within (not_completed_error _)
  | suppressed hsup hprep => exact .append (hsup.follows.2 rfl) (hprep.follows htr hfiles)
  | stopped f hpath => simp [htr] at hpath

theorem Driving.follows {ctx : RunContext} {config : RunConfig} {files : ClassFiles}
    (hfiles : files = .later ∨ files = .found (Kernel.selectIn t config)) {N : List Exchange}
    {r : Except Failure Outcome} (h : Driving tr ctx config (· = t) files N r) :
    Follows (callOrder t config) Completed N r := by
  cases h with
  | failed X => exact .stop (by simp [callOrder]) (not_completed_error _)
  | unsupported v _ _ => exact .stop (by simp [callOrder]) (not_completed_error _)
  | skipped v _ _ => exact .stop (by simp [callOrder]) (not_completed_skip _)
  | supported v _ hsup => exact (hsup.follows htr hfiles).cons _
  | stopped f hpath => simp [htr] at hpath

/-- **The exchanges of a run keep to its calls**: none, for a run that came to no outcome
other than a skip, or one call of the factory and then engine calls that keep to `callOrder`. -/
def RunFollows (t : FileTree) (config : RunConfig) (N : List Exchange)
    (r : Except Failure Outcome) : Prop :=
  (N = [] ∧ ¬Completed r) ∨
    ∃ (context : Loader) (a : Except Failure Value) (M : List Exchange),
    N = ⟨.build context config.policy, a⟩ :: M ∧ Follows (callOrder t config) Completed M r

theorem Executing.follows {ctx : RunContext} {config : RunConfig} {classpath : List String}
    {files : ClassFiles} (hfiles : files = .later ∨ files = .found (Kernel.selectIn t config))
    {N : List Exchange} {r : Except Failure Outcome}
    (h : Executing tr ctx config (· = t) classpath files N r) : RunFollows t config N r := by
  cases h with
  | unacquired f hpath => simp [htr] at hpath
  | unbuilt X hrel =>
    rw [hrel.eq_of_untraced htr]
    exact .inr ⟨_, _, [], rfl, .stop List.nil_prefix (not_completed_error _)⟩
  | driven hdrive _ hrel =>
    rw [hrel.eq_of_untraced htr]
    exact .inr ⟨_, _, _, rfl, hdrive.follows htr hfiles⟩

theorem Body.follows {ctx : RunContext} {config : RunConfig} {env : Environment}
    {N : List Exchange} {r : Except Failure Outcome} (h : Body tr ctx config (· = t) t env N r) :
    RunFollows t config N r := by
  cases h with
  | unsignedSkipped _ _ => exact .inl ⟨rfl, not_completed_skip _⟩
  | unsigned _ _ => exact .inl ⟨rfl, not_completed_error _⟩
  | unbuilt F _ _ => exact .inl ⟨rfl, not_completed_error _⟩
  | empty _ _ _ _ _ => exact .inl ⟨rfl, not_completed_skip _⟩
  | executed _ _ _ hfiles _ hexec =>
    refine hexec.follows htr ?_
    rw [hfiles]
    split
    · exact .inr rfl
    · exact .inl rfl
  | stopped f hpath => simp [htr] at hpath

end Untraced

theorem Running.follows {ctx : RunContext} (htr : ctx.tracePath = none) {config : RunConfig}
    {t : FileTree} {started : Except Failure Unit} {env : Environment} {N : List Exchange}
    {r : Except Failure Outcome} (h : Running ctx config (· = t) started t env N r) :
    RunFollows t config N r := by
  cases h with
  | unstarted f _ hpath => simp [htr] at hpath
  | ran _ hbody hrel =>
    rw [hrel.eq_of_untraced htr]
    exact hbody.follows htr

end ApiAudit
