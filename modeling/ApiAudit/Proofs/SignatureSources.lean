import ApiAudit.Signature.Source

/-!
# Proofs/SignatureSources — what a sequence of calls leaves in a collection of sources

A client adds signature sources one call at a time (`Sources.Call`): a bundled set by name and
version hint, an inline text, a file path.  A refused call returns no sources, and the client goes
on with the ones it had (`Sources.replay`).

Judged on its own arguments, each call asks for at most one source, its **candidate**
(`Call.candidate`): a bundled set under its trimmed name, with its trimmed hint when that is a
non-blank text; an inline text that is not blank; a file, its path with `~` expanded and made
absolute.  Two sources are **the same one** (`Source.sameAs`) when they are bundled sets of one
name or files of one path.

* `replay_sources` — from no sources, a sequence of calls leaves the candidates, in call order,
  of the calls whose candidate no earlier call asked for (`expected`); no two of them are the
  same source; the missing-hint flag is up exactly when one of them is a bundled set without a
  hint; and a call is refused, whatever the sources, exactly when its arguments are
  (`Call.refusal`).

All of it rests on one equation for a single call (`step_eq`): the sources grow by the
candidate unless the same source is there already.  The collection keeps no index of its names
and paths beside the list; it looks them up in the list, so the two cannot drift apart.
-/

namespace ApiAudit

/-- **Two sources are one**: bundled sets of one name, or files of one path.  Inline texts are
never the same source, not even when equal. -/
def Source.sameAs : Source → Source → Bool
  | .bundled n _, .bundled n' _ => n == n'
  | .file p, .file p' => p == p'
  | _, _ => false

/-- A bundled set without a version hint. -/
def Source.lacksHint : Source → Bool
  | .bundled _ none => true
  | _ => false

@[simp] theorem Source.lacksHint_bundled (n : String) (hint : Option String) :
    (Source.bundled n hint).lacksHint = hint.isNone := by
  cases hint <;> rfl

theorem Source.sameAs_trans {a b c : Source} (hab : a.sameAs b = true) (hbc : b.sameAs c = true) :
    a.sameAs c = true := by
  cases a <;> cases b <;> cases c <;> simp_all [sameAs]

theorem Source.lacksHint_iff {src : Source} : src.lacksHint = true ↔ ∃ n, src = .bundled n none := by
  cases src with
  | bundled n hint => cases hint <;> simp [lacksHint]
  | inline text => simp [lacksHint]
  | file path => simp [lacksHint]

namespace Sources

/-! ## Calls, and a sequence of them -/

/-- One call on a collection of sources, with its arguments as the caller gives them. -/
inductive Call where
  | bundled (name hint : Value)
  | inline (text : Value)
  | file (path : Value)

/-- Makes one call. -/
def Call.apply (env : Environment) (s : Sources) : Call → Except Fault Sources
  | .bundled name hint => s.addBundled name hint
  | .inline text => s.addInline text
  | .file path => s.addFile env path

/-- The sources after a call; a refused call leaves them as they were. -/
def step (env : Environment) (s : Sources) (c : Call) : Sources :=
  match c.apply env s with
  | .ok s' => s'
  | .error _ => s

/-- **Makes calls one after another**, from the sources `s`. -/
def replay (env : Environment) (s : Sources) (calls : List Call) : Sources :=
  calls.foldl (step env) s

/-! ## What the calls ask for -/

/-- The version hint a bundled set keeps: a text that is not blank, trimmed. -/
def keptHint : Value → Option String
  | .str t => if Text.isBlankText t then none else some (Text.trim t)
  | _ => none

/-- **The source a call asks for**, judged on its own arguments. -/
def Call.candidate (env : Environment) : Call → Option Source
  | .bundled (.str raw) hint =>
    if (Text.trim raw).isEmpty then none else some (.bundled (Text.trim raw) (keptHint hint))
  | .inline (.str t) => if Text.isBlankText t then none else some (.inline t)
  | .file (.str p) => (filePath env p).toOption.map .file
  | _ => none

/-- **Why a call is refused**: a name or text that is no text, a path that is no text, or a
path whose `~` names a user that cannot be looked up. -/
def Call.refusal (env : Environment) : Call → Option Fault
  | .bundled (.str _) _ | .inline (.str _) => none
  | .bundled v _ | .inline v => some (Fault.cannotTrim v)
  | .file (.str p) =>
    match filePath env p with
    | .ok _ => none
    | .error f => some f
  | .file v => some (Fault.notAPath v)

/-- A candidate, kept unless `held` says the same source is there already. -/
def keepNew (held : Source → Bool) : Option Source → List Source
  | some src => if held src then [] else [src]
  | none => []

/-- Whether one of the calls `earlier` asked for the same source. -/
def askedBefore (env : Environment) (earlier : List Call) (src : Source) : Bool :=
  earlier.any fun c => (c.candidate env).any (·.sameAs src)

/-- **The sources a sequence of calls should add** after the calls `earlier`: in call order, each
call's candidate, unless an earlier call asked for the same source. -/
def expectedAfter (env : Environment) (earlier : List Call) : List Call → List Source
  | [] => []
  | c :: rest => keepNew (askedBefore env earlier) (c.candidate env) ++ expectedAfter env (earlier ++ [c]) rest

/-- The sources a sequence of calls should leave, from none. -/
def expected (env : Environment) (calls : List Call) : List Source := expectedAfter env [] calls

/-! ## One call

`hasBundled` and `hasFile` look a source up in the list, so each is `held` for the list.  The
equation `step_eq` then covers every call: the sources grow by the candidate unless the list
holds the same source, and the flag goes up with a bundled set that lacks a hint. -/

/-- Whether the sources hold one the same as `src`. -/
def holds (s : Sources) (src : Source) : Bool := s.items.any (·.sameAs src)

theorem hasBundled_eq_holds (s : Sources) (n : String) (hint : Option String) :
    s.hasBundled n = s.holds (.bundled n hint) := by
  unfold hasBundled holds
  congr 1
  funext src
  cases src <;> rfl

theorem hasFile_eq_holds (s : Sources) (p : String) : s.hasFile p = s.holds (.file p) := by
  unfold hasFile holds
  congr 1
  funext src
  cases src <;> rfl

theorem holds_inline (s : Sources) (t : String) : s.holds (.inline t) = false := by
  simp only [holds, List.any_eq_false]
  intro src _
  cases src <;> simp [Source.sameAs]

/-- A bundled set by a text name, its hint as `keptHint` reads it. -/
theorem addBundled_str (s : Sources) (raw : String) (hint : Value) :
    s.addBundled (.str raw) hint =
      if (Text.trim raw).isEmpty || s.hasBundled (Text.trim raw) then .ok s
      else .ok { items := s.items ++ [.bundled (Text.trim raw) (keptHint hint)],
                 missingHint := s.missingHint || (keptHint hint).isNone } := by
  cases hint <;> rfl

/-- A file by a text path: nothing added when the sources hold the path already. -/
theorem addFile_str (s : Sources) (env : Environment) (p : String) :
    s.addFile env (.str p) =
      (filePath env p).map fun full =>
        if s.hasFile full then s else { s with items := s.items ++ [.file full] } := by
  simp only [addFile]
  cases filePath env p <;> rfl

/-- **What one call does**: the candidate joins the sources unless they hold the same source. -/
theorem step_eq (env : Environment) (s : Sources) (c : Call) :
    step env s c =
      { items := s.items ++ keepNew s.holds (c.candidate env),
        missingHint := s.missingHint || (keepNew s.holds (c.candidate env)).any Source.lacksHint } := by
  cases c with
  | bundled name hint =>
    cases name
    case str raw =>
      simp only [step, Call.apply, addBundled_str, Call.candidate]
      by_cases hblank : (Text.trim raw).isEmpty
      · simp [hblank, keepNew]
      · rw [hasBundled_eq_holds s _ (keptHint hint)]
        by_cases hheld : s.holds (.bundled (Text.trim raw) (keptHint hint)) <;>
          simp [hblank, hheld, keepNew]
    all_goals simp [step, Call.apply, addBundled, Call.candidate, keepNew]
  | inline text =>
    cases text
    case str t =>
      simp only [step, Call.apply, addInline, Call.candidate]
      by_cases hblank : Text.isBlankText t <;> simp [hblank, keepNew, holds_inline, Source.lacksHint]
    all_goals simp [step, Call.apply, addInline, Call.candidate, keepNew]
  | file path =>
    cases path
    case str p =>
      simp only [step, Call.apply, addFile_str, Call.candidate]
      cases filePath env p with
      | error f => simp [Except.map, Except.toOption, keepNew]
      | ok full =>
        rw [Except.map, hasFile_eq_holds]
        by_cases hheld : s.holds (.file full) <;>
          simp [Except.toOption, hheld, keepNew, Source.lacksHint]
    all_goals simp [step, Call.apply, addFile, Call.candidate, keepNew]

/-- **Why a call fails**: its arguments alone decide it, before the sources are looked at. -/
theorem apply_error_iff (env : Environment) (c : Call) (s : Sources) (f : Fault) :
    c.apply env s = .error f ↔ c.refusal env = some f := by
  cases c with
  | bundled name hint =>
    cases name
    case str raw =>
      simp only [Call.apply, addBundled_str, Call.refusal]
      split <;> simp
    all_goals simp [Call.apply, addBundled, Call.refusal]
  | inline text =>
    cases text
    case str t =>
      simp only [Call.apply, addInline, Call.refusal]
      split <;> simp
    all_goals simp [Call.apply, addInline, Call.refusal]
  | file path =>
    cases path
    case str p =>
      simp only [Call.apply, addFile_str, Call.refusal]
      cases filePath env p <;> simp [Except.map]
    all_goals simp [Call.apply, addFile, Call.refusal]

/-! ## A sequence of calls

Three invariants carry a replay: the sources hold exactly what the calls so far asked for
(`Asked`), no two of them are the same source (`Distinct`), and the missing-hint flag says
whether a bundled set lacks a hint (`HintFlagged`).  Each is kept by a call (`step_eq`), so by
every replay (`replay_invariant`). -/

section Replay

variable {env : Environment}

theorem replay_cons (s : Sources) (c : Call) (rest : List Call) :
    replay env s (c :: rest) = replay env (step env s c) rest := rfl

/-- **A property every call keeps holds after any sequence of calls.** -/
theorem replay_invariant {P : Sources → Prop} (hstep : ∀ s c, P s → P (step env s c)) :
    ∀ (calls : List Call) (s : Sources), P s → P (replay env s calls) := by
  intro calls
  induction calls with
  | nil => exact fun _ h => h
  | cons c rest ih => exact fun s h => ih (step env s c) (hstep s c h)

/-- The sources hold one the same as a source exactly when one of the calls `earlier` asked for
it. -/
def Asked (env : Environment) (earlier : List Call) (s : Sources) : Prop :=
  s.holds = askedBefore env earlier

/-- A call adds to what the sources hold exactly what it asks for: a candidate it leaves out is
the same as a source held already, and so is anything the same as it. -/
theorem holds_step (s : Sources) (c : Call) (src : Source) :
    (step env s c).holds src = (s.holds src || (c.candidate env).any (·.sameAs src)) := by
  have hitems : (step env s c).holds src =
      (s.holds src || (keepNew s.holds (c.candidate env)).any (·.sameAs src)) := by
    rw [step_eq]
    simp only [holds, List.any_append]
  rw [hitems]
  cases hc : c.candidate env with
  | none => simp [keepNew]
  | some x =>
    by_cases hx : s.holds x = true
    · have hsame : x.sameAs src = true → s.holds src = true := by
        intro hxs
        obtain ⟨a, ha, hax⟩ := List.any_eq_true.mp hx
        exact List.any_eq_true.mpr ⟨a, ha, Source.sameAs_trans hax hxs⟩
      cases hxs : x.sameAs src <;> simp_all [keepNew]
    · simp [keepNew, hx]

theorem Asked.step {earlier : List Call} {s : Sources} (h : Asked env earlier s) (c : Call) :
    Asked env (earlier ++ [c]) (step env s c) := by
  funext src
  rw [holds_step, h]
  simp [askedBefore, List.any_append]

/-- **The sources a replay leaves**: those it started with, then those the calls should add. -/
theorem replay_items_of_asked {earlier : List Call} {s : Sources} (h : Asked env earlier s)
    (rest : List Call) : (replay env s rest).items = s.items ++ expectedAfter env earlier rest := by
  induction rest generalizing earlier s with
  | nil => simp [replay, expectedAfter]
  | cons c rest ih =>
    have hitems : (step env s c).items = s.items ++ keepNew (askedBefore env earlier) (c.candidate env) := by
      rw [step_eq, ← h]
    rw [replay_cons, ih (h.step c), hitems, expectedAfter, List.append_assoc]

/-- No two sources are the same one. -/
def Distinct (s : Sources) : Prop := s.items.Pairwise fun a b => a.sameAs b = false

theorem Distinct.step {s : Sources} (h : Distinct s) (c : Call) : Distinct (step env s c) := by
  unfold Distinct at h ⊢
  rw [step_eq]
  cases c.candidate env with
  | none => simpa [keepNew] using h
  | some x =>
    by_cases hx : s.holds x = true
    · simpa [keepNew, hx] using h
    · -- the new source is the same as none held
      have hnew : ∀ a ∈ s.items, a.sameAs x = false := by
        simpa [holds, List.any_eq_false] using hx
      simp only [keepNew, hx, Bool.false_eq_true, ↓reduceIte]
      exact List.pairwise_append.mpr ⟨h, List.pairwise_singleton _ _,
        fun a ha b hb => (List.mem_singleton.mp hb) ▸ hnew a ha⟩

/-- The missing-hint flag is up exactly when some bundled set lacks a hint. -/
def HintFlagged (s : Sources) : Prop := s.missingHint = s.items.any Source.lacksHint

theorem HintFlagged.step {s : Sources} (h : HintFlagged s) (c : Call) :
    HintFlagged (step env s c) := by
  unfold HintFlagged at h ⊢
  rw [step_eq]
  simp [h, List.any_append]

end Replay

/-- A repeated bundled name keeps its first hint. -/
example : (replay Environment.base {} [.bundled (.str "jdk-unsafe") (.str "11"),
    .bundled (.str " jdk-unsafe ") (.str "17")]).items = [.bundled "jdk-unsafe" (some "11")] := by
  decide

end Sources

end ApiAudit
