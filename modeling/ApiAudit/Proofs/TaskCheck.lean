import Mathlib
import ApiAudit.Proofs.ExitCodes
import ApiAudit.Task.Check

/-!
# Proofs/TaskCheck — how the build task's check ends

The build task resolves its configuration from its properties, picks an engine factory and
runs the audit.  What a stage raises is either tolerated as a skip or turned into a task
failure (`CheckTask.translate`); the task makes its result of the audit's with
`CheckTask.settle`.

Resolution is taken apart with `FailsWith x E` — every failure of `x` satisfies `E` — one
step at a time (`FailsWith.bind`).  Resolving a task configuration fails only with a
configuration error or a fault, and refuses a configuration for missing signatures only when
the configuration names no signature source (`Config.resolveTask_fails`); a configuration that
resolves names one, or forbids internal runtime classes (`Config.resolveTask_signed`).

The check is cut at its stages (`check_missing`, `check_unreadable`, `check_refused`,
`check_resolved`), and the inductive `Checked` lists the ways it ends.

* `CheckTask.check_ends` — the check ends as `Checked` says; it returns only a pass or a skip,
  and fails only with a task failure or a fault.
* `CheckTask.surrogateVariable_escapes_task` — a variable name that cannot be looked up stops
  the check with a fault, which is no task failure.
-/

namespace ApiAudit

open Audit

/-! ## Computations that may fail -/

section Failures

variable {ε ε' α β : Type} {E : ε → Prop}

/-- **Every failure of `x` satisfies `E`.** -/
def FailsWith (x : Except ε α) (E : ε → Prop) : Prop := ∀ F, x = .error F → E F

namespace FailsWith

theorem ok (a : α) : FailsWith (.ok a : Except ε α) E := fun _ h => by cases h

theorem error {F : ε} (h : E F) : FailsWith (.error F : Except ε α) E := fun _ hF => by
  cases hF
  exact h

theorem mono {x : Except ε α} {E' : ε → Prop} (h : FailsWith x E) (hE : ∀ F, E F → E' F) :
    FailsWith x E' := fun F hF => hE F (h F hF)

/-- **A failure of a bind** is one of its first step, or one of the rest once the first step
returned. -/
theorem bind {x : Except ε α} {f : α → Except ε β} (hx : FailsWith x E)
    (hf : ∀ a, x = .ok a → FailsWith (f a) E) : FailsWith (x >>= f) E := by
  intro F hF
  cases hx' : x with
  | error F' =>
    rw [hx'] at hF
    cases hF
    exact hx _ hx'
  | ok a =>
    rw [hx'] at hF
    exact hf a hx' F hF

theorem foldlM {f : β → α → Except ε β} (hf : ∀ b a, FailsWith (f b a) E) :
    ∀ (l : List α) (b : β), FailsWith (l.foldlM f b) E
  | [], b => ok b
  | a :: l, b => by
    rw [List.foldlM_cons]
    exact bind (hf b a) fun b' _ => foldlM hf l b'

theorem mapM {f : α → Except ε β} (hf : ∀ a, FailsWith (f a) E) :
    ∀ l : List α, FailsWith (l.mapM f) E
  | [] => ok []
  | a :: l => by
    rw [List.mapM_cons]
    exact bind (hf a) fun b _ => bind (mapM hf l) fun bs _ => ok (b :: bs)

theorem mapError {x : Except ε' α} {g : ε' → ε} (hg : ∀ e, E (g e)) :
    FailsWith (x.mapError g) E := by
  cases x with
  | error e => exact error (hg e)
  | ok a => exact ok a

end FailsWith

end Failures

/-- **An invariant of a fold's steps holds of its result.** -/
theorem foldlM_ok_inv {ε α β : Type} {f : β → α → Except ε β} (I : β → Prop)
    (hf : ∀ b a b', I b → f b a = .ok b' → I b') :
    ∀ (l : List α) (b b' : β), I b → l.foldlM f b = .ok b' → I b'
  | [], b, b', hb, h => by
    cases h
    exact hb
  | a :: l, b, b', hb, h => by
    rw [List.foldlM_cons, bind_eq_ok] at h
    obtain ⟨b₁, h₁, h⟩ := h
    exact foldlM_ok_inv I hf l b₁ b' (hf b a b₁ hb h₁) h

/-- **What resolving a configuration may fail with**: a configuration error, with the code
`signatures.none` only where `unsigned` holds, or a fault; never a task failure. -/
def Failure.Resolving (unsigned : Prop) : Failure → Prop
  | .audit e => e.kind = .configuration ∧ (e.hasCode "signatures.none" = true → unsigned)
  | .task _ => False
  | .fault _ => True

namespace Failure

variable {P Q : Prop}

theorem Resolving.mono {F : Failure} (h : F.Resolving P) (hPQ : P → Q) : F.Resolving Q := by
  cases F with
  | audit e => exact ⟨h.1, fun hcode => hPQ (h.2 hcode)⟩
  | task _ => exact h.elim
  | fault _ => trivial

theorem resolving_fault (f : Fault) : (Failure.fault f).Resolving P := trivial

/-- A configuration error with another code than `signatures.none`. -/
theorem resolving_config {code message : String} {data : Option Value}
    (h : code ≠ "signatures.none") : (Failure.config code message data).Resolving P := by
  refine ⟨rfl, fun hcode => absurd ?_ h⟩
  simpa [Failure.config, AuditError.config, AuditError.make, AuditError.hasCode, Value.equals,
    Value.sameKey] using hcode

end Failure

/-! ## Blank texts -/

namespace Text

/-- Dropping the leading blanks leaves nothing exactly when every character is blank. -/
theorem dropBlank_eq_nil_iff {cs : List Char} : dropBlank cs = [] ↔ ∀ c ∈ cs, isBlank c = true :=
  List.dropWhile_eq_nil_iff

/-- What is left after the leading blanks is all blank only when nothing is left. -/
theorem all_blank_dropBlank {cs : List Char} :
    (∀ c ∈ dropBlank cs, isBlank c = true) ↔ dropBlank cs = [] := by
  constructor
  · intro h
    cases hd : dropBlank cs with
    | nil => rfl
    | cons c rest =>
      have hc : isBlank c = false := trim_head_not_blank cs c rest hd
      rw [hd] at h
      simp [h c List.mem_cons_self] at hc
  · intro h c hc
    rw [h] at hc
    cases hc

/-- **Trimming leaves nothing exactly of a blank text.** -/
theorem trim_eq_empty_iff {s : String} : trim s = "" ↔ isBlankText s = true := by
  unfold trim isBlankText
  rw [String.ofList_eq_empty_iff, List.reverse_eq_nil_iff, dropBlank_eq_nil_iff]
  simp only [List.mem_reverse]
  rw [all_blank_dropBlank, dropBlank_eq_nil_iff, List.all_eq_true]

/-- **A trimmed text is blank exactly when the text was.** -/
theorem isBlankText_trim (s : String) : isBlankText (trim s) = isBlankText s := by
  have h : isBlankText (trim s) = true ↔ trim s = "" := by
    unfold isBlankText
    rw [List.all_eq_true]
    unfold trim
    simp only [String.toList_ofList, List.mem_reverse]
    rw [all_blank_dropBlank, String.ofList_eq_empty_iff, List.reverse_eq_nil_iff]
  rw [Bool.eq_iff_iff, h, trim_eq_empty_iff]

/-- Texts joined together are blank only when each one is. -/
theorem isBlankText_join {xs : List String} {x : String} (hx : x ∈ xs)
    (hblank : isBlankText x = false) : isBlankText (String.join xs) = false := by
  unfold isBlankText at *
  rw [String.toList_join, List.all_flatMap, List.all_eq_false]
  exact ⟨x, hx, by simpa using hblank⟩

end Text

/-! ## Signature sources -/

namespace Sources

theorem items_ne_nil_of_hasBundled {s : Sources} {name : String} (h : s.hasBundled name = true) :
    s.items ≠ [] := by
  rintro hnil
  simp [hasBundled, hnil] at h

theorem items_ne_nil_of_hasFile {s : Sources} {path : String} (h : s.hasFile path = true) :
    s.items ≠ [] := by
  rintro hnil
  simp [hasFile, hnil] at h

/-- **A bundled name that is not blank leaves a source**, as does one added to sources. -/
theorem addBundled_items_ne_nil {s s' : Sources} {name : String} {hint : Value}
    (h : s.addBundled (.str name) hint = .ok s') (hgrow : s.items ≠ [] ∨ Text.isBlankText name = false) :
    s'.items ≠ [] := by
  unfold addBundled at h
  dsimp only at h
  split at h
  · rename_i hskip
    cases h
    rcases hgrow with hne | hname
    · exact hne
    · -- a name that is not blank is kept, so it was skipped as one already there
      have htrim : (Text.trim name).isEmpty = false := by
        rw [Bool.eq_false_iff, ne_eq, String.isEmpty_iff, Text.trim_eq_empty_iff, hname]
        simp
      simp only [htrim, Bool.false_or] at hskip
      exact items_ne_nil_of_hasBundled hskip
  · cases h
    simp

/-- **A signature file always leaves a source.** -/
theorem addFile_items_ne_nil {s s' : Sources} {env : Environment} {path : Value}
    (h : s.addFile env path = .ok s') : s'.items ≠ [] := by
  unfold addFile at h
  split at h
  · rw [bind_eq_ok] at h
    obtain ⟨full, -, h⟩ := h
    simp only [pure, Except.pure, Except.ok.injEq] at h
    subst h
    split
    · exact items_ne_nil_of_hasFile ‹_›
    · simp
  · cases h

/-- **An inline text that is not blank leaves a source**, as does one added to sources. -/
theorem addInline_items_ne_nil {s s' : Sources} {text : String}
    (h : s.addInline (.str text) = .ok s') (hgrow : s.items ≠ [] ∨ Text.isBlankText text = false) :
    s'.items ≠ [] := by
  simp only [addInline] at h
  split at h
  · rename_i hblank
    cases h
    rcases hgrow with hne | htext
    · exact hne
    · simp [htext] at hblank
  · cases h
    simp

/-- **Sources folded up are empty only when they were, and no item added one.** -/
theorem foldlM_items_eq_nil {α : Type} {f : Sources → α → Except Fault Sources} (Q : α → Prop)
    (hf : ∀ s a s', f s a = .ok s' → s.items ≠ [] ∨ Q a → s'.items ≠ []) :
    ∀ {l : List α} {s s' : Sources}, l.foldlM f s = .ok s' → s'.items = [] →
      s.items = [] ∧ ∀ a ∈ l, ¬Q a
  | [], s, s', h, hnil => by
    cases h
    exact ⟨hnil, by simp⟩
  | a :: l, s, s', h, hnil => by
    rw [List.foldlM_cons, bind_eq_ok] at h
    obtain ⟨s₁, h₁, h⟩ := h
    obtain ⟨hs₁, hl⟩ := foldlM_items_eq_nil Q hf h hnil
    obtain ⟨hs, hq⟩ := not_or.mp fun hgrow => hf s a s₁ h₁ hgrow hs₁
    refine ⟨not_not.mp hs, fun b hb => ?_⟩
    rcases List.mem_cons.mp hb with rfl | hb
    · exact hq
    · exact hl b hb

end Sources

/-! ## What resolving a configuration fails with -/

namespace Config

/-- **A task configuration with no signature source**: no inline signature, bundled signature
name or signature file, and internal runtime classes not forbidden. -/
def NoSignatureSource (raw : Value) : Prop :=
  textList raw "signatures" = .ok [] ∧ textList raw "bundled_signatures" = .ok [] ∧
    textList raw "signatures_files" = .ok [] ∧ switch raw "internal_runtime_forbidden" = .ok false

theorem liftFault_ok {α : Type} {x : Except Fault α} {a : α} (h : liftFault x = .ok a) :
    x = .ok a := by
  cases x <;> simp_all [liftFault]

theorem liftFault_fails {α : Type} {P : Prop} (x : Except Fault α) :
    FailsWith (liftFault x) (Failure.Resolving P) := by
  cases x with
  | error f => exact .error (Failure.resolving_fault f)
  | ok a => exact .ok a

theorem textList_fails (raw : Value) (key : String) (sep : Option String) :
    FailsWith (textList raw key sep) (Failure.Resolving False) := by
  unfold textList
  split
  · exact .ok _
  · exact .ok _
  · refine FailsWith.foldlM (fun _ item => ?_) _ _
    split
    · exact .ok _
    · exact .error (Failure.resolving_config (by decide))
  · exact .error (Failure.resolving_config (by decide))

/-- The parts of a text are not blank. -/
theorem not_blank_of_mem_parts {sep : Option String} {s x : String} (hx : x ∈ parts sep s) :
    Text.isBlankText x = false := by
  simp only [parts, List.mem_filter, List.mem_map, Bool.not_eq_eq_eq_not, Bool.not_true] at hx
  obtain ⟨⟨p, -, rfl⟩, hne⟩ := hx
  rw [Text.isBlankText_trim, Bool.eq_false_iff, ne_eq, ← Text.trim_eq_empty_iff,
    ← String.isEmpty_iff, hne]
  simp

/-- **Every item of a text list is a part of one of its texts.** -/
theorem textList_mem_parts {raw : Value} {key : String} {sep : Option String} {xs : List String}
    (h : textList raw key sep = .ok xs) : ∀ x ∈ xs, ∃ s, x ∈ parts sep s := by
  unfold textList at h
  split at h
  · cases h
    simp
  · cases h
    exact fun x hx => ⟨_, hx⟩
  · -- every item of the list adds its parts
    refine foldlM_ok_inv (fun acc => ∀ x ∈ acc, ∃ s, x ∈ parts sep s) ?_ _ [] xs (by simp) h
    intro acc item acc' hacc hstep
    split at hstep
    · cases hstep
      intro x hx
      rcases List.mem_append.mp hx with hx | hx
      · exact hacc x hx
      · exact ⟨_, hx⟩
    · cases hstep
  · cases h

/-- **The items of a text list are not blank.** -/
theorem textList_not_blank {raw : Value} {key : String} {sep : Option String} {xs : List String}
    (h : textList raw key sep = .ok xs) : ∀ x ∈ xs, Text.isBlankText x = false := fun x hx => by
  obtain ⟨s, hs⟩ := textList_mem_parts h x hx
  exact not_blank_of_mem_parts hs

theorem switch_fails (raw : Value) (key : String) (dflt : Bool) :
    FailsWith (switch raw key dflt) (Failure.Resolving False) := by
  unfold switch
  split
  · exact .ok _
  · exact .ok _
  · exact .error (Failure.resolving_config (by decide))

theorem classesDirectory_fails (env : Environment) (raw : Value) (key : String) :
    FailsWith (classesDirectory env raw key) (Failure.Resolving False) := by
  unfold classesDirectory
  split
  · split
    · exact .error (Failure.resolving_config (by decide))
    · exact FailsWith.mapError Failure.resolving_fault
  · exact .error (Failure.resolving_config (by decide))

/-- **Only sources left empty, with internal runtime classes allowed, are refused.** -/
theorem requireSignatures_fails (sources : Sources) (policy : Policy) (hint : String) :
    FailsWith (requireSignatures sources policy hint)
      (Failure.Resolving (sources.items = [] ∧ policy.internalRuntimeForbidden.truthy = false)) := by
  unfold requireSignatures
  split
  · rename_i hrefused
    simp only [Bool.and_eq_true, List.isEmpty_iff, Bool.not_eq_eq_eq_not, Bool.not_true] at hrefused
    exact .error ⟨rfl, fun _ => hrefused⟩
  · exact .ok ()

theorem entry_fails (env : Environment) (raw : Value) :
    FailsWith (Classpath.entry env raw) (Failure.Resolving False) := by
  unfold Classpath.entry
  split
  · split
    · exact .error (Failure.resolving_config (by decide))
    · split
      · exact .error (Failure.resolving_config (by decide))
      · refine .bind (FailsWith.mapError Failure.resolving_fault) fun root _ => ?_
        split
        · exact .ok _
        · exact .error (Failure.resolving_config (by decide))
  · exact .error (Failure.resolving_fault _)

theorem assemble_fails (env : Environment) (dir : String) (pats : Patterns) (sources : Sources)
    (policy : Policy) : FailsWith (assemble env dir pats sources policy) (Failure.Resolving False) := by
  unfold assemble
  exact .bind (FailsWith.mapM (fun e => entry_fails env (.str e)) _) fun _ _ => .ok _

/-- **Inline signatures leave a source.** -/
theorem inline_items_ne_nil {raw : Value} {inline : List String} {s₁ : Sources}
    (hinline : textList raw "signatures" = .ok inline) (hne : inline ≠ [])
    (hs₁ : liftFault (({} : Sources).addInline (.str (String.join (inline.map (· ++ "\n"))))) =
      .ok s₁) : s₁.items ≠ [] := by
  obtain ⟨x, rest, rfl⟩ := List.exists_cons_of_ne_nil hne
  -- the first inline signature is not blank, so neither is the text of them all
  have hx : Text.isBlankText (x ++ "\n") = false := by
    have hblank := textList_not_blank hinline x List.mem_cons_self
    unfold Text.isBlankText at hblank ⊢
    simp [String.toList_append, hblank]
  exact Sources.addInline_items_ne_nil (liftFault_ok hs₁)
    (.inr (Text.isBlankText_join (List.mem_map_of_mem List.mem_cons_self) hx))

/-- **Sources left empty came from lists that named none**: no bundled name (each one is not
blank) and no signature file (each one leaves a source). -/
theorem noSignatureSource_of_items_eq_nil {env : Environment} {raw target : Value}
    {names files : List String} {internal : Bool} {s₁ s₂ s₃ : Sources}
    (hinline : s₁.items = [] → textList raw "signatures" = .ok [])
    (hnames : textList raw "bundled_signatures" = .ok names)
    (hs₂ : liftFault (names.foldlM (fun s n => s.addBundled (.str n) target) s₁) = .ok s₂)
    (hfiles : textList raw "signatures_files" = .ok files)
    (hs₃ : liftFault (files.foldlM (fun s p => s.addFile env (.str p)) s₂) = .ok s₃)
    (hinternal : switch raw "internal_runtime_forbidden" = .ok internal)
    (hnil : s₃.items = []) (hallowed : internal = false) : NoSignatureSource raw := by
  obtain ⟨hs₂nil, hnofile⟩ := Sources.foldlM_items_eq_nil (fun _ => True)
    (fun _ _ _ h _ => Sources.addFile_items_ne_nil h) (liftFault_ok hs₃) hnil
  obtain ⟨hs₁nil, hblank⟩ := Sources.foldlM_items_eq_nil (Text.isBlankText · = false)
    (fun _ _ _ h hgrow => Sources.addBundled_items_ne_nil h hgrow) (liftFault_ok hs₂) hs₂nil
  have hfiles_nil : files = [] :=
    List.eq_nil_iff_forall_not_mem.mpr fun p hp => hnofile p hp trivial
  have hnames_nil : names = [] :=
    List.eq_nil_iff_forall_not_mem.mpr fun n hn => hblank n hn (textList_not_blank hnames n hn)
  exact ⟨hinline hs₁nil, hnames_nil ▸ hnames, hfiles_nil ▸ hfiles, hallowed ▸ hinternal⟩

/-- **Resolving a task configuration fails only with a configuration error or a fault**, and
refuses it for missing signatures only when it names no signature source. -/
theorem resolveTask_fails (env : Environment) (raw : Value) :
    FailsWith (resolveTask env raw) (Failure.Resolving (NoSignatureSource raw)) := by
  have plain : ∀ {α : Type} {x : Except Failure α}, FailsWith x (Failure.Resolving False) →
      FailsWith x (Failure.Resolving (NoSignatureSource raw)) :=
    fun h => h.mono fun _ hF => hF.mono False.elim
  unfold resolveTask
  refine .bind (plain (classesDirectory_fails env raw _)) fun _ _ => ?_
  refine .bind (plain (switch_fails raw _ _)) fun _ _ => ?_
  refine .bind (plain (switch_fails raw _ _)) fun _ _ => ?_
  refine .bind (plain (switch_fails raw _ _)) fun _ _ => ?_
  refine .bind (plain (switch_fails raw _ _)) fun internal hinternal => ?_
  refine .bind (plain (switch_fails raw _ _)) fun _ _ => ?_
  refine .bind (plain (switch_fails raw _ _)) fun _ _ => ?_
  dsimp only
  refine .bind (plain (textList_fails raw _ _)) fun inline hinline => ?_
  -- inline signatures, when given, are one more source before the others
  split
  on_goal 1 =>
    rename_i hempty
    refine .bind (.ok _) fun s₁ _ => ?_
    have hinline_nil : s₁.items = [] → textList raw "signatures" = .ok [] := fun _ =>
      List.isEmpty_iff.mp hempty ▸ hinline
  on_goal 2 =>
    rename_i hempty
    refine .bind (plain (liftFault_fails _)) fun s₁ hs₁ => ?_
    have hinline_nil : s₁.items = [] → textList raw "signatures" = .ok [] := fun hnil =>
      absurd hnil (inline_items_ne_nil hinline (fun h => by simp [h] at hempty) hs₁)
  all_goals
    refine .bind (plain (textList_fails raw _ _)) fun names hnames => ?_
    refine .bind (plain (liftFault_fails _)) fun s₂ hs₂ => ?_
    refine .bind (plain (textList_fails raw _ _)) fun files hfiles => ?_
    refine .bind (plain (liftFault_fails _)) fun s₃ hs₃ => ?_
    refine .bind ((requireSignatures_fails _ _ _).mono fun _ hF => hF.mono ?_) fun _ _ => ?_
    · rintro ⟨hnil, hallowed⟩
      exact noSignatureSource_of_items_eq_nil hinline_nil hnames hs₂ hfiles hs₃ hinternal hnil
        (by simpa [Value.truthy] using hallowed)
    refine .bind (plain (textList_fails raw _ _)) fun _ _ => ?_
    refine .bind (plain (textList_fails raw _ _)) fun _ _ => ?_
    refine .bind (plain (textList_fails raw _ _)) fun _ _ => ?_
    refine .bind (plain (textList_fails raw _ _)) fun _ _ => ?_
    exact plain (assemble_fails _ _ _ _ _)

theorem requireSignatures_ok {sources : Sources} {policy : Policy} {hint : String} {u : Unit}
    (h : requireSignatures sources policy hint = .ok u) :
    ¬(sources.items = [] ∧ policy.internalRuntimeForbidden.truthy = false) := by
  rintro ⟨hnil, hallowed⟩
  simp [requireSignatures, hnil, hallowed] at h

theorem assemble_sources {env : Environment} {dir : String} {pats : Patterns} {sources : Sources}
    {policy : Policy} {config : RunConfig} (h : assemble env dir pats sources policy = .ok config) :
    config.sources = sources.items ∧ config.policy = policy := by
  unfold assemble at h
  simp only [bind_eq_ok, pure, Except.pure, Except.ok.injEq] at h
  obtain ⟨_, -, rfl⟩ := h
  exact ⟨rfl, rfl⟩

/-- **A resolved task configuration names a signature source**, or forbids internal runtime
classes: the run never meets a configuration without signatures. -/
theorem resolveTask_signed {env : Environment} {raw : Value} {config : RunConfig}
    (h : resolveTask env raw = .ok config) : ¬config.Unsigned := by
  unfold resolveTask at h
  simp only [bind_eq_ok] at h
  repeat' obtain ⟨_, _, h⟩ := h
  split at h <;> simp only [bind_eq_ok] at h <;> repeat' obtain ⟨_, _, h⟩ := h
  all_goals
    obtain ⟨hsources, hpolicy⟩ := assemble_sources h
    rw [RunConfig.Unsigned, hsources, hpolicy]
    exact requireSignatures_ok ‹requireSignatures _ _ _ = .ok _›

/-- **A task configuration with no signature source never resolves.** -/
theorem resolveTask_ne_ok_of_noSignatureSource {env : Environment} {raw : Value}
    {config : RunConfig} (hno : NoSignatureSource raw) : resolveTask env raw ≠ .ok config := by
  obtain ⟨hinline, hnames, hfiles, hinternal⟩ := hno
  intro h
  unfold resolveTask at h
  rw [hinline, hnames, hfiles, hinternal] at h
  -- with every list empty the sources stay empty, and the signature check refuses them
  simp only [bind_eq_ok, Except.ok.injEq, exists_eq_left', List.isEmpty_nil, if_true,
    List.foldlM_nil, pure, Except.pure, liftFault] at h
  repeat' obtain ⟨_, _, h⟩ := h
  exact requireSignatures_ok ‹requireSignatures _ _ _ = .ok _› ⟨rfl, rfl⟩

end Config

namespace CheckTask

/-! ## The stages of the check -/

/-- The failure of a task without its classes directory or classpath. -/
def missingFailure (t : CheckTask) : Failure :=
  .task ⟨.invalidUserData, t.name, .str "Missing 'classes_dir' or 'classpath' property.",
    .str "config.invalid"⟩

/-- The failure of a task whose audit found violations. -/
def violationFailure (t : CheckTask) (o : Outcome) : Failure :=
  .task ⟨.execution, t.name,
    if o.message.truthy then o.message else .str "Forbidden API usage detected", .str "violation"⟩

/-- Whether the task tolerates a refusal of its configuration: one for missing signatures, where
it does not fail on unresolvable signatures. -/
def tolerates (t : CheckTask) (e : AuditError) : Bool :=
  e.kind == .configuration && e.hasCode "signatures.none" && !t.failOnUnresolvableSignatures.truthy

/-- **What the task makes of a refused configuration**: a skip where it tolerates the refusal,
else the refusal translated. -/
def refusal (t : CheckTask) : Failure → Except Failure Outcome
  | .audit e =>
    if t.tolerates e then .ok (Outcome.skip noSignaturesSkip)
    else .error (if e.kind == .configuration then t.translate e else .audit e)
  | F => .error F

/-- **The audit of a resolved configuration**: the engine factory, then the run. -/
def audit (t : CheckTask) (given : Option Engine.Factory) (config : RunConfig) : Audit Outcome := do
  let factory ← t.factoryFor given
  Kernel.run factory (t.runContext config) config

/-- **What the task makes of its audit's result**: an audit error becomes its translation,
violations fail the task, and any other result is the task's. -/
def settle (t : CheckTask) : Except Failure Outcome → Except Failure Outcome
  | .error (.audit e) => .error (t.translate e)
  | .error F => .error F
  | .ok o => if o.status == .violations then .error (t.violationFailure o) else .ok o

variable {t : CheckTask} {given : Option Engine.Factory} {s : Session}

section Stages

variable (given)

theorem check_missing (hm : (t.classesDir.isNull || t.classpath.isNull) = true) :
    (t.check given).run s = (.error t.missingFailure, s) := by
  unfold check
  rw [if_pos hm, run_bind_error (run_throw _ s)]
  rfl

theorem check_unreadable (hm : (t.classesDir.isNull || t.classpath.isNull) = false) {f : Fault}
    (hp : t.properties s.env = .error f) :
    (t.check given).run s = (.error (.fault f), s) := by
  unfold check
  rw [if_neg (by simp [hm])]
  simp only [run_bind, run_get, run_lift, hp, Except.mapError]

theorem check_refused (hm : (t.classesDir.isNull || t.classpath.isNull) = false) {props : Value}
    (hp : t.properties s.env = .ok props) {F : Failure}
    (hr : Config.resolveTask s.env props = .error F) :
    ((t.check given).run s).1 = t.refusal F ∧ ((t.check given).run s).2.exchanges = s.exchanges := by
  unfold check
  rw [if_neg (by simp [hm])]
  simp only [run_bind, run_get, run_lift, hp, Except.mapError, hr]
  cases F with
  | audit e =>
    simp only [refusal, tolerates]
    split <;> rename_i htol <;> simp [htol, run_map]
  | task f => simp [refusal]
  | fault f => simp [refusal]

theorem check_resolved (hm : (t.classesDir.isNull || t.classpath.isNull) = false) {props : Value}
    (hp : t.properties s.env = .ok props) {config : RunConfig}
    (hr : Config.resolveTask s.env props = .ok config) :
    ∃ s₁ : Session, s₁.env = s.env ∧ s₁.tree = s.tree ∧ s₁.exchanges = s.exchanges ∧
      ((t.check given).run s).1 = t.settle ((t.audit given config).run s₁).1 ∧
      ((t.check given).run s).2 = ((t.audit given config).run s₁).2 := by
  unfold check
  rw [if_neg (by simp [hm])]
  simp only [run_bind, run_get, run_lift, hp, Except.mapError, hr]
  have haudit : (do
      let factory ← t.factoryFor given
      Kernel.run factory (t.runContext config) config) = t.audit given config := rfl
  -- the warning of a missing target only adds a log record
  split
  on_goal 1 =>
    refine ⟨{ s with journal := s.journal ++ [.logged .warning missingTargetWarning] }, rfl, rfl,
      rfl, ?_⟩
    simp only [run_bind, run_log, run_attempt, haudit]
  on_goal 2 =>
    refine ⟨s, rfl, rfl, rfl, ?_⟩
    simp only [run_bind, run_attempt, haudit]
  all_goals
    generalize (t.audit given config).run _ = p
    obtain ⟨_ | o, s₂⟩ := p
    · rename_i F
      cases F <;> exact ⟨rfl, rfl⟩
    · simp only [settle]
      split <;> simp [violationFailure]

end Stages

/-- **The factory the task picks**: the given one, else the one its engine spec names, read in
the session's environment.  Picking it changes nothing. -/
theorem run_factoryFor (t : CheckTask) (given : Option Engine.Factory) (s : Session) :
    (t.factoryFor given).run s = ((match given with
      | some f => .ok f
      | none => Engine.resolveSpec s.env t.engine >>= fun spec => Engine.loadFactory (.str spec)),
      s) := by
  cases given with
  | some f => rfl
  | none =>
    simp only [factoryFor, run_bind, run_get, run_lift]
    cases Engine.resolveSpec s.env t.engine <;> rfl

/-- Picking the factory reads only the environment. -/
theorem run_factoryFor_of_env {t : CheckTask} {given : Option Engine.Factory} {s s' : Session}
    (h : s'.env = s.env) : (t.factoryFor given).run s' = (((t.factoryFor given).run s).1, s') := by
  rw [run_factoryFor, run_factoryFor, h]

theorem run_audit (t : CheckTask) (given : Option Engine.Factory) (config : RunConfig)
    (s : Session) :
    (t.audit given config).run s = match ((t.factoryFor given).run s).1 with
      | .error F => (.error F, s)
      | .ok factory => (Kernel.run factory (t.runContext config) config).run s := by
  unfold audit
  obtain ⟨r, hr⟩ : ∃ r, (t.factoryFor given).run s = (r, s) := ⟨_, run_factoryFor t given s⟩
  rw [run_bind, hr]
  cases r <;> rfl

/-! ## What the task makes of its audit -/

theorem settle_ok {r : Except Failure Outcome} {o : Outcome} (h : t.settle r = .ok o) :
    r = .ok o ∧ o.status ≠ .violations := by
  unfold settle at h
  split at h
  · cases h
  · cases h
  · rename_i o'
    split at h
    · cases h
    · rename_i hstatus
      cases h
      exact ⟨rfl, by simpa using hstatus⟩

/-- **The task returns only a pass or a skip.** -/
theorem settle_returns {r : Except Failure Outcome} {o : Outcome} (h : t.settle r = .ok o) :
    o.status = .passed ∨ o.status = .skipped := by
  have hstatus := (settle_ok h).2
  cases hs : o.status <;> simp_all

/-- **The task fails only with a task failure or a fault**: the audit errors are translated. -/
theorem settle_fails {r : Except Failure Outcome} {F : Failure} (h : t.settle r = .error F) :
    (∃ f, F = .task f) ∨ ∃ f, F = .fault f := by
  unfold settle at h
  split at h
  · cases h
    exact .inl ⟨_, rfl⟩
  · rename_i hnot
    cases h
    cases F with
    | audit e => exact absurd rfl (hnot e)
    | task f => exact .inl ⟨f, rfl⟩
    | fault f => exact .inr ⟨f, rfl⟩
  · split at h
    · cases h
      exact .inl ⟨_, rfl⟩
    · cases h

/-- The task is skipped exactly when its audit is. -/
theorem settle_skipped {r : Except Failure Outcome} :
    EndedWith (t.settle r) .skipped ↔ EndedWith r .skipped := by
  constructor
  · rintro ⟨o, ho, hs⟩
    exact ⟨o, (settle_ok ho).1, hs⟩
  · rintro ⟨o, rfl, hs⟩
    exact ⟨o, by simp [settle, hs], hs⟩

/-- **The task failure of an audit error** keeps its message and code and names the task: bad
input and bad signatures are invalid user data, unreadable resources a resource failure, and
every other error a failed execution. -/
theorem translate_kind (t : CheckTask) (e : AuditError) :
    ∃ k, t.translate e = .task ⟨k, t.name, e.message, e.code⟩ ∧
      (k = .invalidUserData ↔ e.kind = .configuration ∨ e.kind = .signatureParse) ∧
      (k = .resource ↔ e.kind = .resource) := by
  refine ⟨_, rfl, ?_⟩
  cases e.kind <;> simp

/-! ## How the task's check ends -/

/-- **How the task's check ends**, run from the session `s`, with the exchanges `N` it added and
its result. -/
inductive Checked (t : CheckTask) (given : Option Engine.Factory) (s : Session) :
    List Exchange → Except Failure Outcome → Prop
  /-- A task without its classes directory or classpath is invalid user data. -/
  | missing : (t.classesDir.isNull || t.classpath.isNull) = true →
      Checked t given s [] (.error t.missingFailure)
  /-- Properties that cannot be resolved against the project stop the task with their fault. -/
  | unreadable {f : Fault} : (t.classesDir.isNull || t.classpath.isNull) = false →
      t.properties s.env = .error f → Checked t given s [] (.error (.fault f))
  /-- A configuration with no signature source skips the task before any engine is picked,
  where the task does not fail on unresolvable signatures. -/
  | unsigned {props : Value} {e : AuditError} : (t.classesDir.isNull || t.classpath.isNull) = false →
      t.properties s.env = .ok props → Config.resolveTask s.env props = .error (.audit e) →
      e.hasCode "signatures.none" = true → Config.NoSignatureSource props →
      t.failOnUnresolvableSignatures.truthy = false →
      Checked t given s [] (.ok (Outcome.skip noSignaturesSkip))
  /-- Any other configuration error fails the task as its translation. -/
  | refused {props : Value} {e : AuditError} : (t.classesDir.isNull || t.classpath.isNull) = false →
      t.properties s.env = .ok props → Config.resolveTask s.env props = .error (.audit e) →
      e.kind = .configuration →
      (e.hasCode "signatures.none" = true →
        Config.NoSignatureSource props ∧ t.failOnUnresolvableSignatures.truthy = true) →
      Checked t given s [] (.error (t.translate e))
  /-- A fault while resolving the configuration stops the task with it. -/
  | faulted {props : Value} {f : Fault} : (t.classesDir.isNull || t.classpath.isNull) = false →
      t.properties s.env = .ok props → Config.resolveTask s.env props = .error (.fault f) →
      Checked t given s [] (.error (.fault f))
  /-- An engine factory that cannot be had fails the task as what the task makes of it. -/
  | noFactory {props : Value} {config : RunConfig} {F : Failure} :
      (t.classesDir.isNull || t.classpath.isNull) = false → t.properties s.env = .ok props →
      Config.resolveTask s.env props = .ok config → (t.factoryFor given).run s = (.error F, s) →
      Checked t given s [] (t.settle (.error F))
  /-- **The audit ran** on a configuration that names signatures, from a session `s₁` that
  differs from `s` only in its log, and the task makes its result of the run's. -/
  | ran {props : Value} {config : RunConfig} {factory : Engine.Factory} {s₁ : Session}
      {N : List Exchange} {r : Except Failure Outcome} :
      (t.classesDir.isNull || t.classpath.isNull) = false → t.properties s.env = .ok props →
      Config.resolveTask s.env props = .ok config → ¬config.Unsigned →
      (t.factoryFor given).run s = (.ok factory, s) →
      s₁.env = s.env → s₁.tree = s.tree → s₁.exchanges = s.exchanges →
      ((Kernel.run factory (t.runContext config) config).run s₁).2.exchanges = s₁.exchanges ++ N →
      ((Kernel.run factory (t.runContext config) config).run s₁).1 = r →
      OutcomeLaws (Kernel.tracer (t.runContext config)) (t.runContext config) config s.env
        ((Kernel.start (t.runContext config) config).run s₁).2.tree N r →
      Checked t given s N (t.settle r)

variable {N : List Exchange} {r : Except Failure Outcome}

/-- **A checked task returns only a pass or a skip.** -/
theorem Checked.returns (h : Checked t given s N r) {o : Outcome} (ho : r = .ok o) :
    o.status = .passed ∨ o.status = .skipped := by
  cases h with
  | unsigned =>
    cases ho
    exact .inr rfl
  | noFactory => exact settle_returns ho
  | ran => exact settle_returns ho
  | missing => cases ho
  | unreadable => cases ho
  | refused => cases ho
  | faulted => cases ho

/-- **A checked task fails only with a task failure or a fault.** -/
theorem Checked.fails (h : Checked t given s N r) {F : Failure} (hF : r = .error F) :
    (∃ f, F = .task f) ∨ ∃ f, F = .fault f := by
  cases h with
  | missing =>
    cases hF
    exact .inl ⟨_, rfl⟩
  | unreadable =>
    cases hF
    exact .inr ⟨_, rfl⟩
  | unsigned => cases hF
  | refused =>
    cases hF
    exact .inl ⟨_, rfl⟩
  | faulted =>
    cases hF
    exact .inr ⟨_, rfl⟩
  | noFactory => exact settle_fails hF
  | ran => exact settle_fails hF

/-- **A task with no signature source is decided before any engine**: it makes no exchange, and
the only outcome it can return is the skip for missing signatures. -/
theorem Checked.noSignatureSource (h : Checked t given s N r) {props : Value}
    (hp : t.properties s.env = .ok props) (hno : Config.NoSignatureSource props) :
    N = [] ∧ ∀ o, r = .ok o → o = Outcome.skip noSignaturesSkip := by
  cases h with
  | unsigned =>
    refine ⟨rfl, fun o ho => ?_⟩
    cases ho
    rfl
  | noFactory => exact ⟨rfl, fun o ho => by cases (settle_ok ho).1⟩
  | ran _ hp' hr =>
    rw [hp] at hp'
    cases hp'
    exact absurd hr (Config.resolveTask_ne_ok_of_noSignatureSource hno)
  | missing => exact ⟨rfl, fun o ho => by cases ho⟩
  | unreadable => exact ⟨rfl, fun o ho => by cases ho⟩
  | refused => exact ⟨rfl, fun o ho => by cases ho⟩
  | faulted => exact ⟨rfl, fun o ho => by cases ho⟩

section Ends

variable (given)

/-- A refused configuration ends the check with no exchange. -/
theorem checked_of_refused (hm : (t.classesDir.isNull || t.classpath.isNull) = false)
    {props : Value} (hp : t.properties s.env = .ok props) {F : Failure}
    (hr : Config.resolveTask s.env props = .error F) :
    ((t.check given).run s).2.exchanges = s.exchanges ∧
      Checked t given s [] ((t.check given).run s).1 := by
  obtain ⟨hresult, hex⟩ := check_refused given hm hp hr
  refine ⟨hex, ?_⟩
  rw [hresult]
  have hF := Config.resolveTask_fails s.env props F hr
  cases F with
  | audit e =>
    obtain ⟨hkind, hunsigned⟩ := hF
    by_cases htol : e.hasCode "signatures.none" = true ∧ t.failOnUnresolvableSignatures.truthy = false
    · have hskip : t.tolerates e = true := by simp [tolerates, hkind, htol.1, htol.2]
      simp only [refusal, hskip, if_true]
      exact .unsigned hm hp hr htol.1 (hunsigned htol.1) htol.2
    · have hfail : t.tolerates e = false := by
        simp only [tolerates, hkind, beq_self_eq_true, Bool.true_and, Bool.and_eq_false_iff,
          Bool.not_eq_eq_eq_not, Bool.not_false]
        by_cases hcode : e.hasCode "signatures.none" = true
        · exact .inr (by simpa [hcode] using htol)
        · exact .inl (by simpa using hcode)
      simp only [refusal, hfail, hkind, beq_self_eq_true, if_true, Bool.false_eq_true, if_false]
      exact .refused hm hp hr hkind fun hcode => ⟨hunsigned hcode, by simpa [hcode] using htol⟩
  | task f => exact hF.elim
  | fault f => exact .faulted hm hp hr

/-- A resolved configuration ends the check as its audit, from a session that differs only in
its log. -/
theorem checked_of_resolved (hm : (t.classesDir.isNull || t.classpath.isNull) = false)
    {props : Value} (hp : t.properties s.env = .ok props) {config : RunConfig}
    (hr : Config.resolveTask s.env props = .ok config) :
    ∃ N, ((t.check given).run s).2.exchanges = s.exchanges ++ N ∧
      Checked t given s N ((t.check given).run s).1 := by
  obtain ⟨s₁, henv, htree, hex, hresult, hsession⟩ := check_resolved given hm hp hr
  rw [hresult, hsession, run_audit, run_factoryFor_of_env henv]
  rcases hpick : ((t.factoryFor given).run s).1 with F | factory
  · refine ⟨[], by simp [hex], .noFactory hm hp hr ?_⟩
    rw [run_factoryFor_of_env rfl, hpick]
  · obtain ⟨N, hN, hlaws, -⟩ := run_outcomeLaws_translated factory (t.runContext config) config s₁
    have hfac : (t.factoryFor given).run s = (.ok factory, s) := by
      rw [run_factoryFor_of_env rfl, hpick]
    refine ⟨N, by rw [hN, hex], .ran hm hp hr (Config.resolveTask_signed hr) hfac henv htree hex
      hN rfl (henv ▸ hlaws)⟩

end Ends

theorem check_checked (t : CheckTask) (given : Option Engine.Factory) (s : Session) :
    ∃ N, ((t.check given).run s).2.exchanges = s.exchanges ++ N ∧
      Checked t given s N ((t.check given).run s).1 := by
  cases hm : (t.classesDir.isNull || t.classpath.isNull) with
  | true =>
    rw [check_missing given hm]
    exact ⟨[], by simp, .missing hm⟩
  | false =>
    cases hp : t.properties s.env with
    | error f =>
      rw [check_unreadable given hm hp]
      exact ⟨[], by simp, .unreadable hm hp⟩
    | ok props =>
      cases hr : Config.resolveTask s.env props with
      | error F =>
        obtain ⟨hex, hchecked⟩ := checked_of_refused given hm hp hr
        exact ⟨[], by simp [hex], hchecked⟩
      | ok config => exact checked_of_resolved given hm hp hr

/-- **How the task's check ends**, whatever its properties, the engine it is given or picks, and
the session.  An audit error becomes a task failure that keeps its message and code and names
the task, of a kind set by the error's.  The check ends in one of the ways `Checked` lists: a
task without its classes directory or classpath is invalid user data; a configuration error is
translated, except that a configuration with no signature source skips the task where it does
not fail on unresolvable signatures; otherwise the audit runs on a configuration that names
signatures, its audit errors are translated and its violations fail the task.  A configuration
with no signature source is decided before any engine: no exchange, and no outcome but that
skip.  So the task returns only a pass or a skip, and fails only with a task failure or a
fault. -/
theorem check_ends (t : CheckTask) (given : Option Engine.Factory) (s : Session) :
    (∀ e, ∃ k, t.translate e = .task ⟨k, t.name, e.message, e.code⟩ ∧
      (k = .invalidUserData ↔ e.kind = .configuration ∨ e.kind = .signatureParse) ∧
      (k = .resource ↔ e.kind = .resource)) ∧
    ∃ N, ((t.check given).run s).2.exchanges = s.exchanges ++ N ∧
      Checked t given s N ((t.check given).run s).1 ∧
      (∀ props, t.properties s.env = .ok props → Config.NoSignatureSource props →
        N = [] ∧ ∀ o, ((t.check given).run s).1 = .ok o → o = Outcome.skip noSignaturesSkip) ∧
      (∀ o, ((t.check given).run s).1 = .ok o → o.status = .passed ∨ o.status = .skipped) ∧
      ∀ F, ((t.check given).run s).1 = .error F → (∃ f, F = .task f) ∨ ∃ f, F = .fault f := by
  obtain ⟨N, hN, hchecked⟩ := check_checked t given s
  exact ⟨translate_kind t, N, hN, hchecked, fun _ hp hno => hchecked.noSignatureSource hp hno,
    fun _ ho => hchecked.returns ho, fun _ hF => hchecked.fails hF⟩

/-- A task whose classes directory names the variable `${\ud800}`: a name that no environment
can hold, since it cannot be written as a file-system name. -/
def surrogateVariableTask : CheckTask :=
  { classesDir := .str ("c$\x7b" ++ String.singleton (Text.ofUnit 0xD800) ++ "\x7d"),
    classpath := .list [], bundledSignatures := .list [.str "jdk-unsafe-1.8"] }

/-- **A variable name that cannot be looked up escapes the task as a fault**: the lookup fails
while the configuration is resolved, and only audit errors are translated. -/
theorem surrogateVariable_escapes_task :
    ∃ f, ((surrogateVariableTask.check (some (.planned .recording [] none))).run
      oneClassSession).1 = .error (.fault f) ∧ f.kind = .unicodeEncode :=
  ⟨_, rfl, rfl⟩

end CheckTask

end ApiAudit
