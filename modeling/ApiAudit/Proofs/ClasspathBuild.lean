import Mathlib
import ApiAudit.Proofs.ClasspathRoots
import ApiAudit.Proofs.TaskCheck

/-!
# Proofs/ClasspathBuild — the roots of a classpath, or the first value refused

`Classpath.build` checks the user entries and then the classes directory, one after another, and
stops at the first refusal.  One text passes (`Classpath.Accepted`) when it is not blank, holds
no NUL character, expands (`~`, then variables) to an absolute path, and that path has a file
address.  It is refused (`Classpath.Refusal`) at the first of these checks that fails: the three
checks of its own text give the configuration error `classpath.invalid`; an expansion that fails
gives the fault of the name it looked up, which is a `UnicodeEncodeError` (`normalize_fails`).

* `mapM_ok_or_first_error` — a list of checks either passes item by item, or fails as its first
  refused item does;
* `Classpath.build_roots_or_first_refusal` — so the roots are one absolute path per value, in
  order and with repetitions kept, or the failure is the first refused value's: a
  `classpath.invalid` error or a lookup's `UnicodeEncodeError`;
* `Classpath.surrogateName_escapes_classpath` — a variable named by a lone surrogate makes the
  build fail with that fault, which is no `classpath.invalid` error.
-/

namespace ApiAudit

/-- **A list of checks runs until the first refusal**: either every item passes, each giving its
result in order, or some item is refused after every item before it passed, and the whole fails
as that item does. -/
theorem mapM_ok_or_first_error {ε α β : Type} (f : α → Except ε β) :
    ∀ l : List α, (∃ ys, l.mapM f = .ok ys ∧ List.Forall₂ (fun x y => f x = .ok y) l ys) ∨
      ∃ pre x post e, l = pre ++ x :: post ∧ (∀ v ∈ pre, ∃ y, f v = .ok y) ∧ f x = .error e ∧
        l.mapM f = .error e
  | [] => .inl ⟨[], rfl, .nil⟩
  | a :: l => by
    cases ha : f a with
    | error e =>
      refine .inr ⟨[], a, l, e, rfl, by simp, ha, ?_⟩
      simp [ha, bind, Except.bind]
    | ok b =>
      rcases mapM_ok_or_first_error f l with ⟨ys, hys, hall⟩ | ⟨pre, x, post, e, rfl, hpre, hx, hl⟩
      · exact .inl ⟨b :: ys, by simp [ha, hys, bind, Except.bind, pure, Except.pure], .cons ha hall⟩
      · refine .inr ⟨a :: pre, x, post, e, rfl, ?_, hx, by simp [ha, hl, bind, Except.bind]⟩
        intro v hv
        rcases List.mem_cons.mp hv with rfl | hv
        · exact ⟨b, ha⟩
        · exact hpre v hv

namespace Environment

/-! ## Which lookups fail

A name is looked up to expand `~name` and `$NAME`; the lookup fails when the name cannot be
written as a file-system name, and for a user name also when it holds a NUL character. -/

variable (env : Environment)

theorem nameFault?_kind {name : String} {f : Fault} (h : nameFault? name = some f) :
    f.kind = .unicodeEncode := by
  unfold nameFault? at h
  obtain ⟨r, -, rfl⟩ := Option.map_eq_some_iff.mp h
  rfl

theorem userHome?_fails {name : String} (hnul : '\x00' ∉ name.toList) :
    FailsWith (userHome? name) (·.kind = .unicodeEncode) := by
  unfold userHome?
  split
  · exact .error (nameFault?_kind ‹_›)
  · rw [if_neg (by simpa using hnul)]
    exact .ok _

theorem lookupName_fails (name : List Char) :
    FailsWith (env.lookupName name) (·.kind = .unicodeEncode) := by
  unfold lookupName
  dsimp only
  split
  · exact .error (nameFault?_kind ‹_›)
  · exact .ok _

/-- **Expanding `~` fails only at a name that cannot be written**, when the text holds no NUL
character. -/
theorem expandUser_fails {s : String} (hnul : '\x00' ∉ s.toList) :
    FailsWith (env.expandUser s) (·.kind = .unicodeEncode) := by
  unfold expandUser
  split
  · rename_i rest hs
    rcases hspan : rest.span (· ≠ '/') with ⟨name, tail⟩
    -- the user name is a prefix of the text, so it holds no NUL either
    have hname : '\x00' ∉ (String.ofList name).toList := by
      rw [String.toList_ofList]
      intro hmem
      rw [List.span_eq_takeWhile_dropWhile, Prod.mk.injEq] at hspan
      exact hnul (hs ▸ List.mem_cons_of_mem _ (List.takeWhile_subset _ (hspan.1 ▸ hmem)))
    dsimp only
    -- `~` alone reads `HOME`, `~name` looks the user up
    split
    · exact .bind (.ok _) fun home _ => by split <;> exact .ok _
    · exact .bind (userHome?_fails hname) fun home _ => by split <;> exact .ok _
  · exact .ok _

/-- **Expanding variables fails only at a name that cannot be written.** -/
theorem expandVarsAux_fails (fuel : Nat) (cs acc : List Char) :
    FailsWith (env.expandVarsAux fuel cs acc) (·.kind = .unicodeEncode) := by
  fun_induction expandVarsAux env fuel cs acc with
  | case1 => exact .ok _
  | case2 => exact .ok _
  | case3 fuel acc inner name after _ hsome hnone =>
    -- the one lookup of a name in braces
    exact .bind (lookupName_fails env name) fun v _ => by
      cases v with
      | some v => exact hsome v
      | none => exact hnone
  | case4 => assumption
  | case5 fuel rest acc name tail hspan hname _ ih =>
    rw [show List.span.loop isNameChar rest [] = (name, tail) from hspan]
    simpa [hname] using ih
  | case6 fuel rest acc name tail hspan hname home hhome _ ih =>
    rw [show List.span.loop isNameChar rest [] = (name, tail) from hspan]
    simpa [hname, hhome] using ih
  | case7 fuel rest acc name tail hspan hname hhome _ ih =>
    rw [show List.span.loop isNameChar rest [] = (name, tail) from hspan]
    simpa [hname, hhome] using ih
  | case8 => assumption

theorem expandVars_fails (s : String) : FailsWith (env.expandVars s) (·.kind = .unicodeEncode) := by
  unfold expandVars
  intro f hf
  cases h : env.expandVarsAux s.length s.toList [] with
  | error f' =>
    rw [h] at hf
    cases hf
    exact expandVarsAux_fails env _ _ _ f h
  | ok cs => simp [h, Except.map] at hf

end Environment

namespace Classpath

/-! ## One classpath value -/

/-- **A classpath text the entry check accepts**, with the root it gives: not blank, no NUL
character, expanded to an absolute path, and that path has a file address. -/
def Accepted (env : Environment) (s r : String) : Prop :=
  Text.isBlankText s = false ∧ '\x00' ∉ s.toList ∧ normalize env s = .ok r ∧ hasAddress r = true

/-- **Why the entry check refuses a classpath text**, the checks in their order: a blank text, a
NUL character, an expansion that fails, a root without a file address. -/
inductive Refusal (env : Environment) (s : String) : Failure → Prop
  | blank : Text.isBlankText s = true → Refusal env s blankEntry
  | nul : Text.isBlankText s = false → '\x00' ∈ s.toList → Refusal env s (nulEntry s)
  | lookup {f : Fault} : Text.isBlankText s = false → '\x00' ∉ s.toList →
      normalize env s = .error f → Refusal env s (.fault f)
  | addressless {r : String} : Text.isBlankText s = false → '\x00' ∉ s.toList →
      normalize env s = .ok r → hasAddress r = false → Refusal env s (addresslessEntry s)

variable {env : Environment} {s r : String} {e : Failure}

/-- **Normalizing fails only at a name that cannot be written**, when the text holds no NUL
character. -/
theorem normalize_fails (hnul : '\x00' ∉ s.toList) :
    FailsWith (normalize env s) (·.kind = .unicodeEncode) := by
  unfold normalize
  exact .bind (env.expandUser_fails hnul) fun u _ => .bind (env.expandVars_fails u) fun _ _ => .ok _

/-- **A refusal is a `classpath.invalid` error or the fault of a lookup.** -/
theorem Refusal.invalid_or_lookup (h : Refusal env s e) :
    (∃ message data, e = .config "classpath.invalid" message data) ∨
      ∃ f, e = .fault f ∧ f.kind = .unicodeEncode := by
  cases h with
  | blank => exact .inl ⟨_, _, rfl⟩
  | nul => exact .inl ⟨_, _, rfl⟩
  | lookup _ hnul hf => exact .inr ⟨_, rfl, normalize_fails hnul _ hf⟩
  | addressless => exact .inl ⟨_, _, rfl⟩

/-- The entry check of a text, its checks in their order. -/
theorem entry_str (env : Environment) (s : String) :
    entry env (.str s) =
      if Text.isBlankText s then .error blankEntry
      else if '\x00' ∈ s.toList then .error (nulEntry s)
      else match normalize env s with
        | .error f => .error (.fault f)
        | .ok r => if hasAddress r then .ok r else .error (addresslessEntry s) := by
  unfold entry
  by_cases hblank : Text.isBlankText s = true
  · simp [hblank]
  by_cases hnul : '\x00' ∈ s.toList
  · simp [hblank, hnul]
  simp only [hblank, hnul, Bool.false_eq_true, if_false, List.contains_iff_mem]
  cases normalize env s with
  | error f => rfl
  | ok root => by_cases haddr : hasAddress root = true <;> simp [haddr, bind, Except.bind,
      Except.mapError, pure, Except.pure, throw, throwThe, MonadExceptOf.throw]

theorem entry_str_ok_iff : entry env (.str s) = .ok r ↔ Accepted env s r := by
  rw [entry_str, Accepted]
  by_cases hblank : Text.isBlankText s = true
  · simp [hblank]
  by_cases hnul : '\x00' ∈ s.toList
  · simp [hblank, hnul]
  simp only [hblank, hnul, Bool.false_eq_true, if_false, not_false_eq_true, true_and]
  cases normalize env s with
  | error f => simp
  | ok root =>
    by_cases haddr : hasAddress root = true
    · simp only [haddr, if_true, Except.ok.injEq]
      exact ⟨fun h => h ▸ ⟨rfl, haddr⟩, fun h => h.1⟩
    · simp only [haddr, Bool.false_eq_true, if_false, reduceCtorEq, Except.ok.injEq, false_iff,
        not_and]
      rintro rfl
      simpa using haddr

theorem entry_str_error_iff : entry env (.str s) = .error e ↔ Refusal env s e := by
  rw [entry_str]
  constructor
  · intro h
    by_cases hblank : Text.isBlankText s = true
    · rw [if_pos hblank, Except.error.injEq] at h
      exact h ▸ .blank hblank
    rw [Bool.not_eq_true] at hblank
    by_cases hnul : '\x00' ∈ s.toList
    · rw [if_neg (by simp [hblank]), if_pos hnul, Except.error.injEq] at h
      exact h ▸ .nul hblank hnul
    rw [if_neg (by simp [hblank]), if_neg hnul] at h
    cases hn : normalize env s with
    | error f =>
      rw [hn, Except.error.injEq] at h
      exact h ▸ .lookup hblank hnul hn
    | ok root =>
      rw [hn] at h
      dsimp only at h
      by_cases haddr : hasAddress root = true
      · rw [if_pos haddr] at h
        cases h
      · rw [if_neg haddr, Except.error.injEq] at h
        exact h ▸ .addressless hblank hnul hn (by simpa using haddr)
  · intro h
    cases h with
    | blank hblank => simp [hblank]
    | nul hblank hnul => simp [hblank, hnul]
    | lookup hblank hnul hn => simp [hblank, hnul, hn]
    | addressless hblank hnul hn haddr => simp [hblank, hnul, hn, haddr]

/-- The root of an accepted text is an absolute path. -/
theorem Accepted.isAbsolute (h : Accepted env s r) : Path.isAbsolute r = true := by
  obtain ⟨y, hy⟩ := exists_absolute_of_normalize h.2.2.1
  rw [hy]
  exact Path.isAbsolute_absolute y

/-! ## The whole classpath -/

/-- The roots are the entries and then the classes directory, checked in that order. -/
theorem build_eq_mapM (env : Environment) (entries : List Value) (dir : Value) :
    build env entries dir = (entries ++ [dir]).mapM (entry env) := by
  simp only [build, List.mapM_append, List.mapM_cons, List.mapM_nil, bind_pure_comp, map_pure]
  cases entries.mapM (entry env) with
  | error e => rfl
  | ok roots => cases entry env dir <;> rfl

/-- **The roots of a classpath, or the first value refused.**  For texts as entries and classes
directory, building the roots either gives one absolute path per value, each value's own root in
order, the classes directory's last and repetitions kept; or it fails as the first refused value
does, every value before it passing, and that failure is a `classpath.invalid` error or the
`UnicodeEncodeError` of a name looked up while expanding the value. -/
theorem build_roots_or_first_refusal (env : Environment) (entries : List String) (dir : String) :
    (∃ roots, build env (entries.map .str) (.str dir) = .ok roots ∧
      roots.length = entries.length + 1 ∧ (∀ r ∈ roots, Path.isAbsolute r = true) ∧
      List.Forall₂ (Accepted env) (entries ++ [dir]) roots) ∨
    (∃ pre s post e, entries ++ [dir] = pre ++ s :: post ∧ (∀ v ∈ pre, ∃ r, Accepted env v r) ∧
      Refusal env s e ∧ build env (entries.map .str) (.str dir) = .error e ∧
      ((∃ message data, e = .config "classpath.invalid" message data) ∨
        ∃ f, e = .fault f ∧ f.kind = .unicodeEncode)) := by
  have hbuild : build env (entries.map .str) (.str dir) =
      (entries ++ [dir]).mapM fun v => entry env (.str v) := by
    rw [build_eq_mapM, show entries.map Value.str ++ [Value.str dir] = (entries ++ [dir]).map Value.str
      by simp, List.mapM_map]
    rfl
  rw [hbuild]
  rcases mapM_ok_or_first_error (fun v => entry env (.str v)) (entries ++ [dir]) with
    ⟨roots, hroots, hall⟩ | ⟨pre, s, post, e, hsplit, hpre, hs, hfail⟩
  · -- every value passes: one root each, in order
    have hacc : List.Forall₂ (Accepted env) (entries ++ [dir]) roots :=
      hall.imp fun _ _ h => entry_str_ok_iff.mp h
    have habs : ∀ {vs rs}, List.Forall₂ (Accepted env) vs rs → ∀ r ∈ rs, Path.isAbsolute r = true := by
      intro vs rs h
      induction h with
      | nil => simp
      | cons hr _ ih => exact List.forall_mem_cons.mpr ⟨hr.isAbsolute, ih⟩
    refine .inl ⟨roots, hroots, ?_, habs hacc, hacc⟩
    rw [← hacc.length_eq, List.length_append, List.length_singleton]
  · have hrefusal := entry_str_error_iff.mp hs
    exact .inr ⟨pre, s, post, e, hsplit,
      fun v hv => (hpre v hv).imp fun _ h => entry_str_ok_iff.mp h, hrefusal, hfail,
      hrefusal.invalid_or_lookup⟩

/-- **A name that cannot be looked up escapes the classpath check.**  The variable named by the
lone surrogate `U+D800` cannot be written as a file-system name: building the roots from it fails
with that `UnicodeEncodeError`, which is neither a root nor a `classpath.invalid` error. -/
theorem surrogateName_escapes_classpath :
    ∃ f, build Environment.base [.str ("$\x7b" ++ String.singleton (Text.ofUnit 0xD800) ++ "\x7d")]
      (.str "c") = .error (.fault f) ∧ f.kind = .unicodeEncode :=
  ⟨_, rfl, rfl⟩

end Classpath

end ApiAudit
