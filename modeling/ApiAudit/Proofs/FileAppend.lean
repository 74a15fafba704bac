import ApiAudit.Proofs.Growth
import ApiAudit.Proofs.ResourceLookup
import Mathlib.Tactic.SplitIfs

/-!
# Proofs/FileAppend — an append is read back after what the file held

`appendBytes` resolves its path as `readBytes` does, the links in the directories and in the
last place counted together, except that a missing last place is where the new file goes.  So a
read that found a file before an append finds the same file after it, the appended bytes at its
end; and a path that led nowhere leads, after the append, to a file of the appended bytes.
Making directories puts a directory only where nothing was, which changes no read that found
something.

* `walk_put` — a walk that succeeded succeeds the same after a file is put where nothing or a
  file was, or a directory where nothing was: it met that place, if at all, at its end;
* `FileTree.Extends` — every walk and every entry of a tree kept in another; `makeDirs` extends;
* `readBytes_appendBytes`, `readBytes_appendBytes_of_not_pathExists` — the read after an
  append, to a file that was there and to a path that led nowhere.
-/

namespace ApiAudit.FileTree

variable {t t' : FileTree}

@[simp] theorem lookup_nil (t : FileTree) : t.lookup [] = some .dir := rfl

/-! ## Walks survive a put at their end -/

/-- **A put that no walk passes through**: below the root, a file where nothing or a file was,
or a directory where nothing was.  A walk meets such a place, if at all, at its end. -/
structure PutLeaf (t : FileTree) (q : List String) (e : Entry) : Prop where
  ne_root : q ≠ []
  not_link : ∀ target, e ≠ .link target
  was : t.lookup q = none ∨ (∃ old, t.lookup q = some (.file old)) ∧ ∃ d, e = .file d

/-- The links two walks may follow, the second finding whatever the first finds that `R` allows. -/
def LinksKept (g g' : Option (List String → Pending → Except Errno (List String)))
    (R : List String → Prop) : Prop :=
  ∀ k, g = some k → ∃ k', g' = some k' ∧ ∀ cur pend r, k cur pend = .ok r → R r → k' cur pend = .ok r

/-- **The link step of a walk**: a link that ends the walk unfollowed is the result, and any
other is handed to the link walk; a kept counterpart of that walk finds what it finds. -/
theorem LinksKept.follow {g g' : Option (List String → Pending → Except Errno (List String))}
    {R : List String → Prop} (hg : LinksKept g g' R) {stop : Bool} {p cur r : List String}
    {pend : Pending}
    (hw : (if stop = true then Except.ok p else
      match g with
      | none => .error Errno.loop
      | some again => again cur pend) = .ok r) (hr : R r) :
    (if stop = true then Except.ok p else
      match g' with
      | none => .error Errno.loop
      | some again => again cur pend) = .ok r := by
  by_cases hstop : stop = true
  · simpa [hstop] using hw
  simp only [hstop] at hw ⊢
  cases hgk : g with
  | none => simp [hgk] at hw
  | some k =>
    obtain ⟨k', rfl, hk⟩ := hg k hgk
    simp only [hgk] at hw
    exact hk _ _ r hw hr

/-- An answer that is a result exactly when its condition holds. -/
theorem ite_ok_eq_ok {c : Prop} [Decidable c] {a r : List String} {err : Errno} :
    (if c then (Except.ok a : Except Errno (List String)) else .error err) = .ok r ↔ c ∧ a = r := by
  by_cases hc : c <;> simp [hc]

section Put

variable {q : List String} {e : Entry} {b b' : Bool}

/-- A walk that reaches the place of a leaf put ends there. -/
theorem PutLeaf.walkWith_end (h : PutLeaf t q e)
    {g : Option (List String → Pending → Except Errno (List String))} {c : String} {follow : Bool}
    {cur r : List String} {rest : Pending} (hup : c ≠ "..") (hhere : c ≠ ".")
    (hq : cur ++ [c] = q) (hw : t.walkWith b g cur ((c, follow) :: rest) = .ok r) :
    r = q ∧ rest = [] := by
  simp only [walkWith, if_neg hup, if_neg hhere, hq] at hw
  -- nothing or a file is there, and either ends a walk
  rcases h.was with hnone | ⟨⟨old, hold⟩, -⟩
  · simp only [hnone] at hw
    obtain ⟨hend, rfl⟩ := ite_ok_eq_ok.mp hw
    exact ⟨rfl, by simp at hend; exact hend.2⟩
  · simp only [hold] at hw
    obtain ⟨hend, rfl⟩ := ite_ok_eq_ok.mp hw
    exact ⟨rfl, by simpa using hend⟩

/-- The walk to the place of a leaf put finds it, with or without `create`. -/
theorem PutLeaf.walkWith_last (h : PutLeaf t q e)
    {g' : Option (List String → Pending → Except Errno (List String))} {c : String}
    {follow : Bool} {cur : List String} (hup : c ≠ "..") (hhere : c ≠ ".") (hq : cur ++ [c] = q) :
    (t.put q e).walkWith b' g' cur [(c, follow)] = .ok q := by
  simp only [walkWith, if_neg hup, if_neg hhere, hq, lookup_put_self _ _ h.ne_root]
  cases e with
  | dir => rfl
  | file d => rfl
  | link target => exact absurd rfl (h.not_link target)

/-- **A walk survives a put at its end.**  A walk that created its last place at `q` finds
the entry put there with or without `create`. -/
theorem walkWith_put (h : PutLeaf t q e)
    {g g' : Option (List String → Pending → Except Errno (List String))}
    (hg : LinksKept g g' fun r => b' = b ∨ r = q) (pend : Pending) :
    ∀ cur r, t.walkWith b g cur pend = .ok r → (b' = b ∨ r = q) →
      (t.put q e).walkWith b' g' cur pend = .ok r := by
  -- induction on the components still to walk; a followed link is the walk `hg` hands on
  induction pend with
  | nil => intro cur r hw _; simpa [walkWith] using hw
  | cons step rest ih =>
    obtain ⟨c, follow⟩ := step
    intro cur r hw hb
    by_cases hleaf : c ≠ ".." ∧ c ≠ "." ∧ cur ++ [c] = q
    · -- the walk meets the new entry, at its end
      obtain ⟨hup, hhere, hq⟩ := hleaf
      obtain ⟨rfl, rfl⟩ := h.walkWith_end hup hhere hq hw
      exact h.walkWith_last hup hhere hq
    simp only [walkWith] at hw ⊢
    -- `..` and `.` look nothing up
    by_cases hup : c = ".."
    · rw [if_pos hup] at hw ⊢
      exact ih _ r hw hb
    rw [if_neg hup] at hw ⊢
    by_cases hhere : c = "."
    · rw [if_pos hhere] at hw ⊢
      exact ih _ r hw hb
    rw [if_neg hhere] at hw ⊢
    have hpq : cur ++ [c] ≠ q := fun hq => hleaf ⟨hup, hhere, hq⟩
    rw [lookup_put_ne t e hpq]
    cases hl : t.lookup (cur ++ [c]) with
    | none =>
      simp only [hl] at hw
      obtain ⟨hend, rfl⟩ := ite_ok_eq_ok.mp hw
      have hb' : b' = b := hb.resolve_right hpq
      simp [hb', hend]
    | some entry =>
      simp only [hl] at hw
      cases entry with
      | dir => exact ih _ r hw hb
      | file d => exact hw
      | link target => exact hg.follow hw hb

theorem walk_put (h : PutLeaf t q e) :
    ∀ (n : Nat) (cur : List String) (pend : Pending) (r : List String),
      t.walk b n cur pend = .ok r → (b' = b ∨ r = q) → (t.put q e).walk b' n cur pend = .ok r
  | 0, cur, pend, r, hw, hb => walkWith_put h (fun _ hk => by cases hk) pend cur r hw hb
  | n + 1, cur, pend, r, hw, hb =>
    walkWith_put h (fun _ hk => ⟨_, rfl, by cases hk; exact walk_put h n⟩) pend cur r hw hb

theorem resolve_put (h : PutLeaf t q e) {path : String} {follow : Bool} {r : List String}
    (hr : t.resolve path follow b = .ok r) (hb : b' = b ∨ r = q) :
    (t.put q e).resolve path follow b' = .ok r :=
  walk_put h _ _ _ r hr hb

end Put

/-! ## Walks with and without `create`

`create` only turns a missing last place from a failure into a result, so a walk finds the same
with it, and a walk with it found what a walk without it finds unless its end is missing. -/

section Create

/-- A walk finds what it found also when it may create its last place. -/
theorem walkWith_create {g g' : Option (List String → Pending → Except Errno (List String))}
    (hg : LinksKept g g' fun _ => True) (pend : Pending) :
    ∀ cur r, t.walkWith false g cur pend = .ok r → t.walkWith true g' cur pend = .ok r := by
  induction pend with
  | nil => intro cur r hw; simpa [walkWith] using hw
  | cons step rest ih =>
    obtain ⟨c, follow⟩ := step
    intro cur r hw
    simp only [walkWith] at hw ⊢
    by_cases hup : c = ".."
    · rw [if_pos hup] at hw ⊢
      exact ih _ r hw
    rw [if_neg hup] at hw ⊢
    by_cases hhere : c = "."
    · rw [if_pos hhere] at hw ⊢
      exact ih _ r hw
    rw [if_neg hhere] at hw ⊢
    cases hl : t.lookup (cur ++ [c]) with
    | none => simp [hl] at hw
    | some entry =>
      simp only [hl] at hw ⊢
      cases entry with
      | dir => exact ih _ r hw
      | file d => exact hw
      | link target => exact hg.follow hw trivial

/-- A walk that may create found what a plain walk finds, unless its end is missing. -/
theorem walkWith_of_create {g g' : Option (List String → Pending → Except Errno (List String))}
    (hg : LinksKept g g' fun r => t.lookup r ≠ none) (pend : Pending) :
    ∀ cur r, t.walkWith true g cur pend = .ok r → t.lookup r ≠ none →
      t.walkWith false g' cur pend = .ok r := by
  induction pend with
  | nil => intro cur r hw _; simpa [walkWith] using hw
  | cons step rest ih =>
    obtain ⟨c, follow⟩ := step
    intro cur r hw hr
    simp only [walkWith] at hw ⊢
    by_cases hup : c = ".."
    · rw [if_pos hup] at hw ⊢
      exact ih _ r hw hr
    rw [if_neg hup] at hw ⊢
    by_cases hhere : c = "."
    · rw [if_pos hhere] at hw ⊢
      exact ih _ r hw hr
    rw [if_neg hhere] at hw ⊢
    cases hl : t.lookup (cur ++ [c]) with
    | none =>
      -- the walk created its end, which is missing
      simp only [hl] at hw
      obtain ⟨-, rfl⟩ := ite_ok_eq_ok.mp hw
      exact absurd hl hr
    | some entry =>
      simp only [hl] at hw ⊢
      cases entry with
      | dir => exact ih _ r hw hr
      | file d => exact hw
      | link target => exact hg.follow hw hr

theorem walk_create : ∀ (n : Nat) (cur : List String) (pend : Pending) (r : List String),
    t.walk false n cur pend = .ok r → t.walk true n cur pend = .ok r
  | 0, cur, pend, r, hw => walkWith_create (fun _ hk => by cases hk) pend cur r hw
  | n + 1, cur, pend, r, hw =>
    walkWith_create (fun _ hk => ⟨_, rfl, by cases hk; exact fun c p r h _ => walk_create n c p r h⟩)
      pend cur r hw

theorem walk_of_create : ∀ (n : Nat) (cur : List String) (pend : Pending) (r : List String),
    t.walk true n cur pend = .ok r → t.lookup r ≠ none → t.walk false n cur pend = .ok r
  | 0, cur, pend, r, hw, hr => walkWith_of_create (fun _ hk => by cases hk) pend cur r hw hr
  | n + 1, cur, pend, r, hw, hr =>
    walkWith_of_create (fun _ hk => ⟨_, rfl, by cases hk; exact walk_of_create n⟩) pend cur r hw hr

theorem resolve_create {path : String} {follow : Bool} {r : List String}
    (h : t.resolve path follow = .ok r) : t.resolve path follow true = .ok r :=
  walk_create _ _ _ r h

theorem resolve_of_create {path : String} {follow : Bool} {r : List String}
    (h : t.resolve path follow true = .ok r) (hr : t.lookup r ≠ none) :
    t.resolve path follow = .ok r :=
  walk_of_create _ _ _ r h hr

end Create

/-! ## Trees that keep every walk and entry -/

/-- **`t'` extends `t`**: every walk that succeeds in `t` succeeds the same in `t'`, and every
entry of `t` is the same in `t'`. -/
def Extends (t t' : FileTree) : Prop :=
  (∀ b n cur pend r, t.walk b n cur pend = .ok r → t'.walk b n cur pend = .ok r) ∧
    ∀ p x, t.lookup p = some x → t'.lookup p = some x

theorem Extends.refl (t : FileTree) : Extends t t := ⟨fun _ _ _ _ _ h => h, fun _ _ h => h⟩

theorem Extends.trans {t₁ t₂ t₃ : FileTree} (h₁ : Extends t₁ t₂) (h₂ : Extends t₂ t₃) :
    Extends t₁ t₃ :=
  ⟨fun b n cur pend r h => h₂.1 b n cur pend r (h₁.1 b n cur pend r h),
    fun p x h => h₂.2 p x (h₁.2 p x h)⟩

/-- A directory put where nothing was extends the tree. -/
theorem extends_put_dir {q : List String} (hq : t.lookup q = none) : Extends t (t.put q .dir) := by
  have hroot : q ≠ [] := by
    rintro rfl
    simp at hq
  have leaf : PutLeaf t q .dir := ⟨hroot, fun _ => Entry.noConfusion, .inl hq⟩
  refine ⟨fun b n cur pend r h => walk_put leaf n cur pend r h (.inl rfl), fun p x hp => ?_⟩
  have hpq : p ≠ q := by
    rintro rfl
    simp [hq] at hp
  rwa [lookup_put_ne t _ hpq]

/-- **Making directories keeps every walk and entry.** -/
theorem extends_of_makeDirs {path : String} (h : t.makeDirs path = .ok t') : Extends t t' :=
  rel_of_makeDirsAux Extends.refl Extends.trans extends_put_dir _ _ h

theorem Extends.resolve (h : Extends t t') {path : String} {follow create : Bool}
    {r : List String} (hr : t.resolve path follow create = .ok r) :
    t'.resolve path follow create = .ok r :=
  h.1 _ _ _ _ r hr

/-- A read finds a file: its path resolves to the place of one. -/
theorem readBytes_eq_ok_iff_resolve {path : String} {data : List UInt8} :
    t.readBytes path = .ok data ↔ ∃ p, t.resolve path = .ok p ∧ t.lookup p = some (.file data) := by
  unfold readBytes
  cases t.resolve path with
  | error e => simp
  | ok p =>
    cases hl : t.lookup p with
    | none => simp [hl]
    | some entry => cases entry <;> simp [hl]

/-- A tree that extends another reads the same bytes wherever the other read some. -/
theorem Extends.readBytes (h : Extends t t') {path : String} {data : List UInt8}
    (hr : t.readBytes path = .ok data) : t'.readBytes path = .ok data := by
  obtain ⟨p, hres, hl⟩ := readBytes_eq_ok_iff_resolve.mp hr
  exact readBytes_eq_ok_iff_resolve.mpr ⟨p, h.resolve hres, h.2 _ _ hl⟩

/-! ## The read after an append -/

/-- **What an append does**: its path resolves, a missing last place allowed, and the place
gets a file of the bytes it held followed by the new ones. -/
theorem appendBytes_eq_ok {path : String} {data : List UInt8} (h : t.appendBytes path data = .ok t') :
    ∃ q old, t.resolve path true true = .ok q ∧
      (t.lookup q = none ∧ old = [] ∨ t.lookup q = some (.file old)) ∧
      t' = t.put q (.file (old ++ data)) := by
  unfold appendBytes at h
  split at h
  · cases h
  · rename_i q hq
    split at h
    · rename_i hnone
      cases h
      exact ⟨q, [], hq, .inl ⟨hnone, rfl⟩, by simp⟩
    · rename_i old hold
      cases h
      exact ⟨q, old, hq, .inr hold, rfl⟩
    · cases h

theorem pathExists_of_readBytes {path : String} {data : List UInt8}
    (h : t.readBytes path = .ok data) : t.pathExists path = true := by
  obtain ⟨p, hp⟩ := readBytes_eq_ok_iff.mp h
  simp [pathExists, hp]

variable {path : String} {data : List UInt8}

/-- **The read after an append**: the path leads to the place the append wrote, which holds the
bytes it held and then the new ones. -/
theorem readBytes_of_appendBytes (h : t.appendBytes path data = .ok t') :
    ∃ q old, t.resolve path true true = .ok q ∧
      (t.lookup q = none ∧ old = [] ∨ t.lookup q = some (.file old)) ∧
      t'.readBytes path = .ok (old ++ data) := by
  obtain ⟨q, old, hq, hold, rfl⟩ := appendBytes_eq_ok h
  have hroot : q ≠ [] := by
    rintro rfl
    rcases hold with ⟨h0, -⟩ | h0 <;> simp at h0
  have leaf : PutLeaf t q (.file (old ++ data)) :=
    ⟨hroot, fun _ => Entry.noConfusion, hold.imp (·.1) fun hf => ⟨⟨old, hf⟩, _, rfl⟩⟩
  -- the plain walk of the read ends where the append's walk created or found the file
  have hread : (t.put q (.file (old ++ data))).resolve path = .ok q := resolve_put leaf hq (.inr rfl)
  exact ⟨q, old, hq, hold,
    readBytes_eq_ok_iff_resolve.mpr ⟨q, hread, lookup_put_self _ _ hroot⟩⟩

/-- **An append to a file is read back after the bytes the file held.** -/
theorem readBytes_appendBytes {old : List UInt8} (hr : t.readBytes path = .ok old)
    (h : t.appendBytes path data = .ok t') : t'.readBytes path = .ok (old ++ data) := by
  obtain ⟨q, old', hq, hold, hread⟩ := readBytes_of_appendBytes h
  obtain ⟨p, hp, hpl⟩ := readBytes_eq_ok_iff_resolve.mp hr
  -- the append resolves the path to the file the read found
  have hpq : p = q := Except.ok.inj ((resolve_create hp).symm.trans hq)
  subst hpq
  rcases hold with ⟨hnone, -⟩ | hfile
  · simp [hnone] at hpl
  · rw [hpl] at hfile
    cases hfile
    exact hread

/-- **An append to a path that led nowhere is read back alone.** -/
theorem readBytes_appendBytes_of_not_pathExists (hr : t.pathExists path = false)
    (h : t.appendBytes path data = .ok t') : t'.readBytes path = .ok data := by
  obtain ⟨q, old, hq, hold, hread⟩ := readBytes_of_appendBytes h
  rcases hold with ⟨-, rfl⟩ | hfile
  · simpa using hread
  · -- a file at the end of the path would have been found
    have hfound : t.resolve path = .ok q := resolve_of_create hq (by simp [hfile])
    simp [pathExists, entryAt?, hfound, hfile] at hr

end ApiAudit.FileTree
