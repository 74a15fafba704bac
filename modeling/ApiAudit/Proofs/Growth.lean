import ApiAudit.Proofs.Audit

/-!
# Proofs/Growth — the trace only adds to the file tree

Trace events are the only writes a run makes, and both of their writes add: `makeDirs` makes
missing directories and `appendBytes` creates a file or lengthens one.  The measure is what a
path **holds** (`FileTree.extent`): nothing, a directory or a link, or a file and its bytes;
`FileTree.Grows t t'` says that no path holds less in `t'` than in `t`.

* `grows_of_makeDirs`, `grows_of_appendBytes`: both writes grow the tree, and an append of some
  bytes grows it strictly at one path.
* `Tracer.emit_grows`: a trace event grows the tree, and an event written to a trace file grows
  it strictly.  With `ne_of_grows_of_lt`, a run whose trace took one event never ends with the
  tree it began with.
-/

namespace ApiAudit

namespace Entry

/-- How much an entry holds: one for a directory or a link, one more than its length for a
file. -/
def extent : Entry → Nat
  | .file data => data.length + 1
  | _ => 1

end Entry

namespace FileTree

variable {t t' t'' : FileTree} {p q : List String} {e : Entry} {old : List UInt8}

/-- How much a real path holds: nothing, or its entry's extent. -/
def extent (t : FileTree) (p : List String) : Nat := ((t.lookup p).map Entry.extent).getD 0

/-- **`t'` has grown from `t`**: no path holds less. -/
def Grows (t t' : FileTree) : Prop := ∀ p, t.extent p ≤ t'.extent p

theorem Grows.refl (t : FileTree) : Grows t t := fun _ => Nat.le_refl _

theorem Grows.trans (h : Grows t t') (h' : Grows t' t'') : Grows t t'' :=
  fun p => Nat.le_trans (h p) (h' p)

/-- **A tree that grew strictly at one path** never comes back to where it started. -/
theorem ne_of_grows_of_lt (h : Grows t' t'') (hp : t.extent p < t'.extent p) : t'' ≠ t := by
  rintro rfl
  exact absurd (Nat.lt_of_lt_of_le hp (h p)) (Nat.lt_irrefl _)

theorem find?_replace_ne (l : List (List String × Entry)) (hq : q ≠ p) :
    (l.map fun x => if x.1 == p then (p, e) else x).find? (·.1 == q) = l.find? (·.1 == q) := by
  induction l with
  | nil => rfl
  | cons x l ih =>
    rw [List.map_cons, List.find?_cons, List.find?_cons, ih]
    by_cases hx : x.1 = p
    · have hpq : (p == q) = false := beq_false_of_ne (Ne.symm hq)
      simp [hx, hpq]
    · simp [hx]

theorem find?_replace_self (l : List (List String × Entry)) (h : l.any (·.1 == p)) :
    (l.map fun x => if x.1 == p then (p, e) else x).find? (·.1 == p) = some (p, e) := by
  induction l with
  | nil => simp at h
  | cons x l ih =>
    rw [List.map_cons, List.find?_cons]
    by_cases hx : x.1 = p
    · simp [hx]
    · have hxp : (x.1 == p) = false := beq_false_of_ne hx
      have hl : l.any (·.1 == p) := by simpa [hxp] using h
      simp only [hxp, Bool.false_eq_true, if_false]
      exact ih hl

/-- Recording an entry leaves every other path as it was. -/
theorem lookup_put_ne (t : FileTree) (e : Entry) (hq : q ≠ p) :
    (t.put p e).lookup q = t.lookup q := by
  rw [put]
  split
  · simp only [lookup, find?_replace_ne _ hq]
  · simp only [lookup, List.find?_append]
    have : [(p, e)].find? (·.1 == q) = none := by simp [Ne.symm hq]
    simp [this]

/-- A path below the root holds the entry last recorded there. -/
theorem lookup_put_self (t : FileTree) (e : Entry) (hp : p ≠ []) :
    (t.put p e).lookup p = some e := by
  rw [put]
  split
  · rename_i h
    simp only [lookup, find?_replace_self _ h]
    simp [hp]
  · rename_i h
    have hnone : ∀ x ∈ t.entries, (x.1 == p) = false := fun x hx =>
      Bool.eq_false_iff.mpr (List.any_eq_false.mp (Bool.eq_false_iff.mpr h) x hx)
    have : t.entries.find? (·.1 == p) = none :=
      List.find?_eq_none.mpr fun x hx => by simp [hnone x hx]
    simp [lookup, hp, List.find?_append, this]

/-- Recording an entry where nothing was grows the tree. -/
theorem grows_put_new (h : t.lookup p = none) (e : Entry) : Grows t (t.put p e) := by
  intro q
  by_cases hq : q = p
  · subst hq
    simp [extent, h]
  · simp [extent, lookup_put_ne t e hq]

/-- Lengthening a file grows the tree, at that file by the bytes added. -/
theorem extent_put_append (h : t.lookup p = some (.file old)) (data : List UInt8) :
    (t.put p (.file (old ++ data))).extent p = t.extent p + data.length := by
  have hp : p ≠ [] := by
    rintro rfl
    simp [lookup] at h
  simp [extent, lookup_put_self t _ hp, h, Entry.extent]
  omega

theorem grows_put_append (h : t.lookup p = some (.file old)) (data : List UInt8) :
    Grows t (t.put p (.file (old ++ data))) := by
  intro q
  by_cases hq : q = p
  · subst hq
    rw [extent_put_append h]
    exact Nat.le_add_right _ _
  · simp [extent, lookup_put_ne t _ hq]

/-- **What making one directory does**: it records a directory at a place where nothing was. -/
theorem makeDir_eq_ok {path : String} (h : t.makeDir path = .ok t') :
    ∃ q, t.lookup q = none ∧ t' = t.put q .dir := by
  unfold makeDir at h
  cases hp : t.placeOf path with
  | error err => simp [hp, bind, Except.bind] at h
  | ok place =>
    obtain ⟨dir, last⟩ := place
    simp only [hp, bind, Except.bind] at h
    split at h
    · cases h
    · split at h
      · cases h
      · cases h
        exact ⟨_, ‹_›, rfl⟩

/-- **Making a directory with its parents is a run of single directories made**: a reflexive,
transitive relation that holds across each directory put where nothing was holds across it. -/
theorem rel_of_makeDirsAux {R : FileTree → FileTree → Prop} (hrefl : ∀ t, R t t)
    (htrans : ∀ {t₁ t₂ t₃}, R t₁ t₂ → R t₂ t₃ → R t₁ t₃)
    (hput : ∀ {t q}, t.lookup q = none → R t (t.put q .dir)) :
    ∀ (depth : Nat) (path : String) {t' : FileTree}, t.makeDirsAux depth path = .ok t' → R t t'
  | 0, _, _, h => by simp [makeDirsAux] at h
  | depth + 1, path, t', h => by
    have hdir : ∀ {t₁ t₂ : FileTree} {path}, t₁.makeDir path = .ok t₂ → R t₁ t₂ := fun h => by
      obtain ⟨q, hq, rfl⟩ := makeDir_eq_ok h
      exact hput hq
    unfold makeDirsAux at h
    split at h
    · cases h
      exact hdir ‹_›
    · -- the parents are made first, then the directory itself
      simp only at h
      split at h
      · cases h
      · split at h
        · cases h
        · rename_i parents hparents
          have before := rel_of_makeDirsAux hrefl htrans hput depth _ hparents
          split at h
          · cases h
            exact htrans before (hdir ‹_›)
          · split at h
            · cases h
              exact before
            · cases h
    · split at h
      · cases h
        exact hrefl _
      · cases h

theorem grows_of_makeDirs {path : String} (h : t.makeDirs path = .ok t') : Grows t t' :=
  rel_of_makeDirsAux Grows.refl Grows.trans (fun hq => grows_put_new hq _) _ _ h

/-- Recording a file where nothing was adds a path that holds something. -/
theorem extent_put_new (h : t.lookup p = none) (hp : p ≠ []) (data : List UInt8) :
    t.extent p < (t.put p (.file data)).extent p := by
  simp [extent, h, lookup_put_self t _ hp, Entry.extent]

/-- **Appending grows the tree**, and appending some bytes grows it strictly somewhere. -/
theorem grows_of_appendBytes {path : String} {data : List UInt8} (h : t.appendBytes path data = .ok t') :
    Grows t t' ∧ (data ≠ [] → ∃ q, t.extent q < t'.extent q) := by
  unfold appendBytes at h
  split at h
  · cases h
  · rename_i p _
    split at h
    · -- a new file
      rename_i hnone
      cases h
      have hp : p ≠ [] := by
        rintro rfl
        simp [lookup] at hnone
      exact ⟨grows_put_new hnone _, fun _ => ⟨_, extent_put_new hnone hp data⟩⟩
    · -- a file lengthened
      rename_i old hold
      cases h
      refine ⟨grows_put_append hold data, fun hd => ⟨p, ?_⟩⟩
      rw [extent_put_append hold]
      exact Nat.lt_add_of_pos_right (List.length_pos_iff.mpr hd)
    · cases h

end FileTree

/-- The bytes collected by `ByteArray.toList` from position `i` on, after `r`. -/
theorem toList_loop_ne_nil (bs : ByteArray) (i : Nat) (r : List UInt8) (h : r ≠ [] ∨ i < bs.size) :
    ByteArray.toList.loop bs i r ≠ [] := by
  fun_induction ByteArray.toList.loop bs i r with
  | case1 i r hi ih => exact ih (.inl (List.cons_ne_nil _ _))
  | case2 i r hi =>
    rcases h with h | h
    · simpa using h
    · exact absurd h hi

/-- A text that is not empty has some bytes. -/
theorem utf8Bytes_ne_nil {s : String} (h : s ≠ "") : utf8Bytes s ≠ [] := by
  have hpos : 0 < s.toByteArray.size := by
    rw [String.size_toByteArray]
    exact Nat.pos_of_ne_zero (mt String.utf8ByteSize_eq_zero_iff.mp h)
  simp only [utf8Bytes, String.toUTF8_eq_toByteArray, ByteArray.toList]
  exact toList_loop_ne_nil _ 0 [] (.inr hpos)

open Audit FileTree in
/-- **A trace event grows the tree**, and one written to a trace file grows it strictly. -/
theorem Tracer.emit_grows (tr : Tracer) (happening : Trace.Happening) (stage : Option Trace.Stage)
    (message data : Option Value) (s : Session) :
    Grows s.tree ((tr.emit happening stage message data).run s).2.tree ∧
      (((tr.emit happening stage message data).run s).1 = .ok () → tr.path.isSome →
        ∃ q, s.tree.extent q < ((tr.emit happening stage message data).run s).2.tree.extent q) := by
  unfold Tracer.emit
  split
  · exact ⟨Grows.refl _, fun _ h => by simp_all⟩
  · rename_i p hp
    rw [run_bind, run_alterTree]
    cases hdirs : s.tree.makeDirs (Path.parent p) with
    | error err => exact ⟨Grows.refl _, fun h => by cases h⟩
    | ok t₁ =>
      have g₁ := grows_of_makeDirs hdirs
      dsimp only
      split
      · rw [run_bind, run_alterTree]
        cases happ : t₁.appendBytes p [] with
        | error err => exact ⟨g₁, fun h => by cases h⟩
        | ok t₂ => exact ⟨g₁.trans (grows_of_appendBytes happ).1, fun h => by cases h⟩
      · rw [run_alterTree]
        cases happ : t₁.appendBytes p _ with
        | error err => exact ⟨g₁, fun h => by cases h⟩
        | ok t₂ =>
          obtain ⟨g₂, strict⟩ := grows_of_appendBytes happ
          refine ⟨g₁.trans g₂, fun _ _ => ?_⟩
          obtain ⟨q, hq⟩ := strict (utf8Bytes_ne_nil (by simp))
          exact ⟨q, Nat.lt_of_le_of_lt (g₁ q) hq⟩

end ApiAudit
