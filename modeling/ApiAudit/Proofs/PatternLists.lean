import ApiAudit.Proofs.ClasspathRoots
import ApiAudit.Task.Check

/-!
# Proofs/PatternLists — the pattern lists of a build task keep no repeats

A build script edits the include and exclude patterns of a task with four calls
(`CheckTask.PatternEdit`): `include` and `exclude` add patterns, `setIncludes` and
`setExcludes` replace a list.  Two patterns are the same when they are equal (`Value.equals`):
an addition asks whether an entry of the list equals the pattern, and a replacement keeps the
first of equal keys.

* `Value.absentees xs ps` — the arguments an addition appends to the list `xs`: each argument
  that no entry equals when it is met, the arguments appended before it counted.
  `absentees_append` and `absentees_singleton` say that additions are made one argument at a time
  against the list as it stands.
* `appendNew_list` — adding to a list appends exactly its absentees; `firstOccurrences_eq` — a
  replacement keeps the absentees of its argument over the empty list, the same rule from
  nothing, once every argument is a key.
* `patternLists_distinct` — the default lists have no repeats, and any sequence of calls, each
  one that fails leaving the task as it was, keeps both lists without repeats; an addition
  appends the arguments not present, in their order and once each, after every entry; a
  replacement sets the list to its argument's first occurrences, and fails exactly when its
  argument is no collection of keys.
-/

namespace ApiAudit

namespace Value

/-- **No repeats**: no entry of a list equals an entry after it. -/
def Distinct (xs : List Value) : Prop := xs.Pairwise fun a b => a.equals b = false

/-- **The arguments an addition appends** to the list `xs`: in order, each argument that no entry
equals when it is met, the arguments appended before it counted. -/
def absentees (xs : List Value) : List Value → List Value
  | [] => []
  | p :: ps => if xs.any (·.equals p) then absentees xs ps else p :: absentees (xs ++ [p]) ps

variable {xs ps qs : List Value} {p : Value}

@[simp] theorem absentees_nil (xs : List Value) : absentees xs [] = [] := rfl

theorem absentees_cons (xs : List Value) (p : Value) (ps : List Value) :
    absentees xs (p :: ps) =
      if xs.any (·.equals p) then absentees xs ps else p :: absentees (xs ++ [p]) ps := rfl

/-- One argument is appended exactly when no entry equals it. -/
theorem absentees_singleton (xs : List Value) (p : Value) :
    absentees xs [p] = if xs.any (·.equals p) then [] else [p] := by
  rw [absentees_cons]
  split <;> rfl

/-- **Additions go one argument at a time**: the later arguments meet the list grown by the
earlier ones. -/
theorem absentees_append (xs ps qs : List Value) :
    absentees xs (ps ++ qs) = absentees xs ps ++ absentees (xs ++ absentees xs ps) qs := by
  induction ps generalizing xs with
  | nil => simp
  | cons p ps ih =>
    rw [List.cons_append, absentees_cons, absentees_cons]
    split
    · exact ih xs
    · rw [ih (xs ++ [p]), List.cons_append, List.append_assoc, List.singleton_append]

/-- The appended arguments keep their order. -/
theorem absentees_sublist (xs ps : List Value) : (absentees xs ps).Sublist ps := by
  induction ps generalizing xs with
  | nil => exact List.Sublist.slnil
  | cons p ps ih =>
    rw [absentees_cons]
    split
    · exact (ih xs).cons p
    · exact (ih (xs ++ [p])).cons_cons p

/-- A pattern no entry equals extends a list without repeats. -/
theorem Distinct.append_absent (hxs : Distinct xs) (hp : xs.any (·.equals p) = false) :
    Distinct (xs ++ [p]) := by
  refine List.pairwise_append.mpr ⟨hxs, List.pairwise_singleton _ p, ?_⟩
  intro a ha b hb
  rw [List.mem_singleton] at hb
  subst hb
  simpa using List.any_eq_false.mp hp a ha

/-- **An addition brings in no repeat**: the appended arguments equal no entry and no argument
appended before them. -/
theorem Distinct.append_absentees (hxs : Distinct xs) : Distinct (xs ++ absentees xs ps) := by
  induction ps generalizing xs with
  | nil => simpa using hxs
  | cons p ps ih =>
    rw [absentees_cons]
    split
    · exact ih hxs
    · rename_i hp
      have h := ih (hxs.append_absent (Bool.eq_false_iff.mpr hp))
      rwa [List.append_assoc, List.singleton_append] at h

/-- **An argument is appended at its turn exactly when no entry equals it then**: none of the
entries, and none of the arguments before it that were appended. -/
theorem absentees_turn (xs pre : List Value) (p : Value) :
    absentees xs (pre ++ [p]) = absentees xs pre ++ [p] ↔
      ∀ z ∈ xs ++ absentees xs pre, z.equals p = false := by
  rw [absentees_append, absentees_singleton]
  split
  · -- an entry equals it: nothing is appended, and that entry is the witness
    rename_i h
    obtain ⟨z, hz, hzp⟩ := List.any_eq_true.mp h
    refine iff_of_false (fun h' => ?_) fun hall => ?_
    · simpa using congrArg List.length h'
    · simp [hall z hz] at hzp
  · rename_i h
    refine iff_of_true rfl fun z hz => ?_
    exact Bool.eq_false_iff.mpr (List.any_eq_false.mp (Bool.eq_false_iff.mpr h) z hz)

/-- **The fold of a replacement** from the list `acc` succeeds exactly when every argument is a
key, and then appends the absentees of the arguments over `acc`. -/
theorem foldlM_firstOccurrences (acc xs ys : List Value) :
    xs.foldlM (fun acc x => do
        x.checkKey
        pure (if acc.any (Value.equals · x) then acc else acc ++ [x])) acc = .ok ys ↔
      (∀ x ∈ xs, x.checkKey = .ok ()) ∧ ys = acc ++ absentees acc xs := by
  induction xs generalizing acc with
  | nil =>
    simp only [List.foldlM_nil, absentees_nil, List.append_nil]
    constructor
    · intro h
      cases h
      exact ⟨by simp, rfl⟩
    · rintro ⟨-, rfl⟩
      rfl
  | cons x xs ih =>
    simp only [List.foldlM_cons]
    cases hk : x.checkKey with
    | error f =>
      -- the argument is no key: the fold stops with its fault
      refine iff_of_false (fun h => ?_) fun ⟨hkeys, _⟩ => ?_
      · change Except.error f = Except.ok ys at h
        cases h
      · simp [hkeys x List.mem_cons_self] at hk
    | ok u =>
      change List.foldlM _ (if acc.any (Value.equals · x) then acc else acc ++ [x]) xs =
        Except.ok ys ↔ _
      cases u
      rw [ih, absentees_cons, List.forall_mem_cons]
      split <;> simp [hk]

/-- **A replacement keeps the first occurrences**: it succeeds exactly when every argument is a
key, and keeps the absentees of the arguments over the empty list. -/
theorem firstOccurrences_eq_ok (xs ys : List Value) :
    firstOccurrences xs = .ok ys ↔ (∀ x ∈ xs, x.checkKey = .ok ()) ∧ ys = absentees [] xs := by
  rw [firstOccurrences, foldlM_firstOccurrences, List.nil_append]

/-- The first occurrences have no repeats. -/
theorem distinct_absentees_nil (ps : List Value) : Distinct (absentees [] ps) := by
  have h : Distinct ([] ++ absentees [] ps) := Distinct.append_absentees List.Pairwise.nil
  rwa [List.nil_append] at h

end Value

namespace CheckTask

/-- **Adding to a list appends its absentees**: the entries stay as they are, in their order, and
the arguments no entry equals follow them. -/
theorem appendNew_list (xs ps : List Value) :
    appendNew (.list xs) ps = .ok (.list (xs ++ Value.absentees xs ps)) := by
  induction ps generalizing xs with
  | nil => simp [appendNew, pure, Except.pure]
  | cons p ps ih =>
    -- the first argument is tested against the list, then the rest go on from there
    have hstep : appendNew (.list xs) (p :: ps) =
        appendNew (.list (if xs.any (Value.equals · p) then xs else xs ++ [p])) ps := by
      have hholds : holds (.list xs) p = .ok (xs.any (Value.equals · p)) := rfl
      unfold appendNew
      rw [List.foldlM_cons]
      simp only [hholds]
      cases xs.any (Value.equals · p) <;> rfl
    rw [hstep, Value.absentees_cons]
    split
    · exact ih xs
    · rw [ih (xs ++ [p]), List.append_assoc, List.singleton_append]

/-- A repeated argument, and one already there, are not appended. -/
example : appendNew (.list [.str "a"]) [.str "b", .str "a", .str "b"] =
    .ok (.list [.str "a", .str "b"]) := by
  rfl


/-- **A replacement of a pattern list**, whichever list it replaces: it succeeds exactly when the
argument is a collection of keys, and puts in the first occurrences of its elements. -/
theorem replace_eq_ok {α : Type} (v : Value) (put : List Value → α) (r : α) :
    (do let xs ← Value.firstOccurrences (← v.elements); pure (put xs) : Except Fault α) = .ok r ↔
      ∃ ys, v.elements = .ok ys ∧ (∀ y ∈ ys, y.checkKey = .ok ()) ∧
        r = put (Value.absentees [] ys) := by
  simp only [bind_eq_ok, Value.firstOccurrences_eq_ok, pure, Except.pure, Except.ok.injEq]
  constructor
  · rintro ⟨ys, hys, xs, ⟨hkeys, rfl⟩, rfl⟩
    exact ⟨ys, hys, hkeys, rfl⟩
  · rintro ⟨ys, hys, hkeys, rfl⟩
    exact ⟨ys, hys, _, ⟨hkeys, rfl⟩, rfl⟩

theorem setIncludes_eq_ok (t t' : CheckTask) (v : Value) :
    t.setIncludes v = .ok t' ↔ ∃ ys, v.elements = .ok ys ∧ (∀ y ∈ ys, y.checkKey = .ok ()) ∧
      t' = { t with includes := .list (Value.absentees [] ys) } := by
  unfold setIncludes
  exact replace_eq_ok v _ t'

theorem setExcludes_eq_ok (t t' : CheckTask) (v : Value) :
    t.setExcludes v = .ok t' ↔ ∃ ys, v.elements = .ok ys ∧ (∀ y ∈ ys, y.checkKey = .ok ()) ∧
      t' = { t with excludes := .list (Value.absentees [] ys) } := by
  unfold setExcludes
  exact replace_eq_ok v _ t'

theorem addIncludes_list {t : CheckTask} {xs : List Value} (h : t.includes = .list xs)
    (ps : List Value) :
    t.addIncludes ps = .ok { t with includes := .list (xs ++ Value.absentees xs ps) } := by
  rw [addIncludes, h, appendNew_list]
  rfl

theorem addExcludes_list {t : CheckTask} {xs : List Value} (h : t.excludes = .list xs)
    (ps : List Value) :
    t.addExcludes ps = .ok { t with excludes := .list (xs ++ Value.absentees xs ps) } := by
  rw [addExcludes, h, appendNew_list]
  rfl

/-! ## A sequence of edits -/

/-- One call a build script makes on the pattern lists of a task. -/
inductive PatternEdit where
  | include (ps : List Value)
  | exclude (ps : List Value)
  | setIncludes (ps : Value)
  | setExcludes (ps : Value)

/-- Makes one call. -/
def PatternEdit.apply (t : CheckTask) : PatternEdit → Except Fault CheckTask
  | .include ps => t.addIncludes ps
  | .exclude ps => t.addExcludes ps
  | .setIncludes ps => t.setIncludes ps
  | .setExcludes ps => t.setExcludes ps

/-- The task after a call; a call that raises leaves the task as it was. -/
def edit (t : CheckTask) (e : PatternEdit) : CheckTask :=
  match e.apply t with
  | .ok t' => t'
  | .error _ => t

/-- **Makes calls one after another**, from the task `t`. -/
def editAll (t : CheckTask) (edits : List PatternEdit) : CheckTask :=
  edits.foldl edit t

/-- A pattern list that is a list with no repeats. -/
def DistinctList (v : Value) : Prop := ∃ xs, v = .list xs ∧ Value.Distinct xs

/-- **Both pattern lists of a task are lists without repeats.** -/
structure PatternsDistinct (t : CheckTask) : Prop where
  includes : DistinctList t.includes
  excludes : DistinctList t.excludes

theorem distinctList_replaced (ys : List Value) : DistinctList (.list (Value.absentees [] ys)) :=
  ⟨_, rfl, Value.distinct_absentees_nil ys⟩

/-- **One call keeps both lists without repeats**: an addition appends absentees, a replacement
puts in first occurrences, and a call that raises changes nothing. -/
theorem PatternsDistinct.edit {t : CheckTask} (h : t.PatternsDistinct) :
    ∀ e, (t.edit e).PatternsDistinct
  | .include ps => by
    obtain ⟨xs, hxs, hd⟩ := h.includes
    simp only [CheckTask.edit, PatternEdit.apply, addIncludes_list hxs]
    exact ⟨⟨_, rfl, hd.append_absentees⟩, h.excludes⟩
  | .exclude ps => by
    obtain ⟨xs, hxs, hd⟩ := h.excludes
    simp only [CheckTask.edit, PatternEdit.apply, addExcludes_list hxs]
    exact ⟨h.includes, ⟨_, rfl, hd.append_absentees⟩⟩
  | .setIncludes v => by
    unfold CheckTask.edit PatternEdit.apply
    split
    · rename_i t' ht'
      obtain ⟨ys, -, -, rfl⟩ := (setIncludes_eq_ok t t' v).mp ht'
      exact ⟨distinctList_replaced ys, h.excludes⟩
    · exact h
  | .setExcludes v => by
    unfold CheckTask.edit PatternEdit.apply
    split
    · rename_i t' ht'
      obtain ⟨ys, -, -, rfl⟩ := (setExcludes_eq_ok t t' v).mp ht'
      exact ⟨h.includes, distinctList_replaced ys⟩
    · exact h

/-- **Any sequence of calls keeps both lists without repeats.** -/
theorem PatternsDistinct.editAll {t : CheckTask} (h : t.PatternsDistinct) (edits : List PatternEdit) :
    (t.editAll edits).PatternsDistinct := by
  induction edits generalizing t with
  | nil => exact h
  | cons e rest ih => exact ih (h.edit e)

/-- The default lists, the class files and nothing excluded, have no repeats. -/
theorem patternsDistinct_default : ({} : CheckTask).PatternsDistinct :=
  ⟨⟨_, rfl, List.pairwise_singleton _ _⟩, ⟨_, rfl, List.Pairwise.nil⟩⟩

/-- **The pattern lists keep no repeats.**  The default lists have none, and any sequence of
calls keeps both lists without repeats.  An addition to a list keeps its entries in their order
and appends the absentees of its arguments: a sublist of them, and each argument exactly when
nothing there at its turn, entry or argument appended before it, equals it.  A replacement
succeeds exactly when its argument is a collection of keys, and then sets the list to the first
occurrences of its elements; when it raises, there is no new task. -/
theorem patternLists_distinct :
    ({} : CheckTask).PatternsDistinct ∧
    (∀ (t : CheckTask) (edits : List PatternEdit),
      t.PatternsDistinct → (t.editAll edits).PatternsDistinct) ∧
    (∀ (t : CheckTask) (xs ps : List Value), t.includes = .list xs →
      t.addIncludes ps = .ok { t with includes := .list (xs ++ Value.absentees xs ps) }) ∧
    (∀ (t : CheckTask) (xs ps : List Value), t.excludes = .list xs →
      t.addExcludes ps = .ok { t with excludes := .list (xs ++ Value.absentees xs ps) }) ∧
    (∀ xs ps : List Value, (Value.absentees xs ps).Sublist ps) ∧
    (∀ (xs pre : List Value) (p : Value),
      Value.absentees xs (pre ++ [p]) = Value.absentees xs pre ++ [p] ↔
        ∀ z ∈ xs ++ Value.absentees xs pre, z.equals p = false) ∧
    (∀ (t t' : CheckTask) (v : Value), t.setIncludes v = .ok t' ↔
      ∃ ys, v.elements = .ok ys ∧ (∀ y ∈ ys, y.checkKey = .ok ()) ∧
        t' = { t with includes := .list (Value.absentees [] ys) }) ∧
    (∀ (t t' : CheckTask) (v : Value), t.setExcludes v = .ok t' ↔
      ∃ ys, v.elements = .ok ys ∧ (∀ y ∈ ys, y.checkKey = .ok ()) ∧
        t' = { t with excludes := .list (Value.absentees [] ys) }) :=
  ⟨patternsDistinct_default, fun _ edits h => h.editAll edits, fun _ _ ps h => addIncludes_list h ps,
    fun _ _ ps h => addExcludes_list h ps, Value.absentees_sublist, Value.absentees_turn,
    setIncludes_eq_ok, setExcludes_eq_ok⟩

/-- Repeated additions and a replacement by a list with a repeat, from the defaults. -/
theorem defaultTask_edits_distinct :
    (({} : CheckTask).editAll [.include [.str "a", .str "a"], .exclude [.str "b"],
      .setExcludes (.list [.str "c", .str "c"])]).PatternsDistinct :=
  patternLists_distinct.2.1 {} _ patternLists_distinct.1

end CheckTask

end ApiAudit
