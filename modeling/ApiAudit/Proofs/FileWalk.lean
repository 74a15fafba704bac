import Mathlib
import ApiAudit.FileSet

/-!
# Proofs/FileWalk — the files a selection returns, and in which order

The walk below a directory (`FileSet.walk`) keeps a list of the directory identities it has
met, discovered a whole directory listing at a time, and enters a subdirectory only when its
identity is new.  Where no directory can be reached along two name paths (`FileSet.NoAlias`),
the guard never fires, and the walk is the plain **files-first preorder** (`FileSet.preorder`):
a directory's regular files, sorted by name, then each subdirectory in sorted order, walked in
full before the next.

* `walkFrom_eq` — the walk with a list of identities met so far computes the preorder, as long
  as that list and the identities still to be met hold no repetition (`reached`);
* `walk_eq_preorder` — so the walk of a tree without aliases lists every file of the preorder,
  at any depth past the number of entries of the tree (`depth_lt_of_noAlias`);
* `mem_walk` and `walk_nodup` — it lists each file reachable below the root once, by its
  relative path;
* `select_files_first` — the selection keeps, in walk order, exactly the files that an
  effective include pattern selects and no effective exclude pattern does.

A tree stands for a file system here (`FileTree.WellFormed`): one entry per path, and no
component of a path holding a slash.
-/

namespace ApiAudit

namespace FileTree

/-- **A tree as a file system has it**: one entry per path, and no component of a path holding
a slash. -/
def WellFormed (t : FileTree) : Prop :=
  (t.entries.map Prod.fst).Nodup ∧ ∀ e ∈ t.entries, ∀ c ∈ e.1, '/' ∉ c.toList

instance : DecidablePred WellFormed := fun _ => inferInstanceAs (Decidable (_ ∧ _))

/-- The name a recorded path gives its directory, when it lies directly in `dir`. -/
def nameIn (dir p : List String) : Option String :=
  if p.dropLast == dir && !p.isEmpty then p.getLast? else none

theorem childNames_eq (t : FileTree) (dir : List String) :
    t.childNames dir =
      ((t.entries.map Prod.fst).filterMap (nameIn dir)).mergeSort (fun a b => decide (a ≤ b)) := by
  rw [childNames, List.filterMap_map]
  rfl

/-- A name a recorded path gives its directory completes the directory to that path. -/
theorem eq_of_nameIn {dir p : List String} {name : String} (h : nameIn dir p = some name) :
    p = dir ++ [name] := by
  unfold nameIn at h
  split at h
  · rename_i hp
    simp only [Bool.and_eq_true, beq_iff_eq, Bool.not_eq_true', List.isEmpty_eq_false_iff] at hp
    rw [← hp.1, List.dropLast_append_getLast? name h]
  · cases h

theorem mem_childNames {t : FileTree} {dir : List String} {name : String} :
    name ∈ t.childNames dir ↔ dir ++ [name] ∈ t.entries.map Prod.fst := by
  rw [childNames_eq, List.mem_mergeSort, List.mem_filterMap]
  constructor
  · rintro ⟨p, hp, hname⟩
    rwa [← eq_of_nameIn hname]
  · intro h
    refine ⟨_, h, ?_⟩
    simp [nameIn]

/-- **Children are listed by name**, in the order of texts. -/
theorem childNames_sorted (t : FileTree) (dir : List String) :
    (t.childNames dir).Pairwise (· ≤ ·) := by
  have h : (((t.entries.map Prod.fst).filterMap (nameIn dir)).mergeSort
      fun a b => decide (a ≤ b)).Pairwise fun a b => decide (a ≤ b) :=
    List.pairwise_mergeSort
      (fun a b c hab hbc => by simpa using le_trans (by simpa using hab) (by simpa using hbc))
      (fun a b => by simpa using le_total a b) _
  rw [childNames_eq]
  exact h.imp (by simp)

namespace WellFormed

variable {t : FileTree} (hwf : t.WellFormed)
include hwf

/-- A directory lists each child once. -/
theorem childNames_nodup (dir : List String) : (t.childNames dir).Nodup := by
  rw [childNames_eq, List.nodup_mergeSort]
  refine hwf.1.filterMap fun p p' name hp hp' => ?_
  rw [eq_of_nameIn hp, eq_of_nameIn hp']

/-- No child name holds a slash. -/
theorem slash_not_mem {dir : List String} {name : String} (h : name ∈ t.childNames dir) :
    '/' ∉ name.toList := by
  obtain ⟨e, he, hkey⟩ := List.mem_map.mp (mem_childNames.mp h)
  exact hwf.2 e he name (by simp [hkey])

end WellFormed

end FileTree

namespace FileSet

variable {t : FileTree}

/-- What the child `name` of the directory with real path `dir` leads to, links followed. -/
def child? (t : FileTree) (dir : List String) (name : String) : Option (List String × Entry) :=
  t.entryAt? (realText (dir ++ [name]))

/-- Whether the child `name` of a directory is a regular file. -/
def isFileChild (t : FileTree) (dir : List String) (name : String) : Bool :=
  match child? t dir name with
  | some (_, .file _) => true
  | _ => false

/-- The real path of the directory the child `name` of a directory leads to, if it leads to
one. -/
def subdirAt? (t : FileTree) (dir : List String) (name : String) : Option (List String) :=
  match child? t dir name with
  | some (real, .dir) => some real
  | _ => none

/-- The regular files directly in a directory, by name, sorted. -/
def fileNames (t : FileTree) (dir : List String) : List String :=
  (t.childNames dir).filter (isFileChild t dir)

/-- The subdirectories directly in a directory, by name and real path, sorted by name. -/
def subdirs (t : FileTree) (dir : List String) : List (String × List String) :=
  (t.childNames dir).filterMap fun name => (subdirAt? t dir name).map (name, ·)

/-- **The directory reached from a directory by a name path**, each name a child that leads to
a directory. -/
def descend (t : FileTree) (dir : List String) : List String → Option (List String)
  | [] => some dir
  | name :: rest =>
    if name ∈ t.childNames dir then (subdirAt? t dir name).bind fun real => descend t real rest
    else none

/-- **The files-first preorder** of the files at most `depth` levels below a directory, as name
paths: the directory's regular files, then each subdirectory's files in full, all by name. -/
def preorder (t : FileTree) : Nat → List String → List (List String)
  | 0, _ => []
  | depth + 1, dir =>
    (fileNames t dir).map ([·]) ++
      (subdirs t dir).flatMap fun sub => (preorder t depth sub.2).map (sub.1 :: ·)

/-- The subdirectories met at most `depth` levels below a directory, by name path and real
path, in the order a listing meets them: the directory's own, then those below each. -/
def reached (t : FileTree) : Nat → List String → List (List String × List String)
  | 0, _ => []
  | depth + 1, dir =>
    (subdirs t dir).map (fun sub => ([sub.1], sub.2)) ++
      (subdirs t dir).flatMap fun sub => (reached t depth sub.2).map fun q => (sub.1 :: q.1, q.2)

/-- The relative path of a name path: its names with `/` between them. -/
def relText (p : List String) : String := "/".intercalate p

/-- **No directory is reachable along two name paths** from the directory a root leads to: no
link leads back up, and no two links lead to one directory. -/
def NoAlias (t : FileTree) (root : String) : Prop :=
  ∀ real, t.dirIdentity? root = some real →
    ∀ q q' d, descend t real q = some d → descend t real q' = some d → q = q'

/-- A relative path names a regular file reachable below a root: a file of a directory that a
name path reaches. -/
def FileBelow (t : FileTree) (root rel : String) : Prop :=
  ∃ real, t.dirIdentity? root = some real ∧
    ∃ q d name, descend t real q = some d ∧ name ∈ fileNames t d ∧ rel = relText (q ++ [name])

/-! ## One child of a listing -/

theorem mem_subdirs {dir : List String} {name : String} {real : List String} :
    (name, real) ∈ subdirs t dir ↔ name ∈ t.childNames dir ∧ subdirAt? t dir name = some real := by
  simp [subdirs]

/-- **One child sorted into a listing**: a file is listed, a directory with a new identity is
kept for later and its identity recorded, anything else is passed over. -/
theorem classify_eq (dir : List String) (pre : String) (acc : Listing) (name : String) :
    classify t dir pre acc name =
      if isFileChild t dir name then { acc with files := acc.files ++ [pre ++ name] }
      else match subdirAt? t dir name with
        | some real =>
          if acc.seen.contains real then acc
          else { acc with pending := acc.pending ++ [(real, pre ++ name ++ "/")],
                          seen := acc.seen ++ [real] }
        | none => acc := by
  unfold classify isFileChild subdirAt? child?
  rcases h : t.entryAt? (realText (dir ++ [name])) with _ | ⟨real, _ | data | target⟩ <;> simp [h]

/-- **Listing a directory whose subdirectories are all new** lists its files in order and keeps
every subdirectory for later. -/
theorem foldl_classify (dir : List String) (pre : String) :
    ∀ (names : List String) (acc : Listing),
      (acc.seen ++ names.filterMap (subdirAt? t dir)).Nodup →
      names.foldl (classify t dir pre) acc =
        { files := acc.files ++ (names.filter (isFileChild t dir)).map (pre ++ ·),
          pending := acc.pending ++ (names.filterMap fun name =>
            (subdirAt? t dir name).map fun real => (real, pre ++ name ++ "/")),
          seen := acc.seen ++ names.filterMap (subdirAt? t dir) }
  | [], acc, _ => by simp
  | name :: rest, acc, hnd => by
    rw [List.foldl_cons, classify_eq]
    by_cases hfile : isFileChild t dir name = true
    · -- a file is no directory
      have hsub : subdirAt? t dir name = none := by
        unfold isFileChild at hfile
        unfold subdirAt?
        split at hfile <;> simp_all
      rw [if_pos hfile, foldl_classify dir pre rest _ (by simpa [hsub] using hnd)]
      simp [hfile, hsub]
    · rw [if_neg hfile]
      cases hsub : subdirAt? t dir name with
      | none =>
        rw [foldl_classify dir pre rest acc (by simpa [hsub] using hnd)]
        simp [hfile, hsub]
      | some real =>
        -- the identity is new: it comes after everything met so far in a list without repetition
        have hnew : acc.seen.contains real = false := by
          simp only [List.filterMap_cons, hsub] at hnd
          have := (List.nodup_append.mp hnd).2.2 real
          simp only [List.elem_eq_mem, decide_eq_false_iff_not]
          intro hmem
          exact this hmem real List.mem_cons_self rfl
        simp only [hnew, Bool.false_eq_true, if_false]
        rw [foldl_classify dir pre rest _ (by simpa [hsub] using hnd)]
        simp [hfile, hsub]

/-! ## The walk is the preorder -/

@[simp] theorem relText_singleton (name : String) : relText [name] = name :=
  String.intercalate_singleton

theorem relText_cons (name : String) {q : List String} (hq : q ≠ []) :
    relText (name :: q) = name ++ "/" ++ relText q := by
  obtain ⟨a, q', rfl⟩ := List.exists_cons_of_ne_nil hq
  simp [relText, String.intercalate_cons_cons]

/-- Every path of the preorder names a file, so none is empty. -/
theorem ne_nil_of_mem_preorder : ∀ {depth : Nat} {dir : List String} {p : List String},
    p ∈ preorder t depth dir → p ≠ []
  | 0, _, _, h => by simp [preorder] at h
  | depth + 1, dir, p, h => by
    simp only [preorder, List.mem_append, List.mem_map, List.mem_flatMap] at h
    rcases h with ⟨name, -, rfl⟩ | ⟨sub, -, q, -, rfl⟩ <;> simp

/-- The identities a listing meets: the directory's own subdirectories, then those below each. -/
theorem reached_succ_snd (depth : Nat) (dir : List String) :
    (reached t (depth + 1) dir).map Prod.snd =
      (subdirs t dir).map Prod.snd ++
        (subdirs t dir).flatMap fun sub => (reached t depth sub.2).map Prod.snd := by
  simp [reached, List.map_flatMap, Function.comp_def]

/-- Walking the subdirectories kept for later, one after another, when each walk lists its
share and records its own identities. -/
theorem foldl_walk {σ : Type} {subs : List σ}
    {step : List String × List (List String) → σ → List String × List (List String)}
    {A : σ → List String} {B : σ → List (List String)}
    (hstep : ∀ sub ∈ subs, ∀ files seen, (seen ++ B sub).Nodup →
      step (files, seen) sub = (files ++ A sub, seen ++ B sub)) :
    ∀ files seen, (seen ++ subs.flatMap B).Nodup →
      subs.foldl step (files, seen) = (files ++ subs.flatMap A, seen ++ subs.flatMap B) := by
  induction subs with
  | nil => simp
  | cons sub rest ih =>
    intro files seen hnd
    rw [List.flatMap_cons, ← List.append_assoc] at hnd
    rw [List.foldl_cons, hstep sub List.mem_cons_self files seen (hnd.sublist (by simp)),
      ih (fun sub' h => hstep sub' (List.mem_cons_of_mem _ h)) _ _ hnd]
    simp

/-- **The walk with a record of the identities met computes the preorder**, as long as that
record and the identities still to be met hold no repetition: the guard then never turns a
subdirectory away. -/
theorem walkFrom_eq : ∀ (depth : Nat) (dir : List String) (pre : String)
    (seen : List (List String)), (seen ++ (reached t depth dir).map Prod.snd).Nodup →
    walkFrom t depth dir pre seen =
      ((preorder t depth dir).map (pre ++ relText ·), seen ++ (reached t depth dir).map Prod.snd)
  | 0, _, _, _, _ => by simp [walkFrom, preorder, reached]
  | depth + 1, dir, pre, seen, hnd => by
    rw [reached_succ_snd, ← List.append_assoc] at hnd
    have hsubs : (t.childNames dir).filterMap (subdirAt? t dir) = (subdirs t dir).map Prod.snd := by
      simp [subdirs, List.map_filterMap]
    have hpending : ((t.childNames dir).filterMap fun name =>
        (subdirAt? t dir name).map fun real => (real, pre ++ name ++ "/")) =
        (subdirs t dir).map fun sub => (sub.2, pre ++ sub.1 ++ "/") := by
      simp only [subdirs, List.map_filterMap, Option.map_map]
      rfl
    -- the listing keeps every subdirectory, then each is walked in turn
    have hlisting := foldl_classify (t := t) dir pre (t.childNames dir) ⟨[], [], seen⟩
      (by rw [hsubs]; exact hnd.sublist (by simp))
    simp only [List.nil_append] at hlisting
    rw [walkFrom, hlisting, hpending, hsubs, List.foldl_map,
      foldl_walk (A := fun sub => (preorder t depth sub.2).map (pre ++ sub.1 ++ "/" ++ relText ·))
        (B := fun sub => (reached t depth sub.2).map Prod.snd)
        (fun sub _ files seen' h => by rw [walkFrom_eq depth sub.2 _ seen' h])
        _ _ (by simpa using hnd)]
    refine Prod.ext ?_ (by rw [reached_succ_snd, List.append_assoc])
    simp only [preorder, List.map_append, List.map_map, List.map_flatMap]
    congr 1
    refine List.flatMap_congr fun sub _ => List.map_congr_left fun q hq => ?_
    simp [relText_cons sub.1 (ne_nil_of_mem_preorder hq), String.append_assoc]

/-! ## What a name path reaches -/

/-- The names of the subdirectories are some of the children, in order. -/
theorem subdirs_fst_sublist (dir : List String) :
    ((subdirs t dir).map Prod.fst).Sublist (t.childNames dir) := by
  unfold subdirs
  induction t.childNames dir with
  | nil => simp
  | cons name rest ih =>
    cases h : subdirAt? t dir name with
    | none => simpa [List.filterMap_cons, h] using ih.cons name
    | some real => simpa [List.filterMap_cons, h] using ih

/-- A directory's files come sorted by name. -/
theorem fileNames_sorted (dir : List String) : (fileNames t dir).Pairwise (· ≤ ·) :=
  (t.childNames_sorted dir).filter _

/-- A directory's subdirectories come sorted by name. -/
theorem subdirs_sorted (dir : List String) : ((subdirs t dir).map Prod.fst).Pairwise (· ≤ ·) :=
  (t.childNames_sorted dir).sublist (subdirs_fst_sublist dir)

theorem descend_cons_eq_some {dir : List String} {name : String} {rest d : List String} :
    descend t dir (name :: rest) = some d ↔
      ∃ real, (name, real) ∈ subdirs t dir ∧ descend t real rest = some d := by
  rw [descend]
  split
  · rename_i hmem
    simp [Option.bind_eq_some_iff, mem_subdirs, hmem]
  · rename_i hmem
    simp [mem_subdirs, hmem]

theorem descend_append (dir : List String) :
    ∀ q q' : List String, descend t dir (q ++ q') = (descend t dir q).bind (descend t · q')
  | [], _ => rfl
  | name :: rest, q' => by
    simp only [List.cons_append, descend]
    split
    · cases subdirAt? t dir name with
      | none => rfl
      | some real => exact descend_append real rest q'
    · rfl

/-- **The subdirectories met are reached by their name paths**, none of them empty. -/
theorem mem_reached : ∀ {depth : Nat} {dir q r : List String},
    (q, r) ∈ reached t depth dir → descend t dir q = some r ∧ q ≠ []
  | 0, _, _, _, h => by simp [reached] at h
  | depth + 1, dir, q, r, h => by
    simp only [reached, List.mem_append, List.mem_map, List.mem_flatMap, Prod.mk.injEq] at h
    rcases h with ⟨sub, hsub, rfl, rfl⟩ | ⟨sub, hsub, q', hq', rfl, rfl⟩
    · exact ⟨descend_cons_eq_some.mpr ⟨_, hsub, rfl⟩, List.cons_ne_nil _ _⟩
    · exact ⟨descend_cons_eq_some.mpr ⟨_, hsub, (mem_reached hq').1⟩, List.cons_ne_nil _ _⟩

/-- **The preorder lists the files of the directories a name path reaches**, at most `depth`
levels down. -/
theorem mem_preorder : ∀ {depth : Nat} {dir p : List String},
    p ∈ preorder t depth dir ↔
      ∃ q d name, p = q ++ [name] ∧ q.length < depth ∧ descend t dir q = some d ∧
        name ∈ fileNames t d
  | 0, _, _ => by simp [preorder]
  | depth + 1, dir, p => by
    simp only [preorder, List.mem_append, List.mem_map, List.mem_flatMap]
    constructor
    · rintro (⟨name, hname, rfl⟩ | ⟨sub, hsub, p', hp', rfl⟩)
      · exact ⟨[], dir, name, rfl, Nat.succ_pos _, rfl, hname⟩
      · obtain ⟨q, d, name, rfl, hlen, hq, hname⟩ := mem_preorder.mp hp'
        exact ⟨sub.1 :: q, d, name, rfl, by simpa using hlen,
          descend_cons_eq_some.mpr ⟨sub.2, hsub, hq⟩, hname⟩
    · rintro ⟨q, d, name, rfl, hlen, hq, hname⟩
      cases q with
      | nil =>
        cases hq
        exact .inl ⟨name, hname, rfl⟩
      | cons a q =>
        obtain ⟨real, hsub, hq⟩ := descend_cons_eq_some.mp hq
        exact .inr ⟨(a, real), hsub, q ++ [name],
          mem_preorder.mpr ⟨q, d, name, rfl, by simpa using hlen, hq, hname⟩, rfl⟩

/-! ## No repetition -/

/-- Name paths prefixed by distinct names, each block without repetition, repeat nothing. -/
theorem nodup_flatMap_cons {σ : Type} {subs : List (String × σ)}
    (hnames : (subs.map Prod.fst).Nodup) {f : String × σ → List (List String)}
    (hf : ∀ sub ∈ subs, (f sub).Nodup) :
    (subs.flatMap fun sub => (f sub).map (sub.1 :: ·)).Nodup := by
  rw [List.nodup_flatMap]
  refine ⟨fun sub hsub => (hf sub hsub).map List.cons_injective, ?_⟩
  refine (List.pairwise_map.mp hnames).imp fun {a b} hab => ?_
  simp only [Function.onFun, List.disjoint_left, List.mem_map]
  rintro _ ⟨p, -, rfl⟩ ⟨p', -, h⟩
  exact hab (List.cons_eq_cons.mp h).1.symm

/-- A one-name path is none of the longer paths of a block below a subdirectory. -/
theorem singleton_not_mem_flatMap_cons {σ : Type} {subs : List (String × σ)}
    {f : String × σ → List (List String)} (hf : ∀ sub ∈ subs, ∀ q ∈ f sub, q ≠ [])
    (name : String) : [name] ∉ subs.flatMap fun sub => (f sub).map (sub.1 :: ·) := by
  simp only [List.mem_flatMap, List.mem_map, not_exists, not_and]
  intro sub hsub q hq h
  exact hf sub hsub q hq (List.cons_eq_cons.mp h).2

section Nodup

variable (hwf : t.WellFormed)
include hwf

theorem subdirs_fst_nodup (dir : List String) : ((subdirs t dir).map Prod.fst).Nodup :=
  (hwf.childNames_nodup dir).sublist (subdirs_fst_sublist dir)

/-- **The preorder lists each name path once.** -/
theorem preorder_nodup : ∀ (depth : Nat) (dir : List String), (preorder t depth dir).Nodup
  | 0, _ => by simp [preorder]
  | depth + 1, dir => by
    rw [preorder, List.nodup_append]
    refine ⟨((hwf.childNames_nodup dir).filter _).map fun _ _ h => List.singleton_injective h,
      nodup_flatMap_cons (subdirs_fst_nodup hwf dir) fun sub _ => preorder_nodup depth sub.2, ?_⟩
    rintro _ hfile p hp rfl
    obtain ⟨name, -, rfl⟩ := List.mem_map.mp hfile
    exact singleton_not_mem_flatMap_cons (fun sub _ q hq => ne_nil_of_mem_preorder hq) name hp

/-- **Each subdirectory met is met by one name path.** -/
theorem reached_fst_nodup : ∀ (depth : Nat) (dir : List String),
    ((reached t depth dir).map Prod.fst).Nodup
  | 0, _ => by simp [reached]
  | depth + 1, dir => by
    have hsplit : (reached t (depth + 1) dir).map Prod.fst =
        ((subdirs t dir).map Prod.fst).map ([·]) ++
          (subdirs t dir).flatMap fun sub => ((reached t depth sub.2).map Prod.fst).map (sub.1 :: ·) := by
      simp [reached, List.map_flatMap, Function.comp_def]
    rw [hsplit, List.nodup_append]
    refine ⟨(subdirs_fst_nodup hwf dir).map fun _ _ h => List.singleton_injective h,
      nodup_flatMap_cons (subdirs_fst_nodup hwf dir) fun sub _ => reached_fst_nodup depth sub.2, ?_⟩
    rintro _ hone p hp rfl
    obtain ⟨name, -, rfl⟩ := List.mem_map.mp hone
    refine singleton_not_mem_flatMap_cons (fun sub _ q hq => ?_) name hp
    obtain ⟨r, hr, rfl⟩ := List.mem_map.mp hq
    exact (mem_reached hr).2

/-- **Where no directory is reached along two name paths, the identities met repeat nothing**,
the directory's own included. -/
theorem reached_snd_nodup {dir : List String}
    (hinj : ∀ q q' d, descend t dir q = some d → descend t dir q' = some d → q = q')
    (depth : Nat) : (dir :: (reached t depth dir).map Prod.snd).Nodup := by
  rw [List.nodup_cons]
  constructor
  · intro hmem
    obtain ⟨⟨q, r⟩, hqr, hr⟩ := List.mem_map.mp hmem
    dsimp only at hr
    subst hr
    obtain ⟨hq, hne⟩ := mem_reached hqr
    exact hne (hinj q [] _ hq rfl)
  · refine List.Nodup.map_on (fun x hx y hy hxy => ?_) ((reached_fst_nodup hwf depth dir).of_map _)
    exact Prod.ext (hinj _ _ _ (mem_reached hx).1 (hxy ▸ (mem_reached hy).1)) hxy

end Nodup

/-! ## How deep a tree without aliases goes -/

theorem child?_of_subdirAt? {dir : List String} {name : String} {real : List String}
    (h : subdirAt? t dir name = some real) : child? t dir name = some (real, .dir) := by
  unfold subdirAt? at h
  split at h <;> simp_all

/-- The real path of an entry is the root's or a recorded one. -/
theorem mem_keys_of_entryAt {path : String} {p : List String} {e : Entry}
    (h : t.entryAt? path = some (p, e)) : p = [] ∨ p ∈ t.entries.map Prod.fst := by
  unfold FileTree.entryAt? at h
  split at h
  · obtain ⟨e', he', heq⟩ := Option.map_eq_some_iff.mp h
    cases heq
    unfold FileTree.lookup at he'
    split at he'
    · exact .inl (List.isEmpty_iff.mp ‹_›)
    · obtain ⟨x, hx, -⟩ := Option.map_eq_some_iff.mp he'
      have hkey : x.1 = p := by simpa using List.find?_some hx
      exact .inr (List.mem_map.mpr ⟨x, List.mem_of_find?_eq_some hx, hkey⟩)
  · cases h

theorem entryAt?_of_dirIdentity? {path : String} {real : List String}
    (h : t.dirIdentity? path = some real) : t.entryAt? path = some (real, .dir) := by
  unfold FileTree.dirIdentity? at h
  split at h <;> simp_all

/-- Every directory a name path reaches is the root or a recorded one. -/
theorem descend_mem_keys : ∀ {dir q d : List String},
    (dir = [] ∨ dir ∈ t.entries.map Prod.fst) → descend t dir q = some d →
      d = [] ∨ d ∈ t.entries.map Prod.fst
  | _, [], _, hdir, hq => by cases hq; exact hdir
  | dir, name :: rest, d, _, hq => by
    obtain ⟨real, hsub, hrest⟩ := descend_cons_eq_some.mp hq
    exact descend_mem_keys (mem_keys_of_entryAt (child?_of_subdirAt? (mem_subdirs.mp hsub).2)) hrest

/-- **A name path whose prefixes reach distinct directories is no longer than the tree has
entries**: its prefixes reach one directory each, all the root or recorded ones. -/
theorem length_le_of_prefixes {dir : List String} (hdir : dir = [] ∨ dir ∈ t.entries.map Prod.fst)
    {q d : List String} (hq : descend t dir q = some d)
    (hinj : ∀ p p' d', p <+: q → p' <+: q → descend t dir p = some d' →
      descend t dir p' = some d' → p = p') : q.length ≤ t.entries.length := by
  -- the prefixes of `q`, one per length
  have htakes : ((List.range (q.length + 1)).map (q.take ·)).Nodup :=
    List.nodup_range.map_on fun i hi j hj hij => by
      have := congrArg List.length hij
      simp only [List.mem_range, List.length_take] at hi hj this
      omega
  have htake_le : ∀ p ∈ (List.range (q.length + 1)).map (q.take ·), p <+: q := by
    intro p hp
    obtain ⟨k, -, rfl⟩ := List.mem_map.mp hp
    exact List.take_prefix k q
  have hreach : ∀ p ∈ (List.range (q.length + 1)).map (q.take ·), ∃ d', descend t dir p = some d' := by
    intro p hp
    obtain ⟨k, -, rfl⟩ := List.mem_map.mp hp
    have hsplit := descend_append (t := t) dir (q.take k) (q.drop k)
    rw [List.take_append_drop, hq] at hsplit
    cases h : descend t dir (q.take k) with
    | none => rw [h] at hsplit; cases hsplit
    | some d' => exact ⟨d', rfl⟩
  -- the directories they reach: as many, all distinct, all the root or recorded
  have hdirs : (((List.range (q.length + 1)).map (q.take ·)).map
      fun p => (descend t dir p).getD []).Nodup := by
    refine htakes.map_on fun p hp p' hp' h => ?_
    obtain ⟨d₁, h₁⟩ := hreach p hp
    obtain ⟨d₂, h₂⟩ := hreach p' hp'
    rw [h₁, h₂] at h
    exact hinj p p' d₁ (htake_le p hp) (htake_le p' hp') h₁ (by rw [h₂]; exact congrArg some h.symm)
  have hsub : (((List.range (q.length + 1)).map (q.take ·)).map
      fun p => (descend t dir p).getD []) ⊆ [] :: t.entries.map Prod.fst := by
    intro d' hd'
    obtain ⟨p, hp, rfl⟩ := List.mem_map.mp hd'
    obtain ⟨d₁, h₁⟩ := hreach p hp
    rw [h₁]
    rcases descend_mem_keys hdir h₁ with h | h
    · exact h ▸ List.mem_cons_self
    · exact List.mem_cons_of_mem _ h
  have := hdirs.length_le_of_subset hsub
  simp only [List.length_map, List.length_range, List.length_cons] at this
  omega

/-- **Past the deepest directory, more depth lists nothing more.** -/
theorem preorder_eq_of_deep : ∀ {depth depth' : Nat} {dir : List String},
    (∀ q d, descend t dir q = some d → q.length < depth) → depth ≤ depth' →
      preorder t depth' dir = preorder t depth dir
  | 0, _, dir, h, _ => absurd (h [] dir rfl) (by simp)
  | _ + 1, 0, _, _, hle => absurd hle (by omega)
  | depth + 1, depth' + 1, dir, h, hle => by
    simp only [preorder]
    congr 1
    refine List.flatMap_congr fun sub hsub => ?_
    -- a path below a subdirectory is one name shorter than the path to it from here
    have hdeep : ∀ q d, descend t sub.2 q = some d → q.length < depth := fun q d hq => by
      have := h (sub.1 :: q) d (descend_cons_eq_some.mpr ⟨sub.2, hsub, hq⟩)
      simpa using this
    rw [preorder_eq_of_deep hdeep (by omega : depth ≤ depth')]

/-- **Every subdirectory a short enough name path reaches is met.** -/
theorem mem_reached_of_descend : ∀ {depth : Nat} {dir q d : List String},
    descend t dir q = some d → q ≠ [] → q.length ≤ depth → (q, d) ∈ reached t depth dir
  | _, _, [], _, _, hne, _ => absurd rfl hne
  | 0, _, _ :: _, _, _, _, hlen => absurd hlen (by simp)
  | depth + 1, dir, name :: rest, d, hq, _, hlen => by
    obtain ⟨real, hsub, hrest⟩ := descend_cons_eq_some.mp hq
    simp only [reached, List.mem_append, List.mem_map, List.mem_flatMap, Prod.mk.injEq]
    cases rest with
    | nil =>
      obtain rfl : real = d := Option.some.inj hrest
      exact .inl ⟨(name, real), hsub, rfl, rfl⟩
    | cons a rest =>
      refine .inr ⟨(name, real), hsub, (a :: rest, d),
        mem_reached_of_descend hrest (List.cons_ne_nil _ _) (by simpa using hlen), rfl, rfl⟩

/-- **Whether a tree has aliases is decided by one listing**: where the directories met at most
as many levels down as the tree has entries repeat no identity, the root's included, no
directory is reachable along two name paths at any depth. -/
theorem noAlias_of_reached_nodup {root : String} {real : List String}
    (hreal : t.dirIdentity? root = some real)
    (h : (real :: (reached t (t.entries.length + 1) real).map Prod.snd).Nodup) :
    NoAlias t root := by
  intro real' hreal'
  rw [hreal, Option.some.injEq] at hreal'
  subst hreal'
  obtain ⟨hroot, hmet⟩ := List.nodup_cons.mp h
  -- two paths of at most that many names that reach one directory are one path
  have hsame : ∀ q q' d, q.length ≤ t.entries.length + 1 → q'.length ≤ t.entries.length + 1 →
      descend t real q = some d → descend t real q' = some d → q = q' := by
    intro q q' d hlen hlen' hq hq'
    have hmet_root : ∀ p, p ≠ [] → p.length ≤ t.entries.length + 1 →
        descend t real p = some real → False := fun p hne hp hd =>
      hroot (List.mem_map.mpr ⟨(p, real), mem_reached_of_descend hd hne hp, rfl⟩)
    cases q with
    | nil =>
      cases hq
      by_contra hne
      exact hmet_root q' (Ne.symm hne) hlen' hq'
    | cons a q =>
      cases q' with
      | nil =>
        cases hq'
        exact (hmet_root _ (List.cons_ne_nil _ _) hlen hq).elim
      | cons b q' =>
        have := List.inj_on_of_nodup_map hmet
          (mem_reached_of_descend hq (List.cons_ne_nil _ _) hlen)
          (mem_reached_of_descend hq' (List.cons_ne_nil _ _) hlen') rfl
        exact (Prod.mk.inj this).1
  -- so no path reaches deeper than the tree has entries
  have hshort : ∀ q d, descend t real q = some d → q.length ≤ t.entries.length := by
    intro q d hq
    by_contra hlong
    have hsplit := descend_append (t := t) real (q.take (t.entries.length + 1))
      (q.drop (t.entries.length + 1))
    rw [List.take_append_drop, hq] at hsplit
    cases hcut : descend t real (q.take (t.entries.length + 1)) with
    | none => rw [hcut] at hsplit; cases hsplit
    | some d₀ =>
      have hlen : (q.take (t.entries.length + 1)).length = t.entries.length + 1 :=
        List.length_take_of_le (by omega)
      have := length_le_of_prefixes (mem_keys_of_entryAt (entryAt?_of_dirIdentity? hreal)) hcut
        fun p p' d' hp hp' hd hd' => hsame p p' d' (hlen ▸ hp.length_le) (hlen ▸ hp'.length_le) hd hd'
      omega
  exact fun q q' d hq hq' =>
    hsame q q' d (by have := hshort q d hq; omega) (by have := hshort q' d hq'; omega) hq hq'

/-! ## Relative paths -/

/-- Every name on a path that reaches a directory is a child of some directory. -/
theorem mem_childNames_of_descend : ∀ {dir q d : List String}, descend t dir q = some d →
    ∀ c ∈ q, ∃ dir', c ∈ t.childNames dir'
  | _, [], _, _, c, hc => by simp at hc
  | dir, name :: rest, d, hq, c, hc => by
    obtain ⟨real, hsub, hrest⟩ := descend_cons_eq_some.mp hq
    rcases List.mem_cons.mp hc with rfl | hc
    · exact ⟨dir, (mem_subdirs.mp hsub).1⟩
    · exact mem_childNames_of_descend hrest c hc

/-- No name on the name path of a file reached from a directory holds a slash. -/
theorem slash_not_mem_of_descend (hwf : t.WellFormed) {dir q d : List String} {name : String}
    (hq : descend t dir q = some d) (hname : name ∈ fileNames t d) :
    ∀ c ∈ q ++ [name], '/' ∉ c.toList := by
  intro c hc
  rcases List.mem_append.mp hc with hc | hc
  · obtain ⟨dir', hdir'⟩ := mem_childNames_of_descend hq c hc
    exact hwf.slash_not_mem hdir'
  · rw [List.mem_singleton.mp hc]
    exact hwf.slash_not_mem (List.mem_filter.mp hname).1

/-- No name on a path of the preorder holds a slash. -/
theorem slash_not_mem_of_mem_preorder (hwf : t.WellFormed) {depth : Nat} {dir p : List String}
    (hp : p ∈ preorder t depth dir) : ∀ c ∈ p, '/' ∉ c.toList := by
  obtain ⟨q, d, name, rfl, -, hq, hname⟩ := mem_preorder.mp hp
  exact slash_not_mem_of_descend hwf hq hname

/-- **Names without slashes are read back from their relative path.** -/
theorem relText_inj {p p' : List String} (hp : p ≠ []) (hp' : p' ≠ [])
    (hs : ∀ c ∈ p, '/' ∉ c.toList) (hs' : ∀ c ∈ p', '/' ∉ c.toList)
    (h : relText p = relText p') : p = p' := by
  have hchars := congrArg (fun s => s.toList.splitOn '/') h
  simp only [relText, String.toList_intercalate] at hchars
  rw [show "/".toList = ['/'] from rfl,
    List.splitOn_intercalate '/' (by simpa using hs) (by simpa using hp),
    List.splitOn_intercalate '/' (by simpa using hs') (by simpa using hp')] at hchars
  exact List.map_injective_iff.mpr (fun a b hab => String.toList_injective hab) hchars

/-! ## The walk below a root -/

section Walk

variable {root : String}

/-- Without aliases, every name path from the root is shorter than the tree has entries, plus
one. -/
theorem depth_lt_of_noAlias (hna : NoAlias t root) {real : List String}
    (hreal : t.dirIdentity? root = some real) :
    ∀ q d, descend t real q = some d → q.length < t.entries.length + 1 := fun _ _ hq =>
  Nat.lt_succ_of_le (length_le_of_prefixes (mem_keys_of_entryAt (entryAt?_of_dirIdentity? hreal)) hq
    fun p p' _ _ _ hp hp' => hna real hreal p p' _ hp hp')

variable (hwf : t.WellFormed) (hna : NoAlias t root)
include hwf hna

/-- **The walk of a tree without aliases is its files-first preorder**, at any depth past the
number of entries of the tree. -/
theorem walk_eq_preorder {real : List String} (hreal : t.dirIdentity? root = some real)
    {depth : Nat} (hdepth : t.entries.length < depth) :
    walk t root = (preorder t depth real).map relText := by
  rw [walk, hreal]
  dsimp only
  rw [walkFrom_eq _ _ _ _ (by simpa using reached_snd_nodup hwf (hna real hreal) _),
    preorder_eq_of_deep (depth_lt_of_noAlias hna hreal) hdepth]
  simp

/-- **The walk lists exactly the regular files reachable below the root**, by relative path. -/
theorem mem_walk (rel : String) : rel ∈ walk t root ↔ FileBelow t root rel := by
  cases hreal : t.dirIdentity? root with
  | none => simp [walk, hreal, FileBelow]
  | some real =>
    rw [walk_eq_preorder hwf hna hreal (Nat.lt_succ_self _)]
    simp only [List.mem_map, mem_preorder, FileBelow, hreal, Option.some.injEq]
    constructor
    · rintro ⟨_, ⟨q, d, name, rfl, -, hq, hname⟩, rfl⟩
      exact ⟨real, rfl, q, d, name, hq, hname, rfl⟩
    · rintro ⟨_, rfl, q, d, name, hq, hname, rfl⟩
      exact ⟨_, ⟨q, d, name, rfl, depth_lt_of_noAlias hna hreal q d hq, hq, hname⟩, rfl⟩

/-- **The walk lists each file once.** -/
theorem walk_nodup : (walk t root).Nodup := by
  cases hreal : t.dirIdentity? root with
  | none => simp [walk, hreal]
  | some real =>
    rw [walk_eq_preorder hwf hna hreal (Nat.lt_succ_self _)]
    exact (preorder_nodup hwf _ _).map_on fun p hp p' hp' h =>
      relText_inj (ne_nil_of_mem_preorder hp) (ne_nil_of_mem_preorder hp')
        (slash_not_mem_of_mem_preorder hwf hp) (slash_not_mem_of_mem_preorder hwf hp') h

end Walk

/-! ## The selection -/

/-- The include patterns a selection uses: the non-blank ones given, or `**/*.class` when there
are none. -/
def effectiveIncludes (includes : List String) : List String :=
  match includes.filter (!Text.isBlankText ·) with
  | [] => [defaultInclude]
  | ps => ps

/-- The exclude patterns a selection uses: the non-blank ones given, then the default ones when
asked for. -/
def effectiveExcludes (excludes : List String) (useDefaultExcludes : Bool) : List String :=
  excludes.filter (!Text.isBlankText ·) ++ if useDefaultExcludes then defaultExcludes else []

/-- **A relative path a selection keeps**: some effective include pattern selects it, and no
effective exclude pattern does. -/
def Selected (includes excludes : List String) (useDefaultExcludes : Bool) (rel : String) : Prop :=
  (∃ p ∈ effectiveIncludes includes, (Glob.ofString p).selects rel = true) ∧
    ∀ p ∈ effectiveExcludes excludes useDefaultExcludes, (Glob.ofString p).selects rel = false

instance (includes excludes : List String) (useDefaultExcludes : Bool) :
    DecidablePred (Selected includes excludes useDefaultExcludes) :=
  fun _ => inferInstanceAs (Decidable (_ ∧ _))

theorem Glob.ofList_eq (patterns : List String) :
    Glob.ofList patterns = (patterns.filter (!Text.isBlankText ·)).map Glob.ofString := by
  induction patterns with
  | nil => rfl
  | cons p rest ih =>
    by_cases hp : Text.isBlankText p = true <;> simp [Glob.ofList, hp] at ih ⊢ <;> exact ih

theorem effectiveIncludes_of_nil {includes : List String}
    (h : includes.filter (!Text.isBlankText ·) = []) : effectiveIncludes includes = [defaultInclude] := by
  simp [effectiveIncludes, h]

theorem effectiveIncludes_of_ne_nil {includes : List String}
    (h : includes.filter (!Text.isBlankText ·) ≠ []) :
    effectiveIncludes includes = includes.filter (!Text.isBlankText ·) := by
  unfold effectiveIncludes
  split <;> simp_all

/-- The test a selection runs on a path is `Selected`. -/
theorem any_selects_eq (includes excludes : List String) (useDefaultExcludes : Bool) (rel : String) :
    (((effectiveIncludes includes).map Glob.ofString).any (·.selects rel) &&
      !((effectiveExcludes excludes useDefaultExcludes).map Glob.ofString).any (·.selects rel)) =
      decide (Selected includes excludes useDefaultExcludes rel) := by
  rw [Bool.eq_iff_iff, decide_eq_true_iff]
  simp [Selected, List.any_map]

/-- **What a selection is**: the files of the walk that its patterns select, or nothing when the
root is no directory. -/
theorem select_eq (t : FileTree) (root : String) (includes excludes : List String)
    (useDefaultExcludes : Bool) :
    select t root includes excludes useDefaultExcludes =
      if t.isDir root then
        (walk t root).filter fun rel => decide (Selected includes excludes useDefaultExcludes rel)
      else [] := by
  have hexc : Glob.ofList excludes ++
      (if useDefaultExcludes then Glob.ofList defaultExcludes else []) =
      (effectiveExcludes excludes useDefaultExcludes).map Glob.ofString := by
    have hdefault : defaultExcludes.filter (!Text.isBlankText ·) = defaultExcludes := by decide
    cases useDefaultExcludes <;> simp [effectiveExcludes, Glob.ofList_eq, hdefault]
  unfold select
  dsimp only
  rw [hexc, Glob.ofList_eq includes]
  split
  · congr 1
    funext rel
    rw [← any_selects_eq]
    -- no include pattern given: the default one
    split
    · rename_i hnil
      rw [effectiveIncludes_of_nil (List.map_eq_nil_iff.mp hnil)]
      rfl
    · rename_i hne
      rw [effectiveIncludes_of_ne_nil fun h => hne (by simp [h])]
  · rfl

theorem isDir_iff {root : String} :
    t.isDir root = true ↔ ∃ real, t.dirIdentity? root = some real := by
  unfold FileTree.isDir FileTree.dirIdentity?
  split <;> simp_all

/-- **A root that is no directory selects nothing.** -/
theorem select_of_not_isDir {root : String} (h : t.isDir root = false)
    (includes excludes : List String) (useDefaultExcludes : Bool) :
    select t root includes excludes useDefaultExcludes = [] := by
  rw [select_eq, if_neg (by simp [h])]

/-- **An exclude pattern always wins**: a path one effective exclude selects is never kept, whatever
the includes. -/
theorem not_mem_select_of_excluded {root rel p : String} {includes excludes : List String}
    {useDefaultExcludes : Bool} (hp : p ∈ effectiveExcludes excludes useDefaultExcludes)
    (hsel : (Glob.ofString p).selects rel = true) :
    rel ∉ select t root includes excludes useDefaultExcludes := by
  rw [select_eq]
  split
  · intro hrel
    have hkept := (List.mem_filter.mp hrel).2
    simp only [decide_eq_true_eq] at hkept
    simp [hkept.2 p hp] at hsel
  · exact List.not_mem_nil

/-- Patterns that keep fewer paths select a sublist: both selections filter the same walk. -/
theorem select_sublist_of_selected {root : String} {includes excludes includes' excludes' : List String}
    {useDefaultExcludes : Bool}
    (h : ∀ rel, Selected includes' excludes' useDefaultExcludes rel →
      Selected includes excludes useDefaultExcludes rel) :
    (select t root includes' excludes' useDefaultExcludes).Sublist
      (select t root includes excludes useDefaultExcludes) := by
  rw [select_eq, select_eq]
  split
  · refine List.monotone_filter_right _ fun rel hrel => ?_
    simp only [decide_eq_true_eq] at hrel ⊢
    exact h rel hrel
  · exact List.Sublist.refl _

/-- **More exclude patterns never add a file**: the selection only loses paths, keeping the order
of the others. -/
theorem select_sublist_of_excludes_subset {root : String} {includes excludes excludes' : List String}
    {useDefaultExcludes : Bool} (h : excludes ⊆ excludes') :
    (select t root includes excludes' useDefaultExcludes).Sublist
      (select t root includes excludes useDefaultExcludes) := by
  apply select_sublist_of_selected
  rintro rel ⟨hinc, hexc⟩
  refine ⟨hinc, fun p hp => hexc p ?_⟩
  simp only [effectiveExcludes, List.mem_append, List.mem_filter] at hp ⊢
  exact hp.imp_left fun hp => ⟨h hp.1, hp.2⟩

/-- **More include patterns never remove a file, once one non-blank pattern is given**: the
default pattern is then out of play. -/
theorem select_sublist_of_includes_subset {root : String} {includes includes' excludes : List String}
    {useDefaultExcludes : Bool} (hne : ∃ p ∈ includes, Text.isBlankText p = false)
    (h : includes ⊆ includes') :
    (select t root includes excludes useDefaultExcludes).Sublist
      (select t root includes' excludes useDefaultExcludes) := by
  obtain ⟨p₀, hp₀, hblank⟩ := hne
  have hgiven : ∀ ps : List String, p₀ ∈ ps → effectiveIncludes ps = ps.filter (!Text.isBlankText ·) :=
    fun ps hps => effectiveIncludes_of_ne_nil (List.ne_nil_of_mem (List.mem_filter.mpr ⟨hps, by simp [hblank]⟩))
  apply select_sublist_of_selected
  rintro rel ⟨⟨p, hp, hsel⟩, hexc⟩
  rw [hgiven includes hp₀] at hp
  refine ⟨⟨p, ?_, hsel⟩, hexc⟩
  rw [hgiven includes' (h hp₀)]
  exact List.mem_filter.mpr ⟨h (List.mem_filter.mp hp).1, (List.mem_filter.mp hp).2⟩

section Selection

variable {root : String} (hwf : t.WellFormed) (hna : NoAlias t root)
include hwf hna

/-- **A selection keeps exactly the reachable files its patterns select.** -/
theorem mem_select (includes excludes : List String) (useDefaultExcludes : Bool) (rel : String) :
    rel ∈ select t root includes excludes useDefaultExcludes ↔
      FileBelow t root rel ∧ Selected includes excludes useDefaultExcludes rel := by
  rw [select_eq]
  split
  · simp [mem_walk hwf hna]
  · rename_i hdir
    simp only [List.not_mem_nil, false_iff, not_and]
    rintro ⟨real, hreal, -⟩
    exact absurd (isDir_iff.mpr ⟨real, hreal⟩) hdir

/-- **A selection lists each file once.** -/
theorem select_nodup (includes excludes : List String) (useDefaultExcludes : Bool) :
    (select t root includes excludes useDefaultExcludes).Nodup := by
  rw [select_eq]
  split
  · exact (walk_nodup hwf hna).filter _
  · exact List.nodup_nil

/-- **A selection keeps the files-first preorder**, at any depth past the number of entries. -/
theorem select_eq_preorder (includes excludes : List String) (useDefaultExcludes : Bool)
    {real : List String} (hreal : t.dirIdentity? root = some real) {depth : Nat}
    (hdepth : t.entries.length < depth) :
    select t root includes excludes useDefaultExcludes =
      ((preorder t depth real).map relText).filter
        fun rel => decide (Selected includes excludes useDefaultExcludes rel) := by
  rw [select_eq, if_pos (isDir_iff.mpr ⟨real, hreal⟩), walk_eq_preorder hwf hna hreal hdepth]

end Selection

/-- **The selection below a root.**  On a tree where no directory is reached along two name
paths, the selection lists each regular file below the root at most once, by relative path; it
lists a file exactly when an effective include selects it and no effective exclude does, so an
exclude always wins; the files come in the files-first preorder, each directory's names sorted;
a root that is no directory gives nothing; more excludes never add a file, and more includes,
once a non-blank one is given, never remove one. -/
theorem select_files_first {root : String} (hwf : t.WellFormed) (hna : NoAlias t root)
    (includes excludes : List String) (useDefaultExcludes : Bool) :
    (select t root includes excludes useDefaultExcludes).Nodup ∧
    (∀ rel, rel ∈ select t root includes excludes useDefaultExcludes ↔
      FileBelow t root rel ∧ Selected includes excludes useDefaultExcludes rel) ∧
    (∀ rel, ∀ p ∈ effectiveExcludes excludes useDefaultExcludes, (Glob.ofString p).selects rel →
      rel ∉ select t root includes excludes useDefaultExcludes) ∧
    (∀ real, t.dirIdentity? root = some real → ∀ depth, t.entries.length < depth →
      select t root includes excludes useDefaultExcludes =
        ((preorder t depth real).map relText).filter
          fun rel => decide (Selected includes excludes useDefaultExcludes rel)) ∧
    (∀ dir, (fileNames t dir).Pairwise (· ≤ ·) ∧ ((subdirs t dir).map Prod.fst).Pairwise (· ≤ ·)) ∧
    (t.isDir root = false → select t root includes excludes useDefaultExcludes = []) ∧
    (∀ excludes', excludes ⊆ excludes' →
      (select t root includes excludes' useDefaultExcludes).Sublist
        (select t root includes excludes useDefaultExcludes)) ∧
    (∀ includes', (∃ p ∈ includes, Text.isBlankText p = false) → includes ⊆ includes' →
      (select t root includes excludes useDefaultExcludes).Sublist
        (select t root includes' excludes useDefaultExcludes)) :=
  ⟨select_nodup hwf hna includes excludes useDefaultExcludes,
    mem_select hwf hna includes excludes useDefaultExcludes,
    fun _ _ hp hsel => not_mem_select_of_excluded hp hsel,
    fun _ hreal _ hdepth => select_eq_preorder hwf hna includes excludes useDefaultExcludes hreal hdepth,
    fun dir => ⟨fileNames_sorted dir, subdirs_sorted dir⟩,
    fun h => select_of_not_isDir h includes excludes useDefaultExcludes,
    fun _ h => select_sublist_of_excludes_subset h,
    fun _ hne h => select_sublist_of_includes_subset hne h⟩

/-- A class directory with a file, a package holding a file, and a subpackage holding one more. -/
def sampleTree : FileTree :=
  ((((((FileTree.initial.put ["work", "c"] .dir).put ["work", "c", "X.class"] (.file [])).put
    ["work", "c", "a"] .dir).put ["work", "c", "a", "Y.class"] (.file [])).put
    ["work", "c", "a", "sub"] .dir).put ["work", "c", "a", "sub", "W.class"] (.file []))

/-- The sample tree is a file system without aliases, so the selection below its class directory
lists its files once each. -/
theorem sampleTree_select_files_first :
    sampleTree.WellFormed ∧ NoAlias sampleTree "/work/c" ∧
      (select sampleTree "/work/c" [] [] true).Nodup := by
  have hwf : sampleTree.WellFormed := by decide
  have hna : NoAlias sampleTree "/work/c" := by
    refine noAlias_of_reached_nodup
      (show sampleTree.dirIdentity? "/work/c" = some ["work", "c"] by cbv) ?_
    cbv
    decide
  exact ⟨hwf, hna, (select_files_first hwf hna [] [] true).1⟩

end FileSet

end ApiAudit
