import Mathlib
import ApiAudit.Proofs.FileWalk

/-!
# Proofs/WalkOnce — the walk enters each directory once, links and loops included

The walk below a root (`FileSet.walk`) meets a subdirectory's identity when it lists the
directory holding it, and enters the subdirectory only when that identity is new; the root's
identity is met first.  Where links make a directory reachable along several name paths, or
lead back up, this guard is what ends the walk.

To speak of the directories the walk enters, `FileSet.enteredFrom` follows the walk step by step
and records each directory it lists, with the prefix its files get; the walk lists exactly the
files of those directories (`walkFrom_eq_entered`).

* Each directory the walk enters below another brings an identity it had not met before
  (`enteredFrom_enters`).
* Fuel: there are only so many identities (`unmet`), so while the fuel exceeds those not yet
  met the walk explores all it meets (`enteredFrom_explores`) and more fuel changes nothing
  (`enteredFrom_more_fuel`).
* Each directory entered is reached from the root by the name path its prefix spells
  (`enteredFrom_reached`), and those entered are closed under subdirectories
  (`mem_entered_iff`).

Main statement: `walk_enters_each_once`.
-/

namespace ApiAudit

namespace FileSet

variable {t : FileTree}

/-! ## What one listing records

Listing a directory appends its regular files, then keeps, in name order, each subdirectory
whose identity is new, recording that identity at once. -/

/-- A child that leads to a directory is no regular file. -/
theorem isFileChild_of_subdirAt? {dir : List String} {name : String} {real : List String}
    (h : subdirAt? t dir name = some real) : isFileChild t dir name = false := by
  simp [isFileChild, child?_of_subdirAt? h]

/-- **A listing appends the regular files**, whatever identities it has met. -/
theorem foldl_classify_files (dir : List String) (pre : String) :
    ∀ (names : List String) (acc : Listing),
      (names.foldl (classify t dir pre) acc).files =
        acc.files ++ (names.filter (isFileChild t dir)).map (pre ++ ·)
  | [], acc => by simp
  | name :: rest, acc => by
    rw [List.foldl_cons, foldl_classify_files dir pre rest, classify_eq]
    by_cases hfile : isFileChild t dir name = true
    · simp [hfile]
    · rw [if_neg hfile]
      cases subdirAt? t dir name with
      | none => simp [hfile]
      | some real =>
        dsimp only
        split <;> simp [hfile]

/-- **A listing keeps the subdirectories with new identities**: what it keeps is appended to the
pending list, their identities to those met, none of them met before and no two alike, each a
child of the directory with the prefix of its name. -/
theorem foldl_classify_pending (dir : List String) (pre : String) :
    ∀ (names : List String) (acc : Listing), ∃ P : List (List String × String),
      (names.foldl (classify t dir pre) acc).pending = acc.pending ++ P ∧
      (names.foldl (classify t dir pre) acc).seen = acc.seen ++ P.map Prod.fst ∧
      (P.map Prod.fst).Nodup ∧
      ∀ x ∈ P, x.1 ∉ acc.seen ∧
        ∃ name ∈ names, subdirAt? t dir name = some x.1 ∧ x.2 = pre ++ name ++ "/"
  | [], acc => ⟨[], by simp⟩
  | name :: rest, acc => by
    -- a child that changes neither the pending list nor the identities met
    have keep : ∀ acc' : Listing, acc'.pending = acc.pending → acc'.seen = acc.seen →
        ∃ P : List (List String × String),
          (rest.foldl (classify t dir pre) acc').pending = acc.pending ++ P ∧
          (rest.foldl (classify t dir pre) acc').seen = acc.seen ++ P.map Prod.fst ∧
          (P.map Prod.fst).Nodup ∧
          ∀ x ∈ P, x.1 ∉ acc.seen ∧
            ∃ n ∈ name :: rest, subdirAt? t dir n = some x.1 ∧ x.2 = pre ++ n ++ "/" := by
      intro acc' hp hs
      obtain ⟨P, hpend, hseen, hnd, hP⟩ := foldl_classify_pending dir pre rest acc'
      refine ⟨P, hp ▸ hpend, hs ▸ hseen, hnd, fun x hx => ?_⟩
      obtain ⟨hnew, n, hn, hsub⟩ := hP x hx
      exact ⟨hs ▸ hnew, n, List.mem_cons_of_mem _ hn, hsub⟩
    rw [List.foldl_cons, classify_eq]
    by_cases hfile : isFileChild t dir name = true
    · rw [if_pos hfile]
      exact keep _ rfl rfl
    rw [if_neg hfile]
    cases hsub : subdirAt? t dir name with
    | none => exact keep _ rfl rfl
    | some real =>
      dsimp only
      by_cases hmet : acc.seen.contains real = true
      · rw [if_pos hmet]
        exact keep _ rfl rfl
      rw [if_neg hmet]
      -- a new identity: the subdirectory is kept and its identity met
      obtain ⟨P, hpend, hseen, hnd, hP⟩ := foldl_classify_pending dir pre rest
        { acc with pending := acc.pending ++ [(real, pre ++ name ++ "/")], seen := acc.seen ++ [real] }
      have hreal : real ∉ acc.seen := by simpa using hmet
      refine ⟨(real, pre ++ name ++ "/") :: P, by simpa using hpend, by simpa using hseen, ?_, ?_⟩
      · refine List.nodup_cons.mpr ⟨fun hmem => ?_, hnd⟩
        obtain ⟨x, hx, hxreal⟩ := List.mem_map.mp hmem
        exact (hP x hx).1 (by simp [hxreal])
      · intro x hx
        rcases List.mem_cons.mp hx with rfl | hx
        · exact ⟨hreal, name, List.mem_cons_self, hsub, rfl⟩
        · obtain ⟨hnew, n, hn, hsub'⟩ := hP x hx
          exact ⟨fun h => hnew (List.mem_append_left _ h), n, List.mem_cons_of_mem _ hn, hsub'⟩

/-- **Every subdirectory of a listed directory has its identity met** once the listing is done:
it is kept now or was met before. -/
theorem foldl_classify_meets (dir : List String) (pre : String) :
    ∀ (names : List String) (acc : Listing), ∀ name ∈ names, ∀ real,
      subdirAt? t dir name = some real → real ∈ (names.foldl (classify t dir pre) acc).seen
  | [], _, _, hname, _, _ => absurd hname List.not_mem_nil
  | n :: rest, acc, name, hname, real, hsub => by
    rw [List.foldl_cons]
    rcases List.mem_cons.mp hname with rfl | hrest
    · -- the identity is met by this child's step, and stays met
      have hmet : real ∈ (classify t dir pre acc name).seen := by
        rw [classify_eq, if_neg (by simp [isFileChild_of_subdirAt? hsub]), hsub]
        dsimp only
        split
        · rename_i hmet
          simpa using hmet
        · simp
      obtain ⟨P, -, hseen, -⟩ := foldl_classify_pending dir pre rest (classify t dir pre acc name)
      rw [hseen]
      exact List.mem_append_left _ hmet
    · exact foldl_classify_meets dir pre rest _ name hrest real hsub

/-! ## The directories a walk enters -/

/-- **The directories a walk enters**, each with the prefix its files get, in the order the walk
enters them, and the identities it has met: the walk of `FileSet.walkFrom`, step by step. -/
def enteredFrom (t : FileTree) : Nat → List String → String → List (List String) →
    List (List String × String) × List (List String)
  | 0, _, _, seen => ([], seen)
  | fuel + 1, dir, pre, seen =>
    ((t.childNames dir).foldl (classify t dir pre) ⟨[], [], seen⟩).pending.foldl
      (fun acc sub => (acc.1 ++ (enteredFrom t fuel sub.1 sub.2 acc.2).1,
        (enteredFrom t fuel sub.1 sub.2 acc.2).2))
      ([(dir, pre)], ((t.childNames dir).foldl (classify t dir pre) ⟨[], [], seen⟩).seen)

/-- One subdirectory walked after those before it: its entries follow theirs, and it starts
from the identities they met. -/
def thenEnter (g : List String × String → List (List String) →
    List (List String × String) × List (List String))
    (acc : List (List String × String) × List (List String)) (sub : List String × String) :
    List (List String × String) × List (List String) :=
  (acc.1 ++ (g sub acc.2).1, (g sub acc.2).2)

theorem enteredFrom_succ (fuel : Nat) (dir : List String) (pre : String)
    (seen : List (List String)) :
    enteredFrom t (fuel + 1) dir pre seen =
      ((t.childNames dir).foldl (classify t dir pre) ⟨[], [], seen⟩).pending.foldl
        (thenEnter fun sub s => enteredFrom t fuel sub.1 sub.2 s)
        ([(dir, pre)], ((t.childNames dir).foldl (classify t dir pre) ⟨[], [], seen⟩).seen) :=
  rfl

/-- **The walk lists the regular files of the directories it enters**, each behind its prefix. -/
theorem walkFrom_eq_entered : ∀ (fuel : Nat) (dir : List String) (pre : String)
    (seen : List (List String)),
    walkFrom t fuel dir pre seen =
      ((enteredFrom t fuel dir pre seen).1.flatMap fun e => (fileNames t e.1).map (e.2 ++ ·),
        (enteredFrom t fuel dir pre seen).2)
  | 0, _, _, _ => rfl
  | fuel + 1, dir, pre, seen => by
    -- both walks fold over one listing; reading the entries' files commutes with each step
    let files : List (List String × String) × List (List String) →
        List String × List (List String) :=
      fun r => (r.1.flatMap fun e => (fileNames t e.1).map (e.2 ++ ·), r.2)
    have hstep : ∀ acc sub,
        (fun (acc : List String × List (List String)) (sub : List String × String) =>
          (acc.1 ++ (walkFrom t fuel sub.1 sub.2 acc.2).1, (walkFrom t fuel sub.1 sub.2 acc.2).2))
        (files acc) sub =
        files (thenEnter (fun sub s => enteredFrom t fuel sub.1 sub.2 s) acc sub) := by
      intro acc sub
      simp only [files, thenEnter, walkFrom_eq_entered fuel, List.flatMap_append]
    have hfiles := foldl_classify_files (t := t) dir pre (t.childNames dir) ⟨[], [], seen⟩
    rw [walkFrom, enteredFrom_succ]
    dsimp only
    rw [hfiles, List.nil_append, show (((t.childNames dir).filter (isFileChild t dir)).map (pre ++ ·),
      ((t.childNames dir).foldl (classify t dir pre) ⟨[], [], seen⟩).seen) =
        files ([(dir, pre)], ((t.childNames dir).foldl (classify t dir pre) ⟨[], [], seen⟩).seen) by
      simp [files, fileNames]]
    exact List.foldl_hom files hstep

/-! ## Walking subdirectories one after another

The walk of each subdirectory kept by a listing starts from the identities met by the walks
before it.  These lemmas say what such a sequence of walks keeps, given what each walk keeps;
all but the first two need each walk to add to the identities it is given. -/

/-- **What walking from a directory keeps**, given the identities met before: the directories
entered are the directory itself and directories whose identities it met new, each entered
once. -/
def Enters (dir : List String) (seen : List (List String))
    (r : List (List String × String) × List (List String)) : Prop :=
  (r.1.map Prod.fst).Nodup ∧ ∀ d ∈ r.1.map Prod.fst, d = dir ∨ (d ∈ r.2 ∧ d ∉ seen)

/-- **What a walk with enough fuel has explored**: every subdirectory of a directory it entered
has its identity met, and every identity it met new is a directory it entered. -/
def Explores (t : FileTree) (seen : List (List String))
    (r : List (List String × String) × List (List String)) : Prop :=
  (∀ e ∈ r.1, (subdirs t e.1).map Prod.snd ⊆ r.2) ∧
    ∀ d ∈ r.2, d ∉ seen → d ∈ r.1.map Prod.fst

section Sequence

variable {g : List String × String → List (List String) →
  List (List String × String) × List (List String)}

/-- The entries of walks in sequence follow the entries before them. -/
theorem foldl_thenEnter_fst : ∀ (subs : List (List String × String))
    (A : List (List String × String)) (s : List (List String)),
    ∃ B, (subs.foldl (thenEnter g) (A, s)).1 = A ++ B
  | [], A, s => ⟨[], by simp⟩
  | sub :: rest, A, s => by
    obtain ⟨B, hB⟩ := foldl_thenEnter_fst rest (A ++ (g sub s).1) (g sub s).2
    exact ⟨(g sub s).1 ++ B, by simp [thenEnter, hB]⟩

/-- An entry of walks in sequence is one of the entries before them or an entry of the walk of
one subdirectory. -/
theorem mem_foldl_thenEnter : ∀ (subs : List (List String × String))
    (A : List (List String × String)) (s : List (List String)) (e : List String × String),
    e ∈ (subs.foldl (thenEnter g) (A, s)).1 →
      e ∈ A ∨ ∃ sub ∈ subs, ∃ s', e ∈ (g sub s').1
  | [], _, _, _, h => .inl h
  | sub :: rest, A, s, e, h => by
    simp only [List.foldl_cons, thenEnter] at h
    rcases mem_foldl_thenEnter rest _ _ e h with h | ⟨sub', hsub', s', he⟩
    · rcases List.mem_append.mp h with h | h
      · exact .inl h
      · exact .inr ⟨sub, List.mem_cons_self, s, h⟩
    · exact .inr ⟨sub', List.mem_cons_of_mem _ hsub', s', he⟩

variable (hgrow : ∀ sub s, ∃ n, (g sub s).2 = s ++ n)
include hgrow

/-- A walk keeps met every identity met before it. -/
theorem subset_thenEnter (sub : List String × String) {s₀ s : List (List String)}
    (hs : s₀ ⊆ s) : s₀ ⊆ (g sub s).2 := by
  obtain ⟨n, hn⟩ := hgrow sub s
  rw [hn]
  exact List.Subset.trans hs (List.subset_append_left _ _)

/-- **Walks that each add to the identities met add to them in sequence.** -/
theorem foldl_thenEnter_grows : ∀ (subs : List (List String × String))
    (A : List (List String × String)) (s : List (List String)),
    ∃ n, (subs.foldl (thenEnter g) (A, s)).2 = s ++ n
  | [], A, s => ⟨[], by simp⟩
  | sub :: rest, A, s => by
    obtain ⟨n₁, h₁⟩ := hgrow sub s
    obtain ⟨n, h⟩ := foldl_thenEnter_grows rest (A ++ (g sub s).1) (g sub s).2
    refine ⟨n₁ ++ n, ?_⟩
    simp only [List.foldl_cons, thenEnter]
    rw [h, h₁, List.append_assoc]

/-- **Walks in sequence enter each directory once**: the walks of distinct subdirectories whose
identities are met already meet new identities only, so no directory is entered twice. -/
theorem foldl_thenEnter_enters {s₀ : List (List String)} :
    ∀ (subs : List (List String × String)),
      (∀ sub ∈ subs, ∀ s, s₀ ⊆ s → Enters sub.1 s (g sub s)) →
      (∀ sub ∈ subs, sub.1 ∈ s₀) → (subs.map Prod.fst).Nodup →
      ∀ (A : List (List String × String)) (s : List (List String)), s₀ ⊆ s →
        ∃ B, (subs.foldl (thenEnter g) (A, s)).1 = A ++ B ∧ (B.map Prod.fst).Nodup ∧
          ∀ d ∈ B.map Prod.fst, d ∈ subs.map Prod.fst ∨
            (d ∈ (subs.foldl (thenEnter g) (A, s)).2 ∧ d ∉ s)
  | [], _, _, _, A, s, _ => ⟨[], by simp, by simp, by simp⟩
  | sub :: rest, hg, hsubs, hnd, A, s, hs₀ => by
    obtain ⟨hE₁, hin₁⟩ := hg sub List.mem_cons_self s hs₀
    have hs : s ⊆ (g sub s).2 := subset_thenEnter hgrow sub (List.Subset.refl s)
    obtain ⟨B, hB, hBnd, hBin⟩ := foldl_thenEnter_enters rest
      (fun sub' h => hg sub' (List.mem_cons_of_mem _ h))
      (fun sub' h => hsubs sub' (List.mem_cons_of_mem _ h))
      (List.nodup_cons.mp hnd).2 (A ++ (g sub s).1) (g sub s).2 (List.Subset.trans hs₀ hs)
    obtain ⟨n, hn⟩ := foldl_thenEnter_grows hgrow rest (A ++ (g sub s).1) (g sub s).2
    simp only [List.foldl_cons, thenEnter] at hB hBin hn ⊢
    have hsub₀ : sub.1 ∈ s := hs₀ (hsubs sub List.mem_cons_self)
    refine ⟨(g sub s).1 ++ B, by rw [hB, List.append_assoc], ?_, ?_⟩
    · rw [List.map_append, List.nodup_append]
      refine ⟨hE₁, hBnd, fun d hd d' hd' hdd' => ?_⟩
      rw [← hdd'] at hd'
      rcases hin₁ d hd with rfl | ⟨hmet, hnew⟩
      · -- the subdirectory itself: met before every later walk, and no later subdirectory
        rcases hBin _ hd' with hrest | ⟨-, hnot⟩
        · exact (List.nodup_cons.mp hnd).1 hrest
        · exact hnot (hs hsub₀)
      · rcases hBin d hd' with hrest | ⟨-, hnot⟩
        · obtain ⟨sub', hsub', rfl⟩ := List.mem_map.mp hrest
          exact hnew (hs₀ (hsubs sub' (List.mem_cons_of_mem _ hsub')))
        · exact hnot hmet
    · intro d hd
      rw [List.map_append, List.mem_append] at hd
      rcases hd with hd | hd
      · rcases hin₁ d hd with rfl | ⟨hmet, hnew⟩
        · exact .inl (List.mem_map_of_mem List.mem_cons_self)
        · refine .inr ⟨?_, hnew⟩
          rw [hn]
          exact List.mem_append_left _ hmet
      · rcases hBin d hd with hrest | ⟨hmet, hnew⟩
        · exact .inl (List.mem_cons_of_mem _ hrest)
        · exact .inr ⟨hmet, fun h => hnew (hs h)⟩

/-- **Walks in sequence explore what each explores**: the identities met before them stay met,
and each subdirectory left to walk is entered by its own walk. -/
theorem foldl_thenEnter_explores {s₀ seen : List (List String)} :
    ∀ (subs : List (List String × String)),
      (∀ sub ∈ subs, ∀ s, s₀ ⊆ s →
        Explores t s (g sub s) ∧ sub.1 ∈ (g sub s).1.map Prod.fst) →
      ∀ (A : List (List String × String)) (s : List (List String)), s₀ ⊆ s →
        (∀ e ∈ A, (subdirs t e.1).map Prod.snd ⊆ s) →
        (∀ d ∈ s, d ∉ seen → d ∈ A.map Prod.fst ∨ d ∈ subs.map Prod.fst) →
        Explores t seen (subs.foldl (thenEnter g) (A, s))
  | [], _, _, _, _, hkids, hmet => ⟨hkids, fun d hd hnew => by simpa using hmet d hd hnew⟩
  | sub :: rest, hg, A, s, hs₀, hkids, hmet => by
    obtain ⟨⟨hkids₁, hmet₁⟩, hhead⟩ := hg sub List.mem_cons_self s hs₀
    have hs : s ⊆ (g sub s).2 := subset_thenEnter hgrow sub (List.Subset.refl s)
    simp only [List.foldl_cons, thenEnter]
    refine foldl_thenEnter_explores rest (fun sub' h => hg sub' (List.mem_cons_of_mem _ h)) _ _
      (List.Subset.trans hs₀ hs) (fun e he => ?_) (fun d hd hnew => ?_)
    · rcases List.mem_append.mp he with he | he
      · exact List.Subset.trans (hkids e he) hs
      · exact hkids₁ e he
    · -- an identity met before this walk was entered before it or is a subdirectory to walk
      rw [List.map_append, List.mem_append]
      by_cases hds : d ∈ s
      · rcases hmet d hds hnew with hA | hsubs
        · exact .inl (.inl hA)
        · rcases List.mem_cons.mp hsubs with rfl | hrest
          · exact .inl (.inr hhead)
          · exact .inr hrest
      · exact .inl (.inr (hmet₁ d hd hds))

/-- **Walks in sequence agree** where each walk from identities including `s₀` agrees. -/
theorem foldl_thenEnter_congr {g' : List String × String → List (List String) →
      List (List String × String) × List (List String)} {s₀ : List (List String)} :
    ∀ (subs : List (List String × String)),
      (∀ sub ∈ subs, ∀ s, s₀ ⊆ s → g sub s = g' sub s) →
      ∀ (A : List (List String × String)) (s : List (List String)), s₀ ⊆ s →
        subs.foldl (thenEnter g) (A, s) = subs.foldl (thenEnter g') (A, s)
  | [], _, _, _, _ => rfl
  | sub :: rest, hg, A, s, hs₀ => by
    have hs₁ : s₀ ⊆ (g sub s).2 := subset_thenEnter hgrow sub hs₀
    simp only [List.foldl_cons, thenEnter]
    rw [← hg sub List.mem_cons_self s hs₀]
    exact foldl_thenEnter_congr rest (fun sub' h => hg sub' (List.mem_cons_of_mem _ h)) _ _ hs₁

end Sequence

/-! ## The identities a walk can meet

Every identity is the root's or a recorded path, so there are finitely many; each directory a
walk enters below another brings one not met before. -/

/-- The identities a walk can meet: the root's and the recorded paths. -/
def identities (t : FileTree) : Finset (List String) :=
  ([] :: t.entries.map Prod.fst).toFinset

/-- The identities not met yet. -/
def unmet (t : FileTree) (seen : List (List String)) : Nat :=
  (identities t \ seen.toFinset).card

theorem mem_identities_of_entryAt {path : String} {p : List String} {e : Entry}
    (h : t.entryAt? path = some (p, e)) : p ∈ identities t := by
  simp only [identities, List.mem_toFinset]
  rcases mem_keys_of_entryAt h with rfl | hkey
  · exact List.mem_cons_self
  · exact List.mem_cons_of_mem _ hkey

/-- **Meeting a new identity leaves fewer unmet.** -/
theorem unmet_lt_of_mem {s s' : List (List String)} {d : List String} (h : s ⊆ s')
    (hd : d ∈ identities t) (hnew : d ∉ s) (hmet : d ∈ s') : unmet t s' < unmet t s := by
  refine Finset.card_lt_card ((Finset.ssubset_iff_of_subset ?_).mpr ⟨d, ?_, ?_⟩)
  · exact Finset.sdiff_subset_sdiff (le_refl _) fun x hx =>
      List.mem_toFinset.mpr (h (List.mem_toFinset.mp hx))
  · simp [hd, hnew]
  · simp [hmet]

/-- Below the root, fewer identities are unmet than the tree has entries, plus one. -/
theorem unmet_root_lt {real : List String} (h : real ∈ identities t) :
    unmet t [real] < t.entries.length + 1 := by
  have hcard : (identities t).card ≤ t.entries.length + 1 := by
    simpa [identities] using List.toFinset_card_le ([] :: t.entries.map Prod.fst)
  have hunmet : unmet t [real] = (identities t).card - 1 := by
    rw [unmet, List.toFinset_cons, List.toFinset_nil, insert_empty_eq,
      Finset.sdiff_singleton_eq_erase, Finset.card_erase_of_mem h]
  omega

/-! ## What one walk does -/

/-- The subdirectories listing a directory keeps to walk, each with its prefix. -/
def kept (t : FileTree) (dir : List String) (pre : String) (seen : List (List String)) :
    List (List String × String) :=
  ((t.childNames dir).foldl (classify t dir pre) ⟨[], [], seen⟩).pending

/-- **What a listing keeps**: children with identities not met before, no two alike, whose
identities it adds to those met; every subdirectory has its identity among those then. -/
theorem kept_spec (dir : List String) (pre : String) (seen : List (List String)) :
    ((t.childNames dir).foldl (classify t dir pre) ⟨[], [], seen⟩).seen =
        seen ++ (kept t dir pre seen).map Prod.fst ∧
      ((kept t dir pre seen).map Prod.fst).Nodup ∧
      (∀ x ∈ kept t dir pre seen, x.1 ∉ seen ∧ ∃ name ∈ t.childNames dir,
        subdirAt? t dir name = some x.1 ∧ x.2 = pre ++ name ++ "/") ∧
      (subdirs t dir).map Prod.snd ⊆ seen ++ (kept t dir pre seen).map Prod.fst := by
  obtain ⟨P, hpend, hseen, hnd, hP⟩ :=
    foldl_classify_pending (t := t) dir pre (t.childNames dir) ⟨[], [], seen⟩
  have hkept : kept t dir pre seen = P := hpend
  rw [hkept]
  refine ⟨hseen, hnd, hP, fun real hreal => ?_⟩
  obtain ⟨⟨name, real⟩, hsub, rfl⟩ := List.mem_map.mp hreal
  obtain ⟨hname, hsubdir⟩ := mem_subdirs.mp hsub
  rw [← hseen]
  exact foldl_classify_meets dir pre _ _ name hname real hsubdir

/-- **One step of a walk**: it enters its directory, then walks in name order each subdirectory
the listing kept, starting from the identities met before and those kept. -/
theorem enteredFrom_succ_kept (fuel : Nat) (dir : List String) (pre : String)
    (seen : List (List String)) :
    enteredFrom t (fuel + 1) dir pre seen =
      (kept t dir pre seen).foldl (thenEnter fun sub s => enteredFrom t fuel sub.1 sub.2 s)
        ([(dir, pre)], seen ++ (kept t dir pre seen).map Prod.fst) := by
  rw [enteredFrom_succ, (kept_spec dir pre seen).1]
  rfl

/-- Each kept subdirectory is walked with fewer identities unmet than its listing had. -/
theorem unmet_lt_of_kept {dir : List String} {pre : String} {seen s : List (List String)}
    {sub : List String × String} (hsub : sub ∈ kept t dir pre seen)
    (hs : seen ++ (kept t dir pre seen).map Prod.fst ⊆ s) : unmet t s < unmet t seen := by
  obtain ⟨hnew, name, -, hreal, -⟩ := (kept_spec dir pre seen).2.2.1 sub hsub
  exact unmet_lt_of_mem (fun _ h => hs (List.mem_append_left _ h))
    (mem_identities_of_entryAt (child?_of_subdirAt? hreal)) hnew
    (hs (List.mem_append_right _ (List.mem_map_of_mem hsub)))

/-- The identities a walk meets are added to those met before. -/
theorem enteredFrom_grows : ∀ (fuel : Nat) (dir : List String) (pre : String)
    (seen : List (List String)), ∃ n, (enteredFrom t fuel dir pre seen).2 = seen ++ n
  | 0, _, _, seen => ⟨[], by simp [enteredFrom]⟩
  | fuel + 1, dir, pre, seen => by
    obtain ⟨n, hn⟩ := foldl_thenEnter_grows (fun sub s => enteredFrom_grows fuel sub.1 sub.2 s)
      (kept t dir pre seen) [(dir, pre)] (seen ++ (kept t dir pre seen).map Prod.fst)
    exact ⟨(kept t dir pre seen).map Prod.fst ++ n,
      by rw [enteredFrom_succ_kept, hn, List.append_assoc]⟩

/-- **A walk with fuel enters its directory first.** -/
theorem enteredFrom_head (fuel : Nat) (dir : List String) (pre : String)
    (seen : List (List String)) :
    ∃ B, (enteredFrom t (fuel + 1) dir pre seen).1 = (dir, pre) :: B := by
  rw [enteredFrom_succ_kept]
  exact foldl_thenEnter_fst _ _ _

theorem dir_mem_enteredFrom {fuel : Nat} (hfuel : 0 < fuel) (dir : List String) (pre : String)
    (seen : List (List String)) : dir ∈ (enteredFrom t fuel dir pre seen).1.map Prod.fst := by
  obtain ⟨fuel, rfl⟩ := Nat.exists_eq_add_one.mpr hfuel
  obtain ⟨B, hB⟩ := enteredFrom_head (t := t) fuel dir pre seen
  simp [hB]

/-- **A walk enters each directory once**: its own directory first, then only directories whose
identities it met new. -/
theorem enteredFrom_enters : ∀ (fuel : Nat) (dir : List String) (pre : String)
    (seen : List (List String)), dir ∈ seen → Enters dir seen (enteredFrom t fuel dir pre seen)
  | 0, _, _, _, _ => ⟨List.nodup_nil, by simp [enteredFrom]⟩
  | fuel + 1, dir, pre, seen, hdir => by
    obtain ⟨-, hPnd, hP, -⟩ := kept_spec (t := t) dir pre seen
    have hgrow := fun sub s => enteredFrom_grows (t := t) fuel (Prod.fst sub) (Prod.snd sub) s
    have hkept : ∀ sub ∈ kept t dir pre seen, sub.1 ∈ seen ++ (kept t dir pre seen).map Prod.fst :=
      fun sub hsub => List.mem_append_right _ (List.mem_map_of_mem hsub)
    obtain ⟨B, hB, hBnd, hBin⟩ := foldl_thenEnter_enters hgrow _
      (fun sub hsub s hs => enteredFrom_enters fuel sub.1 sub.2 s (hs (hkept sub hsub)))
      hkept hPnd [(dir, pre)] _ (List.Subset.refl _)
    obtain ⟨n, hn⟩ := foldl_thenEnter_grows hgrow (kept t dir pre seen) [(dir, pre)]
      (seen ++ (kept t dir pre seen).map Prod.fst)
    rw [enteredFrom_succ_kept]
    refine ⟨?_, fun d hd => ?_⟩
    · rw [hB, List.map_append, List.nodup_append]
      refine ⟨List.nodup_singleton _, hBnd, fun a ha b hb hab => ?_⟩
      -- the directory was met before its listing; every directory entered after it was not
      rw [List.map_singleton, List.mem_singleton] at ha
      rw [← hab, ha] at hb
      rcases hBin dir hb with hkept' | ⟨-, hnot⟩
      · obtain ⟨x, hx, hxdir⟩ := List.mem_map.mp hkept'
        exact (hP x hx).1 (hxdir ▸ hdir)
      · exact hnot (List.mem_append_left _ hdir)
    · rw [hB, List.map_append, List.mem_append] at hd
      rcases hd with hd | hd
      · exact .inl (by simpa using hd)
      · rcases hBin d hd with hkept' | ⟨hmet, hnew⟩
        · obtain ⟨x, hx, rfl⟩ := List.mem_map.mp hkept'
          refine .inr ⟨?_, (hP x hx).1⟩
          rw [hn]
          exact List.mem_append_left _ (hkept x hx)
        · exact .inr ⟨hmet, fun h => hnew (List.mem_append_left _ h)⟩

/-- **A walk with enough fuel explores everything below its directory** not met before it: the
fuel runs out nowhere while it exceeds the identities not yet met. -/
theorem enteredFrom_explores : ∀ (fuel : Nat) (dir : List String) (pre : String)
    (seen : List (List String)), unmet t seen < fuel →
      Explores t seen (enteredFrom t fuel dir pre seen)
  | 0, _, _, _, h => absurd h (Nat.not_lt_zero _)
  | fuel + 1, dir, pre, seen, hfuel => by
    rw [enteredFrom_succ_kept]
    refine foldl_thenEnter_explores (fun sub s => enteredFrom_grows fuel sub.1 sub.2 s) _
      (fun sub hsub s hs => ?_) _ _ (List.Subset.refl _) ?_ ?_
    · -- a kept subdirectory brings an identity not met before, so its walk has fuel to spare
      have hlt := unmet_lt_of_kept hsub hs
      exact ⟨enteredFrom_explores fuel sub.1 sub.2 s (by omega),
        dir_mem_enteredFrom (by omega) sub.1 sub.2 s⟩
    · intro e he
      rw [List.mem_singleton.mp he]
      exact (kept_spec dir pre seen).2.2.2
    · exact fun d hd hnew => .inr ((List.mem_append.mp hd).resolve_left hnew)

/-- **More fuel walks no differently** once the fuel exceeds the identities not yet met. -/
theorem enteredFrom_more_fuel : ∀ {fuel fuel' : Nat} (dir : List String) (pre : String)
    (seen : List (List String)), unmet t seen < fuel → fuel ≤ fuel' →
      enteredFrom t fuel' dir pre seen = enteredFrom t fuel dir pre seen
  | 0, _, _, _, _, h, _ => absurd h (Nat.not_lt_zero _)
  | _ + 1, 0, _, _, _, _, hle => absurd hle (Nat.not_succ_le_zero _)
  | fuel + 1, fuel' + 1, dir, pre, seen, hfuel, hle => by
    rw [enteredFrom_succ_kept, enteredFrom_succ_kept]
    refine foldl_thenEnter_congr (fun sub s => enteredFrom_grows fuel' sub.1 sub.2 s) _
      (fun sub hsub s hs => ?_) _ _ (List.Subset.refl _)
    have hlt := unmet_lt_of_kept hsub hs
    exact enteredFrom_more_fuel sub.1 sub.2 s (by omega) (by omega)

/-! ## Where the directories entered lie -/

/-- The prefix a name path gives the files below it: each name followed by a slash. -/
def dirPrefix (q : List String) : String := String.join (q.map (· ++ "/"))

@[simp] theorem dirPrefix_nil : dirPrefix [] = "" := rfl

theorem dirPrefix_cons (name : String) (q : List String) :
    dirPrefix (name :: q) = name ++ "/" ++ dirPrefix q := by
  simp [dirPrefix, String.join_cons]

/-- **A file's relative path is its directory's prefix, then its name.** -/
theorem dirPrefix_append (q : List String) (name : String) :
    dirPrefix q ++ name = relText (q ++ [name]) := by
  induction q with
  | nil => simp
  | cons c q ih =>
    rw [dirPrefix_cons, List.cons_append, relText_cons c (by simp), String.append_assoc, ih]

/-- **Each directory a walk enters is reached from its directory by the name path its prefix
spells.** -/
theorem enteredFrom_reached : ∀ (fuel : Nat) (dir : List String) (pre : String)
    (seen : List (List String)), ∀ e ∈ (enteredFrom t fuel dir pre seen).1,
      ∃ q, descend t dir q = some e.1 ∧ e.2 = pre ++ dirPrefix q
  | 0, _, _, _, _, he => absurd he List.not_mem_nil
  | fuel + 1, dir, pre, seen, e, he => by
    rw [enteredFrom_succ_kept] at he
    rcases mem_foldl_thenEnter _ _ _ e he with he | ⟨sub, hsub, s, he⟩
    · rw [List.mem_singleton.mp he]
      exact ⟨[], rfl, by simp⟩
    · -- entered by the walk of a kept child: the child's name leads the path
      obtain ⟨q, hq, hpre⟩ := enteredFrom_reached fuel sub.1 sub.2 s e he
      obtain ⟨-, name, hname, hreal, hsubpre⟩ := (kept_spec dir pre seen).2.2.1 sub hsub
      refine ⟨name :: q,
        descend_cons_eq_some.mpr ⟨sub.1, mem_subdirs.mpr ⟨hname, hreal⟩, hq⟩, ?_⟩
      rw [hpre, hsubpre, dirPrefix_cons]
      simp only [String.append_assoc]

/-- A list of directories closed under taking subdirectories holds every directory a name path
reaches from one of them. -/
theorem mem_of_descend {S : List (List String)}
    (hS : ∀ dir ∈ S, ∀ sub ∈ subdirs t dir, sub.2 ∈ S) :
    ∀ {dir q d : List String}, dir ∈ S → descend t dir q = some d → d ∈ S
  | _, [], _, hdir, hq => by cases hq; exact hdir
  | dir, name :: rest, d, hdir, hq => by
    obtain ⟨real, hsub, hrest⟩ := descend_cons_eq_some.mp hq
    exact mem_of_descend hS (hS dir hdir _ hsub) hrest

/-- **Files reached along two name paths share a relative path only along one name path**:
names hold no slash, so the path is read back from the text. -/
theorem eq_of_dirPrefix_append_eq (hwf : t.WellFormed) {dir q q' d d' : List String}
    {name name' : String} (hq : descend t dir q = some d) (hq' : descend t dir q' = some d')
    (hname : name ∈ fileNames t d) (hname' : name' ∈ fileNames t d')
    (h : dirPrefix q ++ name = dirPrefix q' ++ name') : q = q' ∧ name = name' := by
  rw [dirPrefix_append, dirPrefix_append] at h
  obtain ⟨hqq, hn⟩ := List.append_inj' (relText_inj (by simp) (by simp)
    (slash_not_mem_of_descend hwf hq hname) (slash_not_mem_of_descend hwf hq' hname') h) rfl
  exact ⟨hqq, List.singleton_inj.mp hn⟩

/-- **The files of directories entered once, each under the prefix of a name path reaching it,
are listed once.** -/
theorem flatMap_files_nodup (hwf : t.WellFormed) {dir : List String}
    {E : List (List String × String)} (hE : (E.map Prod.fst).Nodup)
    (hreach : ∀ e ∈ E, ∃ q, descend t dir q = some e.1 ∧ e.2 = dirPrefix q) :
    (E.flatMap fun e => (fileNames t e.1).map (e.2 ++ ·)).Nodup := by
  refine List.nodup_flatMap.mpr ⟨fun e _ => ?_, ?_⟩
  · exact ((hwf.childNames_nodup e.1).filter _).map fun a b h => (String.append_right_inj _).mp h
  · refine (List.pairwise_map.mp hE).imp_of_mem fun {a b} ha hb hab => ?_
    -- distinct directories lie at distinct name paths, so their files differ
    refine List.disjoint_left.mpr fun x hxa hxb => ?_
    obtain ⟨n, hn, rfl⟩ := List.mem_map.mp hxa
    obtain ⟨n', hn', hx⟩ := List.mem_map.mp hxb
    obtain ⟨q, hq, ha2⟩ := hreach a ha
    obtain ⟨q', hq', hb2⟩ := hreach b hb
    rw [ha2, hb2] at hx
    obtain ⟨rfl, -⟩ := eq_of_dirPrefix_append_eq hwf hq' hq hn' hn hx
    exact hab (Option.some.inj (hq.symm.trans hq'))

/-! ## The walk below a root -/

/-- **The directories the walk below a root enters**, with their prefixes, from the root's
identity. -/
def entered (t : FileTree) (real : List String) : List (List String × String) :=
  (enteredFrom t (t.entries.length + 1) real "" [real]).1

section Root

variable {root : String} {real : List String}

theorem walk_eq_entered (hreal : t.dirIdentity? root = some real) :
    walk t root = (entered t real).flatMap fun e => (fileNames t e.1).map (e.2 ++ ·) := by
  rw [walk, hreal]
  dsimp only
  rw [walkFrom_eq_entered]
  rfl

/-- **The directories entered below a root are those a name path reaches**: a subdirectory of a
directory entered has its identity met, and each identity met is the root's or entered. -/
theorem mem_entered_iff (hreal : t.dirIdentity? root = some real) (d : List String) :
    d ∈ (entered t real).map Prod.fst ↔ ∃ q, descend t real q = some d := by
  have hroot : real ∈ (entered t real).map Prod.fst :=
    dir_mem_enteredFrom (Nat.succ_pos _) real "" [real]
  obtain ⟨hkids, hmet⟩ := enteredFrom_explores (t.entries.length + 1) real "" [real]
    (unmet_root_lt (mem_identities_of_entryAt (entryAt?_of_dirIdentity? hreal)))
  constructor
  · intro hd
    obtain ⟨e, he, rfl⟩ := List.mem_map.mp hd
    obtain ⟨q, hq, -⟩ := enteredFrom_reached _ real "" [real] e he
    exact ⟨q, hq⟩
  · rintro ⟨q, hq⟩
    refine mem_of_descend (fun dir hdir sub hsub => ?_) hroot hq
    obtain ⟨e, he, rfl⟩ := List.mem_map.mp hdir
    have hsubmet := hkids e he (List.mem_map_of_mem hsub)
    by_cases hsubroot : sub.2 = real
    · exact hsubroot ▸ hroot
    · exact hmet sub.2 hsubmet (by simpa using hsubroot)

/-- **The walk below a root enters each directory reachable from it exactly once.**  Its fuel
never runs out: more fuel walks alike.  It enters the root first, so a link back to the root is
never entered; no directory is entered twice, whatever links lead to it; it enters exactly the
directories a name path reaches, each under the prefix of one such path; and it lists the
regular files of each behind that prefix, each relative path once. -/
theorem walk_enters_each_once (hwf : t.WellFormed) (hreal : t.dirIdentity? root = some real) :
    (∀ fuel, t.entries.length < fuel → (walkFrom t fuel real "" [real]).1 = walk t root) ∧
    (entered t real).head? = some (real, "") ∧
    ((entered t real).map Prod.fst).Nodup ∧
    (∀ d, d ∈ (entered t real).map Prod.fst ↔ ∃ q, descend t real q = some d) ∧
    (∀ e ∈ entered t real, ∃ q, descend t real q = some e.1 ∧ e.2 = dirPrefix q) ∧
    walk t root = (entered t real).flatMap (fun e => (fileNames t e.1).map (e.2 ++ ·)) ∧
    (walk t root).Nodup := by
  have hfuel := unmet_root_lt (mem_identities_of_entryAt (entryAt?_of_dirIdentity? hreal))
  have hreach : ∀ e ∈ entered t real, ∃ q, descend t real q = some e.1 ∧ e.2 = dirPrefix q :=
    fun e he => by simpa using enteredFrom_reached _ real "" [real] e he
  have hnd : ((entered t real).map Prod.fst).Nodup :=
    (enteredFrom_enters _ real "" [real] List.mem_cons_self).1
  refine ⟨fun fuel hlt => ?_, ?_, hnd, mem_entered_iff hreal, hreach, walk_eq_entered hreal, ?_⟩
  · rw [walkFrom_eq_entered, enteredFrom_more_fuel real "" [real] hfuel hlt, walk_eq_entered hreal]
    rfl
  · obtain ⟨B, hB⟩ := enteredFrom_head (t := t) t.entries.length real "" [real]
    simp [entered, hB]
  · rw [walk_eq_entered hreal]
    exact flatMap_files_nodup hwf hnd hreach

end Root

/-- A class directory holding a file and a package with one more, with a link back to the class
directory beside the file and another inside the package. -/
def loopTree : FileTree :=
  ((((((FileTree.initial.put ["work", "c"] .dir).put ["work", "c", "A.class"] (.file [])).put
    ["work", "c", "org"] .dir).put ["work", "c", "org", "B.class"] (.file [])).put
    ["work", "c", "loop"] (.link "/work/c")).put ["work", "c", "org", "up"] (.link "/work/c"))

/-- Below a class directory with links back to itself, the walk enters each directory once and
lists each file once. -/
theorem loopTree_walked_once :
    loopTree.WellFormed ∧ loopTree.dirIdentity? "/work/c" = some ["work", "c"] ∧
      ((entered loopTree ["work", "c"]).map Prod.fst).Nodup ∧ (walk loopTree "/work/c").Nodup := by
  have hwf : loopTree.WellFormed := by decide
  have hreal : loopTree.dirIdentity? "/work/c" = some ["work", "c"] := by cbv
  obtain ⟨-, -, hnd, -, -, -, hwalk⟩ := walk_enters_each_once hwf hreal
  exact ⟨hwf, hreal, hnd, hwalk⟩

example : walk loopTree "/work/c" = ["A.class", "org/B.class"] := by cbv

end FileSet

end ApiAudit
