import ApiAudit.Classpath.Loader

/-!
# Proofs/LoaderCache — the archive cache of a loader cannot be seen

A loader with its cache on keeps every archive it opens, by path, and reads later lookups from
the archive it holds; with the cache off it opens the archive again for each lookup.  On a file
tree that does not change, the two answer every sequence of operations alike:

* `Coherent` — every archive a loader holds open is what its file opens to now.  Opening an
  archive for a lookup keeps this (`Coherent.archiveAt`), and a coherent loader's archive is the
  one opened afresh (`archiveAt_fst`);
* `Twin` — two coherent loaders over the same roots, both open or both closed.  One operation
  gives twins the same answer and leaves twins (`Twin.perform`), so twins answer every sequence
  alike (`Twin.trail`);
* `trail_of_closed` — a closed loader that holds no archive answers by rote and never changes;
* `cache_unobservable` — so a loader with the cache and one without give the same answers and
  the same closed flag after every operation, and once closed a loader holds no archive, refuses
  every lookup, and does nothing when closed again.
-/

namespace ApiAudit

namespace Loader

variable {t : FileTree}

/-! ## One root

A root is read through the loader only when it is a zip archive; any other root answers from the
tree alone.  `lookIn_eq` says so, and the rest of the module never opens `lookIn` again. -/

/-- The bytes of a root that is a zip archive: a regular file, not a directory, holding one. -/
def archiveBytes? (t : FileTree) (root : String) : Option (List UInt8) :=
  if t.isDir root then none
  else if t.isFile root then
    match t.readBytes root with
    | .ok data => if Zip.isArchive data.toArray then some data else none
    | .error _ => none
  else none

/-- What a root that is no zip archive answers: the file below it, for a directory. -/
def plainAnswer (t : FileTree) (rel root : String) : Option (List UInt8) :=
  if t.isDir root then
    if t.isFile (Path.child root rel) then (t.readBytes (Path.child root rel)).toOption else none
  else none

theorem readBytes_of_archiveBytes? {root : String} {data : List UInt8}
    (h : archiveBytes? t root = some data) : t.readBytes root = .ok data := by
  unfold archiveBytes? at h
  split at h
  · cases h
  · split at h
    · split at h
      · rename_i bytes hread
        split at h
        · cases h
          exact hread
        · cases h
      · cases h
    · cases h

/-- **What looking in one root does**: an archive is taken from `archiveAt` and read; any other
root answers from the tree and leaves the loader as it is. -/
theorem lookIn_eq (t : FileTree) (rel : String) (l : Loader) (root : String) :
    lookIn t rel l root =
      match archiveBytes? t root with
      | some data =>
        ((l.archiveAt root data.toArray).1.bind (·.read rel), (l.archiveAt root data.toArray).2)
      | none => (.ok (plainAnswer t rel root), l) := by
  unfold lookIn archiveBytes? plainAnswer
  by_cases hdir : t.isDir root
  · simp [hdir]
  · by_cases hfile : t.isFile root
    · simp only [hdir, hfile, Bool.false_eq_true, ↓reduceIte]
      cases t.readBytes root with
      | error e => rfl
      | ok data =>
        by_cases harch : Zip.isArchive data.toArray
        · simp only [harch, ↓reduceIte]
          rcases l.archiveAt root data.toArray with ⟨_ | _, _⟩ <;> rfl
        · simp [harch]
    · simp [hdir, hfile]

/-! ## The cache agrees with the tree -/

/-- **Every archive a loader holds open is its file, opened now.** -/
def Coherent (t : FileTree) (l : Loader) : Prop :=
  ∀ held ∈ l.archives, ∃ bytes, t.readBytes held.1 = .ok bytes ∧
    Zip.openArchive bytes.toArray = .ok held.2

/-- A loader that holds no archive agrees with every tree. -/
theorem coherent_of_archives_nil {l : Loader} (h : l.archives = []) : Coherent t l := by
  intro held hmem
  rw [h] at hmem
  cases hmem

/-- **A coherent loader's archive is the file opened afresh**, whether it was held open or is
opened now. -/
theorem archiveAt_fst {l : Loader} (hcoh : Coherent t l) {root : String} {bytes : List UInt8}
    (hread : t.readBytes root = .ok bytes) :
    (l.archiveAt root bytes.toArray).1 = Zip.openArchive bytes.toArray := by
  unfold archiveAt
  split
  · split
    · -- held open: by coherence, what the file opens to now
      rename_i a hlook
      obtain ⟨front, back, hsplit, -⟩ := List.lookup_eq_some_iff.mp hlook
      obtain ⟨bytes', hread', hopen⟩ := hcoh (root, a) (by simp [hsplit])
      rw [hread] at hread'
      cases hread'
      exact hopen.symm
    · split <;> simp_all
  · rfl

/-- Opening an archive for a lookup keeps the cache in agreement with the tree. -/
theorem Coherent.archiveAt {l : Loader} (hcoh : Coherent t l) {root : String} {bytes : List UInt8}
    (hread : t.readBytes root = .ok bytes) : Coherent t (l.archiveAt root bytes.toArray).2 := by
  unfold Loader.archiveAt
  split
  · split
    · exact hcoh
    · split
      · rename_i a hopen
        intro held hmem
        rcases List.mem_append.mp hmem with hold | hnew
        · exact hcoh held hold
        · rw [List.mem_singleton.mp hnew]
          exact ⟨bytes, hread, hopen⟩
      · exact hcoh
  · exact hcoh

theorem Coherent.lookIn {l : Loader} (hcoh : Coherent t l) (rel root : String) :
    Coherent t (lookIn t rel l root).2 := by
  rw [lookIn_eq]
  cases hb : archiveBytes? t root with
  | none => exact hcoh
  | some data => exact hcoh.archiveAt (readBytes_of_archiveBytes? hb)

/-- **Coherent loaders read a root alike.** -/
theorem lookIn_answer {l₁ l₂ : Loader} (h₁ : Coherent t l₁) (h₂ : Coherent t l₂)
    (rel root : String) : (lookIn t rel l₁ root).1 = (lookIn t rel l₂ root).1 := by
  rw [lookIn_eq, lookIn_eq]
  cases hb : archiveBytes? t root with
  | none => rfl
  | some data =>
    have hread := readBytes_of_archiveBytes? hb
    simp only [archiveAt_fst h₁ hread, archiveAt_fst h₂ hread]

/-! ## A lookup

Looking a resource up changes only the archives a loader holds (`Alike`), and coherent loaders
search the roots alike (`firstAnswer_answer`). -/

/-- Two loaders over the same roots, both open or both closed. -/
def Alike (l₁ l₂ : Loader) : Prop := l₁.roots = l₂.roots ∧ l₁.closed = l₂.closed

theorem Alike.refl (l : Loader) : Alike l l := ⟨rfl, rfl⟩

theorem Alike.symm {l₁ l₂ : Loader} (h : Alike l₁ l₂) : Alike l₂ l₁ := ⟨h.1.symm, h.2.symm⟩

theorem Alike.trans {l₁ l₂ l₃ : Loader} (h₁₂ : Alike l₁ l₂) (h₂₃ : Alike l₂ l₃) : Alike l₁ l₃ :=
  ⟨h₁₂.1.trans h₂₃.1, h₁₂.2.trans h₂₃.2⟩

theorem alike_archiveAt (l : Loader) (root : String) (data : Zip.Bytes) :
    Alike (l.archiveAt root data).2 l := by
  unfold archiveAt
  split
  · split
    · exact .refl l
    · split
      · exact ⟨rfl, rfl⟩
      · exact .refl l
  · exact .refl l

theorem alike_lookIn (rel : String) (l : Loader) (root : String) : Alike (lookIn t rel l root).2 l := by
  rw [lookIn_eq]
  cases archiveBytes? t root with
  | none => exact .refl l
  | some data => exact alike_archiveAt l root data.toArray

/-- What the first root answers decides whether the search goes on. -/
theorem firstAnswer_cons (rel : String) (l : Loader) (root : String) (rest : List String) :
    firstAnswer t rel l (root :: rest) =
      match (lookIn t rel l root).1 with
      | .ok (some data) => (.ok (some data), (lookIn t rel l root).2)
      | .ok none => firstAnswer t rel (lookIn t rel l root).2 rest
      | .error f => (.error f, (lookIn t rel l root).2) := by
  simp only [firstAnswer]
  rcases lookIn t rel l root with ⟨_ | _ | _, _⟩ <;> rfl

/-- The search along the roots changes only the archives held open. -/
theorem alike_firstAnswer (rel : String) (roots : List String) :
    ∀ l : Loader, Alike (firstAnswer t rel l roots).2 l := by
  induction roots with
  | nil => exact .refl
  | cons root rest ih =>
    intro l
    rw [firstAnswer_cons]
    split
    · exact alike_lookIn rel l root
    · exact (ih _).trans (alike_lookIn rel l root)
    · exact alike_lookIn rel l root

theorem Coherent.firstAnswer {l : Loader} (hcoh : Coherent t l) (rel : String) (roots : List String) :
    Coherent t (Loader.firstAnswer t rel l roots).2 := by
  induction roots generalizing l with
  | nil => exact hcoh
  | cons root rest ih =>
    rw [firstAnswer_cons]
    split
    · exact hcoh.lookIn rel root
    · exact ih (hcoh.lookIn rel root)
    · exact hcoh.lookIn rel root

/-- **Coherent loaders search the roots alike.** -/
theorem firstAnswer_answer (rel : String) (roots : List String) :
    ∀ l₁ l₂ : Loader, Coherent t l₁ → Coherent t l₂ →
      (firstAnswer t rel l₁ roots).1 = (firstAnswer t rel l₂ roots).1 := by
  induction roots with
  | nil => exact fun _ _ _ _ => rfl
  | cons root rest ih =>
    intro l₁ l₂ h₁ h₂
    rw [firstAnswer_cons, firstAnswer_cons, lookIn_answer h₁ h₂ rel root]
    split
    · rfl
    · exact ih _ _ (h₁.lookIn rel root) (h₂.lookIn rel root)
    · rfl

theorem alike_find (l : Loader) (name : String) : Alike (l.find t name).2 l := by
  unfold find
  split
  · exact .refl l
  · exact alike_firstAnswer _ l.roots l

theorem Coherent.find {l : Loader} (hcoh : Coherent t l) (name : String) :
    Coherent t (l.find t name).2 := by
  unfold Loader.find
  split
  · exact hcoh
  · exact hcoh.firstAnswer _ l.roots

/-! ## Twins

Two coherent loaders that are alike are twins: they answer each operation alike and stay twins,
so they answer every sequence of operations alike. -/

/-- **Twins**: two coherent loaders over the same roots, both open or both closed. -/
def Twin (t : FileTree) (l₁ l₂ : Loader) : Prop := Coherent t l₁ ∧ Coherent t l₂ ∧ Alike l₁ l₂

/-- Closing keeps a loader coherent: it lets go of every archive or changes nothing. -/
theorem Coherent.close {l : Loader} (hcoh : Coherent t l) : Coherent t l.close := by
  unfold Loader.close
  split
  · exact hcoh
  · exact coherent_of_archives_nil rfl

theorem close_roots (l : Loader) : l.close.roots = l.roots := by
  unfold close
  split <;> rfl

theorem close_closed (l : Loader) : l.close.closed = true := by
  unfold close
  split
  · assumption
  · rfl

theorem Twin.find {l₁ l₂ : Loader} (h : Twin t l₁ l₂) (name : String) :
    (l₁.find t name).1 = (l₂.find t name).1 ∧ Twin t (l₁.find t name).2 (l₂.find t name).2 := by
  obtain ⟨h₁, h₂, hroots, hclosed⟩ := h
  refine ⟨?_, h₁.find name, h₂.find name,
    (alike_find l₁ name).trans (Alike.trans ⟨hroots, hclosed⟩ (alike_find l₂ name).symm)⟩
  unfold Loader.find
  rw [hclosed, hroots]
  split
  · rfl
  · exact firstAnswer_answer _ l₂.roots l₁ l₂ h₁ h₂

/-- **One operation**: twins give the same answer and stay twins. -/
theorem Twin.perform {l₁ l₂ : Loader} (h : Twin t l₁ l₂) (op : Op) :
    (l₁.perform t op).1 = (l₂.perform t op).1 ∧ Twin t (l₁.perform t op).2 (l₂.perform t op).2 := by
  cases op with
  | find name =>
    obtain ⟨hanswer, htwin⟩ := h.find name
    exact ⟨by simp only [Loader.perform, hanswer], htwin⟩
  | close =>
    obtain ⟨h₁, h₂, hroots, -⟩ := h
    refine ⟨rfl, h₁.close, h₂.close, ?_, ?_⟩
    · simp only [Loader.perform, close_roots, hroots]
    · simp only [Loader.perform, close_closed]
  | roots => exact ⟨by simp only [Loader.perform, h.2.2.1], h⟩

/-- **A sequence of operations**: twins answer alike, and are open or closed alike, all along. -/
theorem Twin.trail {l₁ l₂ : Loader} (h : Twin t l₁ l₂) (ops : List Op) :
    (l₁.trail t ops).map (fun x => (x.1, x.2.closed)) =
      (l₂.trail t ops).map (fun x => (x.1, x.2.closed)) := by
  induction ops generalizing l₁ l₂ with
  | nil => rfl
  | cons op ops ih =>
    obtain ⟨hanswer, htwin⟩ := h.perform op
    simp only [Loader.trail, List.map_cons, hanswer, htwin.2.2.2, ih htwin]

/-! ## After closing -/

/-- The loader after a sequence of operations. -/
def after (t : FileTree) (l : Loader) (ops : List Op) : Loader :=
  ops.foldl (fun l op => (l.perform t op).2) l

/-- The operations of a sequence, then those of the next, from where the first left off. -/
theorem trail_append (l : Loader) (xs ys : List Op) :
    l.trail t (xs ++ ys) = l.trail t xs ++ (after t l xs).trail t ys := by
  induction xs generalizing l with
  | nil => rfl
  | cons op xs ih => simp only [List.cons_append, Loader.trail, ih, after, List.foldl_cons]

/-- What a closed loader answers: every lookup refused, closing done, its roots. -/
def Answer.ofClosed (l : Loader) : Op → Answer
  | .find _ => .refused closedFault
  | .close => .done
  | .roots => .roots l.roots

theorem perform_of_closed {l : Loader} (hl : l.closed = true) (op : Op) :
    l.perform t op = (Answer.ofClosed l op, l) := by
  cases op with
  | find name => simp [Loader.perform, Loader.find, hl, Answer.ofLookup, Answer.ofClosed]
  | close => simp [Loader.perform, Loader.close, hl, Answer.ofClosed]
  | roots => rfl

/-- **A closed loader answers by rote and never changes.** -/
theorem trail_of_closed {l : Loader} (hl : l.closed = true) (ops : List Op) :
    l.trail t ops = ops.map fun op => (Answer.ofClosed l op, l) := by
  induction ops with
  | nil => rfl
  | cons op ops ih => rw [Loader.trail, perform_of_closed hl, List.map_cons, ih]

/-- Closing lets go of every archive, for a loader that holds none once closed. -/
theorem close_archives {l : Loader} (hl : l.closed = true → l.archives = []) :
    l.close.archives = [] := by
  unfold close
  split
  · exact hl ‹_›
  · rfl

/-- A closed loader holds no archive: no operation breaks that. -/
theorem perform_releases {l : Loader} (hl : l.closed = true → l.archives = []) (op : Op) :
    (l.perform t op).2.closed = true → (l.perform t op).2.archives = [] := by
  cases op with
  | find name =>
    intro hclosed
    -- a lookup keeps the loader's flag, so it was closed already and answered without change
    have hwas : l.closed = true := (alike_find l name).2 ▸ hclosed
    simp only [Loader.perform, Loader.find, hwas, ↓reduceIte]
    exact hl hwas
  | close => exact fun _ => close_archives hl
  | roots => exact hl

theorem after_releases {l : Loader} (hl : l.closed = true → l.archives = []) (ops : List Op) :
    (after t l ops).closed = true → (after t l ops).archives = [] := by
  induction ops generalizing l with
  | nil => exact hl
  | cons op ops ih => exact ih (perform_releases hl op)

end Loader

open Loader in
/-- **The archive cache of a loader cannot be seen**: on a tree that does not change, a loader
with the cache on and one with it off give the same answers, refusals included, and the same
closed flag after every operation.  Once a loader is closed it holds no archive, and every later
operation answers by rote and leaves it as it is: each lookup is refused as closed, closing
again does nothing. -/
theorem cache_unobservable (t : FileTree) (roots : List String) (ops : List Op) :
    (trail t { roots, useCache := true } ops).map (fun x => (x.1, x.2.closed)) =
      (trail t { roots, useCache := false } ops).map (fun x => (x.1, x.2.closed)) ∧
    ∀ (useCache : Bool) (before later : List Op),
      let closed := (after t { roots, useCache } before).close
      closed.closed = true ∧ closed.archives = [] ∧
      trail t { roots, useCache } (before ++ .close :: later) =
        trail t { roots, useCache } before ++
          (.done, closed) :: later.map fun op => (Answer.ofClosed closed op, closed) := by
  have htwin : Twin t { roots, useCache := true } { roots, useCache := false } :=
    ⟨coherent_of_archives_nil rfl, coherent_of_archives_nil rfl, rfl, rfl⟩
  refine ⟨htwin.trail ops, fun useCache before later => ?_⟩
  have hreleased := after_releases (t := t) (l := { roots, useCache }) (fun _ => rfl) before
  refine ⟨close_closed _, close_archives hreleased, ?_⟩
  rw [trail_append, Loader.trail]
  simp only [Loader.perform]
  rw [trail_of_closed (close_closed _)]

/-- Closing twice, then looking up: closing does nothing the second time, the lookup is refused. -/
example : (Loader.trail FileTree.initial { roots := [] } [.close, .close, .find "X.class"]).map
    (·.1) = [.done, .done, .refused Loader.closedFault] := rfl

end ApiAudit
