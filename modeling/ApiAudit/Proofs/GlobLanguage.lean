import Mathlib
import ApiAudit.Glob

/-!
# Proofs/GlobLanguage — the paths a pattern selects

A pattern is written as segments: backslashes read as slashes, `**` added after a trailing
slash, empty segments dropped (`Glob.writtenSegments`).  Its **language** (`Glob.PathLang`) is
read off those segments directly: `**` stands for any run of whole path segments, none included,
and every other segment for exactly one path segment, in which `*` stands for any run of
characters, `?` for one character, and every other character for itself (`Glob.SegmentLang`).

Both levels of a pattern have one shape: a list of elements, each a **star** (any run of items)
or an element that **reads** one item (`Starred`).  The backtracking matcher tries every split a
star allows; the matcher by states carries every suffix of the pattern still to match along the
input at once.  The theory of that shape is proved once:

* `Starred.foldl_any_iff` — the states reached after reading a word hold the empty pattern
  exactly when the backtracking matcher accepts the word from one of the states started from,
  as long as those are closed under dropping a leading star;
* `Starred.backtrack_star_iff`, `Starred.backtrack_read_iff` — what a star and a reading element
  accept, stated without the matcher.

Applied to segments (`Segment.acceptsAll_eq_accepts`) and to paths
(`Glob.matchAll_eq_matchSteps`), it gives the main statement, `Glob.selects_iff_language`: a
pattern selects a path exactly when the path's segments are in the language of the pattern's
written segments; neither collapsing runs of `**` nor matching by states changes an answer.
-/

namespace ApiAudit

/-- The shape both levels of a pattern share: elements of `α` over items of `β`, each a star
that stands for any run of items or an element that reads exactly one item. -/
structure Starred (α β : Type) where
  /-- Whether an element stands for any run of items. -/
  isStar : α → Bool
  /-- Whether an element that is no star reads an item. -/
  reads : α → β → Bool

namespace Starred

variable {α β : Type} (K : Starred α β)

/-- **The backtracking matcher**: a star either stops or takes one more item. -/
def backtrack : List α → List β → Bool
  | [], w => w.isEmpty
  | a :: ps, [] => K.isStar a && backtrack ps []
  | a :: ps, b :: w =>
    if K.isStar a then backtrack ps (b :: w) || backtrack (a :: ps) w
    else K.reads a b && backtrack ps w

/-- The states a pattern can be in without reading: the pattern itself and, while it starts
with a star, what follows that star. -/
def closure : List α → List (List α)
  | a :: ps => if K.isStar a then (a :: ps) :: closure ps else [a :: ps]
  | [] => [[]]

/-- The states a pattern can be in after reading one item. -/
def advance (b : β) : List α → List (List α)
  | a :: ps => if K.isStar a then K.closure (a :: ps) else if K.reads a b then K.closure ps else []
  | [] => []

/-- A set of states is **closed** when it holds, with each state that starts with a star, what
follows that star. -/
def Closed (S : List (List α)) : Prop :=
  ∀ a ps, K.isStar a = true → a :: ps ∈ S → ps ∈ S

variable {K}

/-! ## What the backtracking matcher accepts -/

theorem backtrack_cons_cons (a : α) (ps : List α) (b : β) (w : List β) :
    K.backtrack (a :: ps) (b :: w) =
      if K.isStar a then K.backtrack ps (b :: w) || K.backtrack (a :: ps) w
      else K.reads a b && K.backtrack ps w := by
  rw [backtrack]

/-- **A star stands for any run of items.** -/
theorem backtrack_star_iff {a : α} (ha : K.isStar a = true) (ps : List α) :
    ∀ w, K.backtrack (a :: ps) w = true ↔ ∃ xs ys, w = xs ++ ys ∧ K.backtrack ps ys = true
  | [] => by simp [backtrack, ha]
  | b :: w => by
    rw [backtrack_cons_cons, if_pos ha, Bool.or_eq_true, backtrack_star_iff ha ps w]
    constructor
    · rintro (h | ⟨xs, ys, rfl, h⟩)
      · exact ⟨[], b :: w, rfl, h⟩
      · exact ⟨b :: xs, ys, rfl, h⟩
    · rintro ⟨xs, ys, hw, h⟩
      -- the run is empty, or it takes the first item
      cases xs with
      | nil => exact .inl (by simpa using hw ▸ h)
      | cons x xs =>
        obtain ⟨rfl, rfl⟩ := List.cons_eq_cons.mp hw
        exact .inr ⟨xs, ys, rfl, h⟩

/-- **An element that is no star reads exactly one item.** -/
theorem backtrack_read_iff {a : α} (ha : K.isStar a = false) (ps : List α) (w : List β) :
    K.backtrack (a :: ps) w = true ↔
      ∃ b w', w = b :: w' ∧ K.reads a b = true ∧ K.backtrack ps w' = true := by
  cases w with
  | nil => simp [backtrack, ha]
  | cons b w => simp [backtrack_cons_cons, ha]

theorem backtrack_star_of_rest {a : α} (ha : K.isStar a = true) {ps : List α} {w : List β}
    (h : K.backtrack ps w = true) : K.backtrack (a :: ps) w = true :=
  (backtrack_star_iff ha ps w).mpr ⟨[], w, rfl, h⟩

/-- **Two stars in a row stand for what one does.** -/
theorem backtrack_star_star {a : α} (ha : K.isStar a = true) (ps : List α) (w : List β) :
    K.backtrack (a :: a :: ps) w = K.backtrack (a :: ps) w := by
  rw [Bool.eq_iff_iff, backtrack_star_iff ha, backtrack_star_iff ha]
  constructor
  · rintro ⟨xs, ys, rfl, h⟩
    obtain ⟨xs', ys', rfl, h'⟩ := (backtrack_star_iff ha ps ys).mp h
    exact ⟨xs ++ xs', ys', by simp, h'⟩
  · rintro ⟨xs, ys, rfl, h⟩
    exact ⟨[], xs ++ ys, rfl, (backtrack_star_iff ha ps _).mpr ⟨xs, ys, rfl, h⟩⟩

/-- What a pattern accepts after a fixed beginning depends only on what the rest accepts. -/
theorem backtrack_append_congr {qs qs' : List α} (h : ∀ w, K.backtrack qs w = K.backtrack qs' w) :
    ∀ (ps : List α) (w : List β), K.backtrack (ps ++ qs) w = K.backtrack (ps ++ qs') w
  | [], w => h w
  | a :: ps, w => by
    rw [Bool.eq_iff_iff]
    cases ha : K.isStar a
    · simp only [List.cons_append, backtrack_read_iff ha, backtrack_append_congr h ps]
    · simp only [List.cons_append, backtrack_star_iff ha, backtrack_append_congr h ps]

/-! ## The states of a pattern -/

theorem mem_closure_self (ps : List α) : ps ∈ K.closure ps := by
  cases ps with
  | nil => simp [closure]
  | cons a ps => by_cases ha : K.isStar a = true <;> simp [closure, ha]

/-- **The states a pattern starts in accept what the pattern accepts.** -/
theorem closure_iff (ps : List α) (w : List β) :
    (∃ s ∈ K.closure ps, K.backtrack s w = true) ↔ K.backtrack ps w = true := by
  induction ps with
  | nil => simp [closure]
  | cons a ps ih =>
    by_cases ha : K.isStar a = true
    · simp only [closure, ha, if_true, List.mem_cons, exists_eq_or_imp, ih]
      exact ⟨fun h => h.elim id (backtrack_star_of_rest ha), .inl⟩
    · simp [closure, ha]

theorem closed_closure (ps : List α) : K.Closed (K.closure ps) := by
  induction ps with
  | nil => simp [Closed, closure]
  | cons a ps ih =>
    intro a' ps' ha' hmem
    by_cases ha : K.isStar a = true
    · simp only [closure, ha, if_true, List.mem_cons] at hmem ⊢
      rcases hmem with h | h
      · obtain ⟨rfl, rfl⟩ := List.cons_eq_cons.mp h
        exact .inr (mem_closure_self _)
      · exact .inr (ih a' ps' ha' h)
    · simp only [closure, ha, Bool.false_eq_true, if_false, List.mem_singleton] at hmem
      obtain ⟨rfl, rfl⟩ := List.cons_eq_cons.mp hmem
      exact absurd ha' ha

theorem closed_advance (b : β) (s : List α) : K.Closed (K.advance b s) := by
  cases s with
  | nil => simp [Closed, advance]
  | cons a ps =>
    by_cases ha : K.isStar a = true
    · simpa [advance, ha] using closed_closure (a :: ps)
    · by_cases hr : K.reads a b = true
      · simpa [advance, ha, hr] using closed_closure ps
      · simp [advance, ha, hr, Closed]

theorem closed_flatMap {S : List (List α)} {f : List α → List (List α)}
    (hf : ∀ s ∈ S, K.Closed (f s)) : K.Closed (S.flatMap f) := by
  intro a ps ha hmem
  obtain ⟨s, hs, hin⟩ := List.mem_flatMap.mp hmem
  exact List.mem_flatMap.mpr ⟨s, hs, hf s hs a ps ha hin⟩

/-- A state that accepts a word starting with `b` leaves, after reading `b`, a state that accepts
the rest; the closure supplies the states a star stops in. -/
theorem exists_advance {S : List (List α)} (hS : K.Closed S) (b : β) (w : List β) :
    ∀ s, s ∈ S → K.backtrack s (b :: w) = true →
      ∃ s' ∈ S.flatMap (K.advance b), K.backtrack s' w = true
  | [], _, h => by simp [backtrack] at h
  | a :: ps, hs, h => by
    rw [backtrack_cons_cons] at h
    by_cases ha : K.isStar a = true
    · rw [if_pos ha, Bool.or_eq_true] at h
      rcases h with h | h
      -- the star stops here: its rest is a state too
      · exact exists_advance hS b w ps (hS a ps ha hs) h
      -- the star takes `b` and stays
      · refine ⟨a :: ps, List.mem_flatMap.mpr ⟨a :: ps, hs, ?_⟩, h⟩
        simp only [advance, ha, if_true]
        exact mem_closure_self _
    · rw [if_neg ha, Bool.and_eq_true] at h
      obtain ⟨s', hs', h'⟩ := (closure_iff ps w).mpr h.2
      refine ⟨s', List.mem_flatMap.mpr ⟨a :: ps, hs, ?_⟩, h'⟩
      simpa [advance, ha, h.1] using hs'

/-- **Reading one item**: the states after `b` accept `w` exactly when the states before accept
`b :: w`. -/
theorem advance_iff {S : List (List α)} (hS : K.Closed S) (b : β) (w : List β) :
    (∃ s ∈ S.flatMap (K.advance b), K.backtrack s w = true) ↔
      ∃ s ∈ S, K.backtrack s (b :: w) = true := by
  constructor
  · rintro ⟨s', hs', h⟩
    obtain ⟨s, hs, hin⟩ := List.mem_flatMap.mp hs'
    refine ⟨s, hs, ?_⟩
    cases s with
    | nil => simp [advance] at hin
    | cons a ps =>
      rw [backtrack_cons_cons]
      by_cases ha : K.isStar a = true
      · simp only [advance, ha, if_true] at hin
        simp [ha, (closure_iff _ w).mp ⟨s', hin, h⟩]
      · by_cases hr : K.reads a b = true
        · simp only [advance, ha, hr, if_true, if_false, Bool.false_eq_true] at hin
          simp [ha, hr, (closure_iff _ w).mp ⟨s', hin, h⟩]
        · simp [advance, ha, hr] at hin
  · rintro ⟨s, hs, h⟩
    exact exists_advance hS b w s hs h

/-- At the end of the input, a closed set of states accepts exactly when it holds the empty
pattern. -/
theorem any_isEmpty_iff {S : List (List α)} (hS : K.Closed S) :
    S.any (·.isEmpty) = true ↔ ∃ s ∈ S, K.backtrack s [] = true := by
  rw [List.any_eq_true]
  constructor
  · rintro ⟨s, hs, he⟩
    obtain rfl := List.isEmpty_iff.mp he
    exact ⟨[], hs, by simp [backtrack]⟩
  · rintro ⟨s, hs, h⟩
    -- only stars are left in an accepting state, and each has its rest in `S`
    induction s with
    | nil => exact ⟨[], hs, rfl⟩
    | cons a ps ih =>
      simp only [backtrack, Bool.and_eq_true] at h
      exact ih (hS a ps h.1 hs) h.2

/-- **The matcher by states**: whatever step function computes the states after an item, as long
as it keeps exactly the states `advance` allows, the states reached after a word hold the empty
pattern exactly when the backtracking matcher accepts the word from a state started from. -/
theorem foldl_any_iff {step : List (List α) → β → List (List α)}
    (hstep : ∀ S b s, s ∈ step S b ↔ s ∈ S.flatMap (K.advance b)) :
    ∀ (w : List β) (S : List (List α)), K.Closed S →
      ((w.foldl step S).any (·.isEmpty) = true ↔ ∃ s ∈ S, K.backtrack s w = true)
  | [], S, hS => any_isEmpty_iff hS
  | b :: w, S, hS => by
    have hclosed : K.Closed (step S b) := fun a ps ha hmem =>
      (hstep S b ps).mpr (closed_flatMap (fun s _ => closed_advance b s) a ps ha ((hstep S b _).mp hmem))
    rw [List.foldl_cons, foldl_any_iff hstep w _ hclosed, ← advance_iff hS]
    simp only [hstep]

/-- Started from the states of one pattern, the matcher by states accepts what the pattern
accepts. -/
theorem foldl_closure_any {step : List (List α) → β → List (List α)}
    (hstep : ∀ S b s, s ∈ step S b ↔ s ∈ S.flatMap (K.advance b)) (ps : List α) (w : List β) :
    (w.foldl step (K.closure ps)).any (·.isEmpty) = K.backtrack ps w := by
  rw [Bool.eq_iff_iff, foldl_any_iff hstep w _ (closed_closure ps), closure_iff]

end Starred

/-! ## Segments -/

namespace Segment

/-- A segment pattern as a starred pattern over characters. -/
def starred : Starred Wild Char where
  isStar
    | .many => true
    | _ => false
  reads
    | .many, _ => false
    | .one, _ => true
    | .lit d, c => d == c

theorem accepts_eq_backtrack (p : Segment) (cs : List Char) :
    accepts p cs = starred.backtrack p cs := by
  induction p, cs using accepts.induct with
  | case1 cs => cases cs <;> simp [accepts, Starred.backtrack]
  | case2 ps ih => simp [accepts, ih, Starred.backtrack, starred]
  | case3 ps c cs ih1 ih2 => simp [accepts, ih1, ih2, Starred.backtrack_cons_cons, starred]
  | case4 ps => simp [accepts, Starred.backtrack, starred]
  | case5 ps c cs ih => simp [accepts, ih, Starred.backtrack_cons_cons, starred]
  | case6 d ps => simp [accepts, Starred.backtrack, starred]
  | case7 d ps c cs ih => simp [accepts, ih, Starred.backtrack_cons_cons, starred]

theorem skipStars_eq_closure (p : Segment) : skipStars p = starred.closure p := by
  induction p with
  | nil => rfl
  | cons w ps ih =>
    cases w with
    | many => simp [skipStars, Starred.closure, starred, ih]
    | one => rfl
    | lit d => rfl

/-- Reading a character takes each state where `advance` says. -/
theorem stepOn_eq (c : Char) (states : List Segment) :
    stepOn c states = (states.flatMap (starred.advance c)).eraseDups := by
  rw [stepOn]
  congr 1
  refine List.flatMap_congr fun st _ => ?_
  rcases st with _ | ⟨_ | _ | d, ps⟩ <;> simp [skipStars_eq_closure, Starred.advance, starred]

theorem mem_stepOn (c : Char) (states : List Segment) (s : Segment) :
    s ∈ stepOn c states ↔ s ∈ states.flatMap (starred.advance c) := by
  rw [stepOn_eq, List.mem_eraseDups]

/-- **Segment matching by states accepts what segment matching accepts.** -/
theorem acceptsAll_eq_accepts (p : Segment) (cs : List Char) : acceptsAll p cs = accepts p cs := by
  rw [acceptsAll, accepts_eq_backtrack, skipStars_eq_closure]
  exact Starred.foldl_closure_any (fun S c s => mem_stepOn c S s) p cs

end Segment

/-! ## Paths -/

namespace Glob

/-- The steps of a pattern as a starred pattern over path segments. -/
def starred : Starred Step (List Char) where
  isStar
    | .anyDepth => true
    | _ => false
  reads
    | .anyDepth, _ => false
    | .segment p, seg => Segment.accepts p seg

theorem matchSteps_eq_backtrack (steps : List Step) (path : List (List Char)) :
    matchSteps steps path = starred.backtrack steps path := by
  induction steps, path using matchSteps.induct with
  | case1 path => cases path <;> simp [matchSteps, Starred.backtrack]
  | case2 rest ih => simp [matchSteps, ih, Starred.backtrack, starred]
  | case3 rest seg path ih1 ih2 => simp [matchSteps, ih1, ih2, Starred.backtrack_cons_cons, starred]
  | case4 p rest => simp [matchSteps, Starred.backtrack, starred]
  | case5 p rest seg path ih => simp [matchSteps, ih, Starred.backtrack_cons_cons, starred]

theorem skipDepth_eq_closure (steps : List Step) : skipDepth steps = starred.closure steps := by
  induction steps with
  | nil => rfl
  | cons s rest ih =>
    cases s with
    | anyDepth => simp [skipDepth, Starred.closure, starred, ih]
    | segment p => rfl

/-- Reading a path segment takes each state where `advance` says. -/
theorem stepOn_eq (seg : List Char) (states : List (List Step)) :
    stepOn seg states = (states.flatMap (starred.advance seg)).eraseDups := by
  rw [stepOn]
  congr 1
  refine List.flatMap_congr fun st _ => ?_
  rcases st with _ | ⟨_ | p, rest⟩
  · rfl
  · simp [skipDepth_eq_closure, Starred.advance, starred]
  · show (if Segment.acceptsAll p seg then skipDepth rest else []) = _
    rw [Segment.acceptsAll_eq_accepts, skipDepth_eq_closure]
    rfl

theorem mem_stepOn (seg : List Char) (states : List (List Step)) (s : List Step) :
    s ∈ stepOn seg states ↔ s ∈ states.flatMap (starred.advance seg) := by
  rw [stepOn_eq, List.mem_eraseDups]

/-- **Step matching by states accepts what the backtracking step matcher accepts.** -/
theorem matchAll_eq_matchSteps (steps : List Step) (path : List (List Char)) :
    matchAll steps path = matchSteps steps path := by
  rw [matchAll, matchSteps_eq_backtrack, skipDepth_eq_closure]
  exact Starred.foldl_closure_any (fun S seg s => mem_stepOn seg S s) steps path

/-! ## The language of a written pattern

The language is stated on the pattern's text, segment by segment and character by character,
without the steps the pattern is read into. -/

/-- The segments a pattern is written with: backslashes read as slashes, `**` added after a
trailing slash, and empty segments dropped.  Runs of `**` are kept as written. -/
def writtenSegments (text : String) : List String :=
  let norm := String.ofList (text.toList.map fun c => if c = '\\' then '/' else c)
  pathSegments (if norm.toList.getLast? = some '/' then norm ++ "**" else norm)

/-- **The language of one pattern segment**, read off its characters: `*` stands for any run of
characters, `?` for exactly one character, and every other character for itself. -/
def SegmentLang : List Char → List Char → Prop
  | [], cs => cs = []
  | p :: ps, cs =>
    if p = '*' then ∃ xs ys, cs = xs ++ ys ∧ SegmentLang ps ys
    else if p = '?' then ∃ c rest, cs = c :: rest ∧ SegmentLang ps rest
    else ∃ rest, cs = p :: rest ∧ SegmentLang ps rest

/-- **The language of a pattern's segments**: `**` stands for any run of whole path segments,
none included, and every other pattern segment for exactly one path segment in the segment's
own language. -/
def PathLang : List String → List String → Prop
  | [], path => path = []
  | p :: ps, path =>
    if p = "**" then ∃ xs ys, path = xs ++ ys ∧ PathLang ps ys
    else ∃ seg rest, path = seg :: rest ∧ SegmentLang p.toList seg.toList ∧ PathLang ps rest

/-- The step one written segment stands for. -/
def stepOf (seg : String) : Step :=
  if seg = "**" then .anyDepth else .segment (Segment.ofString seg)

/-- The element one character of a segment pattern stands for. -/
def wildOf (c : Char) : Wild :=
  if c = '*' then .many else if c = '?' then .one else .lit c

theorem ofString_steps (text : String) :
    (ofString text).steps = ((writtenSegments text).foldl pushStep []).reverse := by
  simp only [ofString, writtenSegments]

/-- **A segment pattern accepts its segment's language.** -/
theorem segmentLang_iff : ∀ (ps cs : List Char),
    Segment.starred.backtrack (ps.map wildOf) cs = true ↔ SegmentLang ps cs
  | [], cs => by simp [Starred.backtrack, SegmentLang]
  | p :: ps, cs => by
    rw [List.map_cons, SegmentLang]
    by_cases hstar : p = '*'
    · rw [if_pos hstar, show wildOf p = .many by simp [wildOf, hstar], Starred.backtrack_star_iff rfl]
      simp only [segmentLang_iff ps]
    · by_cases hone : p = '?'
      · rw [if_neg hstar, if_pos hone, show wildOf p = .one by simp [wildOf, hone],
          Starred.backtrack_read_iff rfl]
        -- `?` reads any character
        have hreads : ∀ c, Segment.starred.reads .one c = true := fun _ => rfl
        simp only [hreads, segmentLang_iff ps, true_and]
      · rw [if_neg hstar, if_neg hone, show wildOf p = .lit p by simp [wildOf, hstar, hone],
          Starred.backtrack_read_iff rfl]
        -- any other character reads only itself
        have hreads : ∀ c, Segment.starred.reads (.lit p) c = true ↔ p = c := fun c => by
          show (p == c) = true ↔ p = c
          exact beq_iff_eq
        simp only [hreads, segmentLang_iff ps]
        constructor
        · rintro ⟨c, rest, rfl, rfl, h⟩
          exact ⟨rest, rfl, h⟩
        · rintro ⟨rest, rfl, h⟩
          exact ⟨p, rest, rfl, rfl, h⟩

theorem segment_accepts_iff (p : String) (seg : String) :
    Segment.accepts (Segment.ofString p) seg.toList = true ↔ SegmentLang p.toList seg.toList := by
  rw [Segment.accepts_eq_backtrack, ← segmentLang_iff]
  rfl

/-- **The steps of written segments accept the language of those segments.** -/
theorem pathLang_iff : ∀ (ps path : List String),
    starred.backtrack (ps.map stepOf) (path.map String.toList) = true ↔ PathLang ps path
  | [], path => by simp [Starred.backtrack, PathLang]
  | p :: ps, path => by
    rw [List.map_cons, PathLang]
    by_cases hany : p = "**"
    · have h : starred.isStar (stepOf p) = true := by simp [stepOf, hany, starred]
      rw [Starred.backtrack_star_iff h, if_pos hany]
      constructor
      · rintro ⟨xs, ys, hsplit, hrest⟩
        obtain ⟨xs', ys', rfl, -, rfl⟩ := List.map_eq_append_iff.mp hsplit
        exact ⟨xs', ys', rfl, (pathLang_iff ps ys').mp hrest⟩
      · rintro ⟨xs, ys, rfl, hrest⟩
        exact ⟨xs.map String.toList, ys.map String.toList, by simp, (pathLang_iff ps ys).mpr hrest⟩
    · have h : starred.isStar (stepOf p) = false := by simp [stepOf, hany, starred]
      rw [Starred.backtrack_read_iff h, if_neg hany]
      have hreads : ∀ seg : String, starred.reads (stepOf p) seg.toList = true ↔
          SegmentLang p.toList seg.toList := fun seg => by
        simp only [stepOf, hany, if_false, starred]
        exact segment_accepts_iff p seg
      constructor
      · rintro ⟨b, w, hpath, hread, hrest⟩
        obtain ⟨seg, rest, rfl, rfl, rfl⟩ := List.map_eq_cons_iff.mp hpath
        exact ⟨seg, rest, rfl, (hreads seg).mp hread, (pathLang_iff ps rest).mp hrest⟩
      · rintro ⟨seg, rest, rfl, hseg, hrest⟩
        exact ⟨seg.toList, rest.map String.toList, rfl, (hreads seg).mpr hseg,
          (pathLang_iff ps rest).mpr hrest⟩

/-- Reading one more segment into the reversed steps: it is pushed as its step, unless it is a
`**` after a `**`. -/
theorem pushStep_cases (acc : List Step) (seg : String) :
    pushStep acc seg = stepOf seg :: acc ∨
      (starred.isStar (stepOf seg) = true ∧ ∃ acc', acc = stepOf seg :: acc' ∧ pushStep acc seg = acc) := by
  unfold pushStep stepOf
  split
  · rename_i hany
    split
    · exact .inr ⟨by simp [starred], _, rfl, rfl⟩
    · exact .inl rfl
  · exact .inl rfl

/-- **Collapsing runs of `**` changes no answer**: the steps read from written segments accept
what the steps of every segment accept. -/
theorem foldl_pushStep (w : List (List Char)) : ∀ (segs : List String) (acc : List Step),
    starred.backtrack ((segs.foldl pushStep acc).reverse) w =
      starred.backtrack (acc.reverse ++ segs.map stepOf) w
  | [], acc => by simp
  | seg :: segs, acc => by
    rw [List.foldl_cons, foldl_pushStep w segs]
    rcases pushStep_cases acc seg with h | ⟨hstar, acc', rfl, h⟩
    · simp [h]
    · -- the `**` joins the one before it
      rw [h, List.map_cons, List.reverse_cons, List.append_assoc, List.append_assoc]
      exact Starred.backtrack_append_congr
        (fun w => (Starred.backtrack_star_star hstar _ w).symm) acc'.reverse w

/-- **What a pattern selects.**  A pattern selects a path exactly when the path's segments are in
the language of the pattern's written segments.  Matching by states answers as the backtracking
matcher does on the steps read from the pattern, and those steps, with runs of `**` collapsed,
answer as the steps of every written segment do. -/
theorem selects_iff_language (p x : String) :
    ((ofString p).selects x = true ↔ PathLang (writtenSegments p) (pathSegments x)) ∧
    (ofString p).selects x = matchSteps (ofString p).steps ((pathSegments x).map String.toList) ∧
    (ofString p).selects x =
      matchSteps ((writtenSegments p).map stepOf) ((pathSegments x).map String.toList) := by
  have hstates : (ofString p).selects x =
      matchSteps (ofString p).steps ((pathSegments x).map String.toList) := by
    rw [selects, matchAll_eq_matchSteps]
  have hcollapse : matchSteps (ofString p).steps ((pathSegments x).map String.toList) =
      matchSteps ((writtenSegments p).map stepOf) ((pathSegments x).map String.toList) := by
    rw [matchSteps_eq_backtrack, matchSteps_eq_backtrack, ofString_steps, foldl_pushStep,
      List.reverse_nil, List.nil_append]
  refine ⟨?_, hstates, hstates.trans hcollapse⟩
  rw [hstates, hcollapse, matchSteps_eq_backtrack]
  exact pathLang_iff _ _

example : (ofString "a/**/**/?.class").selects "a\\x\\y/B.class" = true := by decide
example : (ofString "org/").selects "org" = true := by decide

end Glob

end ApiAudit
