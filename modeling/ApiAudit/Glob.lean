import ApiAudit.Text.Blank

/-!
# Glob — Ant-style path patterns

A **pattern** selects relative paths such as `org/acme/Main.class`.  It is read as a list of
**steps**, one per path segment:

* `**` (a step of its own) stands for any number of segments, none included;
* any other step matches exactly one segment, where `*` stands for any run of characters and
  `?` for exactly one character; every other character stands for itself.

Backslashes count as slashes, empty segments are dropped on both sides, a trailing slash means
"everything below" (`dir/` reads as `dir/**`), and a run of `**` steps reads as one.  Matching is
case-sensitive.

Main statement: `Segment.accepts` decides the declarative language `Segment.Matches`
(`Segment.accepts_iff`).  `Segment.acceptsAll` and `Glob.matchAll` compute the same answers as
`Segment.accepts` and `Glob.matchSteps` by carrying every pattern state along the input at once,
which keeps patterns with many `*` or `**` fast.
-/

namespace ApiAudit

/-- One element of a segment pattern. -/
inductive Wild where
  /-- `*`: any run of characters, the empty run included. -/
  | many
  /-- `?`: exactly one character. -/
  | one
  /-- Any other character stands for itself. -/
  | lit (c : Char)
  deriving DecidableEq, Repr

/-- A segment pattern: the elements of one path segment of a pattern. -/
abbrev Segment := List Wild

namespace Segment

/-- Reads one segment of a pattern. -/
def ofString (s : String) : Segment :=
  s.toList.map fun c => if c = '*' then .many else if c = '?' then .one else .lit c

/-- **Segment matching**, element by element; a `*` either stops or takes one more character. -/
def accepts : Segment → List Char → Bool
  | [], cs => cs.isEmpty
  | .many :: ps, [] => accepts ps []
  | .many :: ps, c :: cs => accepts ps (c :: cs) || accepts (.many :: ps) cs
  | .one :: _, [] => false
  | .one :: ps, _ :: cs => accepts ps cs
  | .lit _ :: _, [] => false
  | .lit d :: ps, c :: cs => d == c && accepts ps cs

/-- The language of a segment pattern, stated without the matcher. -/
inductive Matches : Segment → List Char → Prop
  | nil : Matches [] []
  | manyStop {ps cs} : Matches ps cs → Matches (.many :: ps) cs
  | manyTake {ps c cs} : Matches (.many :: ps) cs → Matches (.many :: ps) (c :: cs)
  | one {ps c cs} : Matches ps cs → Matches (.one :: ps) (c :: cs)
  | lit {ps c cs} : Matches ps cs → Matches (.lit c :: ps) (c :: cs)

/-- The matcher decides the language of a segment pattern. -/
theorem accepts_iff (p : Segment) (cs : List Char) : accepts p cs = true ↔ Matches p cs := by
  induction p, cs using accepts.induct with
  | case1 cs =>
    cases cs with
    | nil => simp [accepts, Matches.nil]
    | cons c cs => simp only [accepts, List.isEmpty_cons, Bool.false_eq_true, false_iff]; intro h; cases h
  | case2 ps ih =>
    rw [accepts, ih]
    constructor
    · exact Matches.manyStop
    · intro h; cases h with
      | manyStop h => exact h
  | case3 ps c cs ih1 ih2 =>
    rw [accepts, Bool.or_eq_true, ih1, ih2]
    constructor
    · rintro (h | h)
      · exact Matches.manyStop h
      · exact Matches.manyTake h
    · intro h; cases h with
      | manyStop h => exact Or.inl h
      | manyTake h => exact Or.inr h
  | case4 ps =>
    simp only [accepts, Bool.false_eq_true, false_iff]; intro h; cases h
  | case5 ps c cs ih =>
    rw [accepts, ih]
    constructor
    · exact Matches.one
    · intro h; cases h with
      | one h => exact h
  | case6 d ps =>
    simp only [accepts, Bool.false_eq_true, false_iff]; intro h; cases h
  | case7 d ps c cs ih =>
    rw [accepts, Bool.and_eq_true, ih, beq_iff_eq]
    constructor
    · rintro ⟨rfl, h⟩; exact Matches.lit h
    · intro h; cases h with
      | lit h => exact ⟨rfl, h⟩

/-- The states a segment pattern can be in without reading: the suffix itself and, while it
starts with `*`, what follows that `*`. -/
def skipStars : Segment → List Segment
  | .many :: ps => (.many :: ps) :: skipStars ps
  | ps => [ps]

/-- The states after reading one character from any of `states`: a `*` keeps it, `?` and the
same character pass it. -/
def stepOn (c : Char) (states : List Segment) : List Segment :=
  (states.flatMap fun
    | .many :: ps => skipStars (.many :: ps)
    | .one :: ps => skipStars ps
    | .lit d :: ps => if d == c then skipStars ps else []
    | [] => []).eraseDups

/-- **Segment matching by states**: the suffixes of the pattern still to match are carried
along the characters together, so a pattern with many `*` costs time in proportion to its
length for each character rather than a search over every split of the text.  It accepts
exactly what `accepts` accepts. -/
def acceptsAll (p : Segment) (cs : List Char) : Bool :=
  (cs.foldl (fun states c => stepOn c states) (skipStars p)).any (·.isEmpty)

end Segment

/-- One step of a pattern. -/
inductive Step where
  /-- `**`: any number of segments. -/
  | anyDepth
  /-- One segment matched by a segment pattern. -/
  | segment (p : Segment)
  deriving DecidableEq, Repr

/-- Cuts a path into its segments: backslashes count as slashes and empty segments are
dropped. -/
def pathSegments (s : String) : List String :=
  ((s.toList.map fun c => if c = '\\' then '/' else c).splitOn '/').filterMap fun seg =>
    if seg.isEmpty then none else some (String.ofList seg)

/-- Appends a step unless it is a `**` that follows another `**`. -/
def pushStep (acc : List Step) (seg : String) : List Step :=
  if seg = "**" then
    match acc with
    | .anyDepth :: _ => acc
    | _ => .anyDepth :: acc
  else .segment (Segment.ofString seg) :: acc

/-- An Ant-style path pattern: its text and the steps read from it. -/
structure Glob where
  /-- The pattern as written. -/
  text : String
  /-- The steps, in order. -/
  steps : List Step
  deriving Repr

namespace Glob

/-- **Reads a pattern**: slashes normalised, a trailing slash read as `/**`, runs of `**`
collapsed. -/
def ofString (text : String) : Glob :=
  let norm := String.ofList (text.toList.map fun c => if c = '\\' then '/' else c)
  let full := if norm.toList.getLast? = some '/' then norm ++ "**" else norm
  { text, steps := ((pathSegments full).foldl pushStep []).reverse }

/-- Matches steps against path segments; a `**` tries every suffix of the path. -/
def matchSteps : List Step → List (List Char) → Bool
  | [], path => path.isEmpty
  | .anyDepth :: rest, [] => matchSteps rest []
  | .anyDepth :: rest, seg :: path => matchSteps rest (seg :: path) || matchSteps (.anyDepth :: rest) path
  | .segment _ :: _, [] => false
  | .segment p :: rest, seg :: path => Segment.accepts p seg && matchSteps rest path

/-- The states steps can be in without reading a segment: the steps themselves and, while
they start with `**`, what follows it. -/
def skipDepth : List Step → List (List Step)
  | .anyDepth :: rest => (.anyDepth :: rest) :: skipDepth rest
  | steps => [steps]

/-- The states after reading one segment from any of `states`. -/
def stepOn (seg : List Char) (states : List (List Step)) : List (List Step) :=
  (states.flatMap fun
    | .anyDepth :: rest => skipDepth (.anyDepth :: rest)
    | .segment p :: rest => if Segment.acceptsAll p seg then skipDepth rest else []
    | [] => []).eraseDups

/-- **Step matching by states**: every way the steps can stand after a prefix of the path is
carried along at once, so several `**` cost no search over every split of the path.  It
accepts exactly what `matchSteps` accepts. -/
def matchAll (steps : List Step) (path : List (List Char)) : Bool :=
  (path.foldl (fun states seg => stepOn seg states) (skipDepth steps)).any (·.isEmpty)

/-- **Whether a pattern selects a relative path.** -/
def selects (g : Glob) (path : String) : Bool :=
  matchAll g.steps ((pathSegments path).map String.toList)

/-- A pattern takes part in a selection only when it is not blank. -/
def ofList (patterns : List String) : List Glob :=
  patterns.filterMap fun p => if Text.isBlankText p then none else some (ofString p)

end Glob

end ApiAudit
