/-!
# Schema/Pattern — anchored patterns of character classes

The patterns that schemas use here are anchored sequences of character classes, each taken
once, one or more times, or any number of times: `^[^:]+:[^:]+$` or `^[A-Za-z][A-Za-z0-9_.-]*$`.
A text matches when the whole sequence covers it; the end anchor also accepts a single line
feed left at the very end.  A pattern keeps its source text, which error messages quote.
-/

namespace ApiAudit.Schema

/-- A set of characters: ranges, or everything outside them. -/
structure CharClass where
  ranges : List (Char × Char)
  negated : Bool := false
  deriving Repr

/-- Whether a class accepts a character. -/
def CharClass.accepts (k : CharClass) (c : Char) : Bool :=
  (k.ranges.any fun (lo, hi) => lo ≤ c && c ≤ hi) != k.negated

/-- How often a class is taken. -/
inductive Repeat where
  | once
  | oneOrMore
  | zeroOrMore
  deriving DecidableEq, Repr

/-- An anchored pattern and its source text. -/
structure Pattern where
  source : String
  parts : List (CharClass × Repeat)
  deriving Repr

/-- The parts with every `one or more` written as `once` then `any number`. -/
def unfoldRepeats : List (CharClass × Repeat) → List (CharClass × Repeat)
  | [] => []
  | (k, .oneOrMore) :: ps => (k, .once) :: (k, .zeroOrMore) :: unfoldRepeats ps
  | p :: ps => p :: unfoldRepeats ps

/-- The positions reachable from position `i` without reading, by skipping parts taken any
number of times; `ps` are the parts from `i` on. -/
def skips : List (CharClass × Repeat) → Nat → List Nat
  | (_, .zeroOrMore) :: ps, i => i :: skips ps (i + 1)
  | _, i => [i]

/-- The positions after reading one character at position `i`. -/
def stepAt (parts : List (CharClass × Repeat)) (c : Char) (i : Nat) : List Nat :=
  match parts.drop i with
  | (k, .zeroOrMore) :: ps => if k.accepts c then skips ((k, .zeroOrMore) :: ps) i else []
  | (k, _) :: ps => if k.accepts c then skips ps (i + 1) else []
  | [] => []

/-- Whether reading the characters from some of the positions reaches the end of the parts,
up to an optional final line feed. -/
def reachesEnd (parts : List (CharClass × Repeat)) : List Nat → List Char → Bool
  | states, [] => states.contains parts.length
  | states, c :: rest =>
    (c == '\n' && rest.isEmpty && states.contains parts.length) ||
      reachesEnd parts (states.flatMap (stepAt parts c)).eraseDups rest

/-- Whether a sequence of classes covers characters, up to an optional final line feed. -/
def covers (parts : List (CharClass × Repeat)) (cs : List Char) : Bool :=
  let ps := unfoldRepeats parts
  reachesEnd ps (skips ps 0) cs

/-- **Whether a text matches a pattern.** -/
def Pattern.matches (p : Pattern) (s : String) : Bool := covers p.parts s.toList

/-- The class of a single character. -/
def CharClass.single (c : Char) : CharClass := ⟨[(c, c)], false⟩

/-- ASCII letters. -/
def asciiLetters : List (Char × Char) := [('A', 'Z'), ('a', 'z')]

/-- An engine spec: a module and an object, each without colons. -/
def specPattern : Pattern :=
  { source := "^[^:]+:[^:]+$",
    parts := [(⟨[(':', ':')], true⟩, .oneOrMore), (CharClass.single ':', .once),
              (⟨[(':', ':')], true⟩, .oneOrMore)] }

/-- A task name: a letter, then letters, digits, `_`, `.` and `-`. -/
def taskNamePattern : Pattern :=
  { source := "^[A-Za-z][A-Za-z0-9_.-]*$",
    parts := [(⟨asciiLetters, false⟩, .once),
              (⟨asciiLetters ++ [('0', '9'), ('_', '_'), ('.', '.'), ('-', '-')], false⟩, .zeroOrMore)] }

example : specPattern.matches "a:b" = true := by decide +kernel
example : specPattern.matches "a:b:c" = false := by decide +kernel
example : taskNamePattern.matches "build.main-1\n" = true := by decide +kernel
example : taskNamePattern.matches "9a" = false := by decide +kernel

end ApiAudit.Schema
