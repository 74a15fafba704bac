/-!
# Path — the text of file paths

Paths are texts with `/` between components.  Every request runs in the working directory
`/work`, against which relative paths are read.  Two normal forms appear in answers:

* `Path.normalize` — lexical: repeated slashes and `.` go, `a/..` cancels, a path that climbs
  above the root stays at the root, and the empty path is `.`;  `Path.absolute` first puts the
  working directory in front of a relative path;
* `Path.clean` — the form a path object shows: repeated slashes and `.` components go and a
  trailing slash is dropped, but `..` stays, because only the file tree can say where it leads.

Both keep exactly two leading slashes and read three or more as one.  `Path.child` joins a
relative path to a base, an absolute one replaces it.  The functions work on the characters of
a path, so closed instances evaluate by `decide`.
-/

namespace ApiAudit.Path

/-- The working directory of every request. -/
def workDir : String := "/work"

/-- Whether a path starts at the root. -/
def isAbsolute (s : String) : Bool := s.toList.head? == some '/'

/-- The number of leading slashes kept: two stay two, three or more become one. -/
def leadingSlashes : List Char → Nat
  | '/' :: '/' :: '/' :: _ => 1
  | '/' :: '/' :: _ => 2
  | '/' :: _ => 1
  | _ => 0

/-- The components of a path: the texts between slashes, empty ones dropped. -/
def componentChars (cs : List Char) : List (List Char) :=
  (cs.splitOn '/').filter (· ≠ [])

/-- The components of a path as texts. -/
def components (s : String) : List String := (componentChars s.toList).map String.ofList

/-- Folds `..` into the components before it; `rooted` paths never climb above the root. -/
def cancelUp (rooted : Bool) : List (List Char) → List (List Char) → List (List Char)
  | [], acc => acc.reverse
  | c :: rest, acc =>
    if c = ['.'] then cancelUp rooted rest acc
    else if c = ['.', '.'] then
      match acc with
      | [] => if rooted then cancelUp rooted rest [] else cancelUp rooted rest [c]
      | d :: up => if d = ['.', '.'] then cancelUp rooted rest (c :: acc) else cancelUp rooted rest up
    else cancelUp rooted rest (c :: acc)

/-- Writes components with a number of leading slashes. -/
def assemble (slashes : Nat) (comps : List (List Char)) : String :=
  String.ofList (List.replicate slashes '/' ++ List.intercalate ['/'] comps)

/-- **Lexical normal form** of a path. -/
def normalize (s : String) : String :=
  let cs := s.toList
  let slashes := leadingSlashes cs
  let text := assemble slashes (cancelUp (slashes > 0) (componentChars cs) [])
  if text.isEmpty then "." else text

/-- Joins a path to a base: an absolute path replaces the base. -/
def join (base rel : String) : String :=
  if isAbsolute rel then rel
  else if base.isEmpty || base.toList.getLast? == some '/' then base ++ rel
  else base ++ "/" ++ rel

/-- **The absolute form** of a path, read against the working directory. -/
def absolute (s : String) : String :=
  normalize (if isAbsolute s then s else join workDir s)

/-- **The form a path object shows.** -/
def clean (s : String) : String :=
  let cs := s.toList
  let text := assemble (leadingSlashes cs) ((componentChars cs).filter (· ≠ ['.']))
  if text.isEmpty then "." else text

/-- **A path below a base**, in clean form. -/
def child (base rel : String) : String := clean (join base rel)

/-- **The parent of a path**, in clean form: the path without its last component. -/
def parent (s : String) : String :=
  let cs := s.toList
  let text := assemble (leadingSlashes cs) ((componentChars cs).filter (· ≠ ['.'])).dropLast
  if text.isEmpty then "." else text

/-- The last component of a path (empty for the root). -/
def name (s : String) : String := ((components (clean s)).getLast?).getD ""

example : absolute "a/../b" = "/work/b" := by decide
example : parent "/work/t.jsonl" = "/work" ∧ parent "t.jsonl" = "." ∧ parent "/" = "/" := by decide
example : absolute "/x/./y//z/" = "/x/y/z" := by decide
example : absolute "/.." = "/" := by decide
example : clean "./a//b/." = "a/b" := by decide
example : child "/work/d1" "../s.txt" = "/work/d1/../s.txt" := by decide

end ApiAudit.Path
