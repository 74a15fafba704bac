/-!
# Text/FileLines — the lines of a text file

A text file is read with every line end (`\n`, `\r\n`, `\r`) turned into `\n`, then cut after
each `\n`; every line keeps its line feed, and a last line without one is kept too.
-/

namespace ApiAudit.Text

/-- Turns every line end into `\n`. -/
def unifyLineEnds : List Char → List Char
  | '\r' :: '\n' :: rest => '\n' :: unifyLineEnds rest
  | '\r' :: rest => '\n' :: unifyLineEnds rest
  | c :: rest => c :: unifyLineEnds rest
  | [] => []

/-- Cuts characters into lines, each keeping its `\n`; `cur` holds the current line reversed. -/
def cutLines : List Char → List Char → List String
  | [], [] => []
  | [], cur => [String.ofList cur.reverse]
  | '\n' :: rest, cur => String.ofList ('\n' :: cur).reverse :: cutLines rest []
  | c :: rest, cur => cutLines rest (c :: cur)

/-- **The lines of a text file.** -/
def fileLines (text : String) : List String := cutLines (unifyLineEnds text.toList) []

example : fileLines "a\r\nb\rc\n\nd" = ["a\n", "b\n", "c\n", "\n", "d"] := by decide

end ApiAudit.Text
