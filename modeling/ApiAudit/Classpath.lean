import ApiAudit.Environment
import ApiAudit.Failure
import ApiAudit.Text.Blank
import ApiAudit.Text.Surrogate

/-!
# Classpath — class-loading roots

A **classpath entry** is a path text: `~` and variables are expanded
(`Environment.expandUser`, then `Environment.expandVars`) and the result is made absolute
(`Path.absolute`).  An entry that is blank, holds a NUL character, or whose root holds a lone
surrogate that stands for no byte (`hasAddress`) is refused with the configuration error
`classpath.invalid`; a value that is no text at all is a fault.

`Classpath.build` gives the roots in order: the user entries as given, then the classes
directory, even when an entry already names it.  `Classpath.split` cuts texts at a separator
(or at blanks when the separator is null) and drops empty parts, ignoring values that are not
texts.
-/

namespace ApiAudit.Classpath

/-- The root an entry text stands for; expanding a name that cannot be looked up is a fault. -/
def normalize (env : Environment) (p : String) : Except Fault String := do
  pure (Path.absolute (← env.expandVars (← env.expandUser p)))

/-- The error of a blank entry. -/
def blankEntry : Failure := .config "classpath.invalid" "Classpath entry must be a non-empty path"

/-- The error of an entry holding a NUL character. -/
def nulEntry (raw : String) : Failure :=
  .config "classpath.invalid" "The given classpath is invalid: entry contains a NUL character"
    (some (Value.obj [("entry", .str raw)]))

/-- Whether a path can be named as a file address: its lone surrogates, if any, must each stand
for a single byte of the file system's name (`U+DC80` to `U+DCFF`). -/
def hasAddress (path : String) : Bool :=
  path.toList.all fun c => match Text.unit? c with
    | some u => 0xDC80 ≤ u && u ≤ 0xDCFF
    | none => true

/-- The error of an entry whose root has no file address. -/
def addresslessEntry (raw : String) : Failure :=
  .config "classpath.invalid" ("The given classpath is invalid: " ++ raw)
    (some (Value.obj [("entry", .str raw)]))

/-- **The root of one classpath entry.** -/
def entry (env : Environment) (raw : Value) : Except Failure String :=
  match raw with
  | .str s =>
    if Text.isBlankText s then .error blankEntry
    else if s.toList.contains '\x00' then .error (nulEntry s)
    else do
      let root ← (normalize env s).mapError Failure.fault
      if hasAddress root then pure root else throw (addresslessEntry s)
  | v => .error (.fault (Fault.notAPath v))

/-- **The class-loading roots**: the entries in order, then the classes directory. -/
def build (env : Environment) (entries : List Value) (classesDirectory : Value) :
    Except Failure (List String) := do
  let roots ← entries.mapM (entry env)
  let dir ← entry env classesDirectory
  pure (roots ++ [dir])

/-- Cuts a character list at every occurrence of a non-empty separator. -/
def cutAt (sep : List Char) (cs : List Char) : List (List Char) :=
  go cs.length cs []
where
  /-- `cur` holds the current part reversed; `fuel` bounds the characters read. -/
  go : Nat → List Char → List Char → List (List Char)
    | 0, rest, cur => [cur.reverse ++ rest]
    | fuel + 1, rest, cur =>
      if sep.isPrefixOf rest && !sep.isEmpty then cur.reverse :: go fuel (rest.drop sep.length) []
      else match rest with
        | [] => [cur.reverse]
        | c :: more => go fuel more (c :: cur)

/-- **Splits classpath texts** at a separator, dropping empty parts and values that are not
texts.  A null separator cuts at runs of blanks.  A separator that is empty or no text cannot
cut a text: it is a fault once a text is met. -/
def split (values : List Value) (sep : Value) : Except Failure (List String) :=
  let texts := values.filterMap Value.asStr?
  if texts.isEmpty then .ok []
  else match sep with
    | .null => .ok (texts.flatMap Text.words)
    | .str sep =>
      if sep.isEmpty then .error (.fault ⟨.value, "empty separator"⟩)
      else .ok (texts.flatMap fun s => ((cutAt sep.toList s.toList).filter (· ≠ [])).map String.ofList)
    | v => .error (.fault ⟨.type, "must be str or None, not " ++ v.typeName⟩)

example : (split [.str "a.jar::b.jar:", .int 5] (.str ":")).toOption = some ["a.jar", "b.jar"] := by decide
example : (split [.int 5] (.str "")).toOption = some [] := by decide

end ApiAudit.Classpath
