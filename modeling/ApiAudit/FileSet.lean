import ApiAudit.Glob
import ApiAudit.FileTree.Basic

/-!
# FileSet — the files below a directory that a selection picks

A **walk** lists the files below a root directory, relative to it with `/` between
components.  The order is fixed: the files of a directory first, sorted by name, then its
subdirectories in sorted order, each walked in full before the next.  A subdirectory is entered
only when its identity (`FileTree.dirIdentity?`) is new; identities are recorded when the
directory holding them is listed, so of two links to one directory the first in sort order
wins and a link back to an ancestor is never entered.  Entries that lead nowhere (dangling
links) are passed over.

A **selection** (`FileSet.select`) keeps the walked paths that some include pattern selects and
no exclude pattern does.  Blank patterns are ignored, no include pattern means `**/*.class`,
and the usual version-control and editor droppings (`FileSet.defaultExcludes`) are excluded
unless asked otherwise.  A root that is no directory selects nothing.
-/

namespace ApiAudit.FileSet

/-- The include pattern used when none is given. -/
def defaultInclude : String := "**/*.class"

/-- Version-control metadata, editor backups and operating-system droppings. -/
def defaultExcludes : List String :=
  ["**/*~", "**/#*#", "**/.#*", "**/%*%", "**/._*", "**/CVS", "**/CVS/**", "**/.cvsignore",
   "**/RCS", "**/RCS/**", "**/SCCS", "**/SCCS/**", "**/vssver.scc", "**/project.pj", "**/.svn",
   "**/.svn/**", "**/.arch-ids", "**/.arch-ids/**", "**/.bzr", "**/.bzr/**",
   "**/.MySCMServerInfo", "**/.DS_Store", "**/.metadata", "**/.metadata/**", "**/.hg",
   "**/.hg/**", "**/.hgignore", "**/.git", "**/.git/**", "**/.gitignore", "**/.gitattributes",
   "**/BitKeeper", "**/BitKeeper/**", "**/ChangeSet", "**/ChangeSet/**", "**/_darcs",
   "**/_darcs/**", "**/.darcsrepo", "**/.darcsrepo/**", "**/-darcs-backup*",
   "**/.darcs-temp-mail"]

/-- The text of a real path. -/
def realText (p : List String) : String := "/" ++ "/".intercalate p

/-- What listing one directory found: files (relative paths), subdirectories still to walk
(real path and relative prefix), and the identities seen so far. -/
structure Listing where
  files : List String
  pending : List (List String × String)
  seen : List (List String)

/-- Sorts one child of the directory `dir` into a listing. -/
def classify (t : FileTree) (dir : List String) (pre : String) (acc : Listing) (name : String) :
    Listing :=
  let path := realText (dir ++ [name])
  match t.entryAt? path with
  | some (real, .dir) =>
    if acc.seen.contains real then acc
    else { acc with pending := acc.pending ++ [(real, pre ++ name ++ "/")], seen := acc.seen ++ [real] }
  | some (_, .file _) => { acc with files := acc.files ++ [pre ++ name] }
  | _ => acc

/-- Walks the directory with real path `dir`; relative paths get the prefix `pre`.  Each
level of nesting spends one unit of `fuel`. -/
def walkFrom (t : FileTree) : Nat → List String → String → List (List String) →
    List String × List (List String)
  | 0, _, _, seen => ([], seen)
  | fuel + 1, dir, pre, seen =>
    let listing := (t.childNames dir).foldl (classify t dir pre) ⟨[], [], seen⟩
    listing.pending.foldl
      (fun acc sub =>
        let (more, seen') := walkFrom t fuel sub.1 sub.2 acc.2
        (acc.1 ++ more, seen'))
      (listing.files, listing.seen)

/-- **The files below a directory**, in walk order. -/
def walk (t : FileTree) (root : String) : List String :=
  match t.dirIdentity? root with
  | some real => (walkFrom t (t.entries.length + 1) real "" [real]).1
  | none => []

/-- **Selects files below a root**: some include and no exclude pattern selects them. -/
def select (t : FileTree) (root : String) (includes excludes : List String)
    (useDefaultExcludes : Bool := true) : List String :=
  let inc := match Glob.ofList includes with
    | [] => [Glob.ofString defaultInclude]
    | gs => gs
  let exc := Glob.ofList excludes ++ (if useDefaultExcludes then Glob.ofList defaultExcludes else [])
  if t.isDir root then
    (walk t root).filter fun rel => inc.any (·.selects rel) && !exc.any (·.selects rel)
  else []

end ApiAudit.FileSet
