import ApiAudit.Path
import ApiAudit.Text.Quoted

/-!
# FileTree/Basic — a file tree with directories, files, archives and symbolic links

A `FileTree` records every entry under its absolute path, as the list of its components.  The
root is always a directory.  An entry is a directory, a regular file with its bytes, or a
symbolic link with its target text.

**Resolution** (`FileTree.resolve`) reads a path component by component from the root or from
the working directory: `..` goes to the parent of the directory reached so far (so it is read
after the links before it), a link is replaced by its target (read from the link's directory
when relative), and at most 40 links are followed in one resolution.  It ends in the real path
of the entry, or in an `Errno`: a missing component, a component below a file, or too many
links.  The last component is followed only when asked.

A directory's **identity** is its real path: two links to one directory lead to one identity.

Changes follow the same rules: `makeDirs` creates missing parents and accepts a directory that
is there, `appendBytes` creates a missing file, and each reports the failing cause with the path
as the caller wrote it (`OsError.text`).
-/

namespace ApiAudit

/-- What a path of the tree holds. -/
inductive Entry where
  | dir
  | file (data : List UInt8)
  | link (target : String)
  deriving Inhabited

/-- The causes of a failed file operation, with their system numbers. -/
inductive Errno where
  | noEntry
  | alreadyExists
  | notDir
  | isDir
  | loop
  deriving DecidableEq, Repr

namespace Errno

/-- The system number of a cause. -/
def code : Errno → Nat
  | noEntry => 2
  | alreadyExists => 17
  | notDir => 20
  | isDir => 21
  | loop => 40

/-- The system's description of a cause. -/
def describe : Errno → String
  | noEntry => "No such file or directory"
  | alreadyExists => "File exists"
  | notDir => "Not a directory"
  | isDir => "Is a directory"
  | loop => "Too many levels of symbolic links"

/-- The name of the failure kind a cause raises. -/
def kindName : Errno → String
  | noEntry => "FileNotFoundError"
  | alreadyExists => "FileExistsError"
  | notDir => "NotADirectoryError"
  | isDir => "IsADirectoryError"
  | loop => "OSError"

end Errno

/-- A failed file operation: its cause and the path as the caller wrote it. -/
structure OsError where
  errno : Errno
  path : String
  deriving Repr

/-- The text of a failed file operation: `[Errno 2] No such file or directory: 'x'`. -/
def OsError.text (e : OsError) : String :=
  s!"[Errno {e.errno.code}] {e.errno.describe}: " ++ Text.quote e.path

/-- A file tree: entries by the components of their absolute path. -/
structure FileTree where
  entries : List (List String × Entry)
  deriving Inhabited

/-- The most links followed in one resolution. -/
def maxLinks : Nat := 40

/-- The components of the working directory. -/
def workComponents : List String := ["work"]

namespace FileTree

/-- The entry recorded at a real path; the root is a directory. -/
def lookup (t : FileTree) (p : List String) : Option Entry :=
  if p.isEmpty then some .dir else (t.entries.find? (·.1 == p)).map (·.2)

/-- One pending component of a resolution, and whether a link found there is followed. -/
abbrev Pending := List (String × Bool)

/-- Resolves pending components from the real directory `cur`; a link to follow is handed to
`onLink`, with the directory it is read from and its components before the rest, and is a loop
when no link may be followed any more.  With `create`, a missing last component is the place a
new entry would take, and its path is the result. -/
def walkWith (t : FileTree) (create : Bool)
    (onLink : Option (List String → Pending → Except Errno (List String))) :
    List String → Pending → Except Errno (List String)
  | cur, [] => .ok cur
  | cur, (c, follow) :: rest =>
    if c = ".." then walkWith t create onLink cur.dropLast rest
    else if c = "." then walkWith t create onLink cur rest
    else
      let p := cur ++ [c]
      match t.lookup p with
      | none => if create && rest.isEmpty then .ok p else .error .noEntry
      | some .dir => walkWith t create onLink p rest
      | some (.file _) => if rest.isEmpty then .ok p else .error .notDir
      | some (.link target) =>
        if rest.isEmpty && !follow then .ok p
        else
          match onLink with
          | none => .error .loop
          | some again =>
            again (if Path.isAbsolute target then [] else cur)
              ((Path.components target).map (·, true) ++ rest)

/-- Resolves pending components from the real directory `cur`, with `links` links left. -/
def walk (t : FileTree) (create : Bool) : Nat → List String → Pending → Except Errno (List String)
  | 0, cur, pending => walkWith t create none cur pending
  | links + 1, cur, pending => walkWith t create (some (walk t create links)) cur pending

/-- **Resolves a path** to the real path of its entry; `follow` says whether a link in the
last place is followed, and with `create` a missing last place is where the path leads.  The
links in the directories and those in the last place count together. -/
def resolve (t : FileTree) (path : String) (follow : Bool := true) (create : Bool := false) :
    Except Errno (List String) :=
  let comps := Path.components path
  let start := if Path.isAbsolute path then [] else workComponents
  let n := comps.length
  walk t create maxLinks start (comps.mapIdx fun i c => (c, follow || i + 1 < n))

/-- The entry a path leads to, links followed. -/
def entryAt? (t : FileTree) (path : String) : Option (List String × Entry) :=
  match t.resolve path with
  | .ok p => (t.lookup p).map (p, ·)
  | .error _ => none

/-- Whether a path leads to a directory. -/
def isDir (t : FileTree) (path : String) : Bool :=
  match t.entryAt? path with
  | some (_, .dir) => true
  | _ => false

/-- Whether a path leads to a regular file. -/
def isFile (t : FileTree) (path : String) : Bool :=
  match t.entryAt? path with
  | some (_, .file _) => true
  | _ => false

/-- Whether a path leads anywhere. -/
def pathExists (t : FileTree) (path : String) : Bool := (t.entryAt? path).isSome

/-- The identity of the directory a path leads to: its real path. -/
def dirIdentity? (t : FileTree) (path : String) : Option (List String) :=
  match t.entryAt? path with
  | some (p, .dir) => some p
  | _ => none

/-- The names directly inside a real directory path, sorted. -/
def childNames (t : FileTree) (dir : List String) : List String :=
  let names := t.entries.filterMap fun e =>
    if e.1.dropLast == dir && !e.1.isEmpty then e.1.getLast? else none
  names.mergeSort (fun a b => decide (a ≤ b))

/-- **Reads the bytes of a file.** -/
def readBytes (t : FileTree) (path : String) : Except OsError (List UInt8) :=
  match t.resolve path with
  | .error e => .error ⟨e, path⟩
  | .ok p =>
    match t.lookup p with
    | some (.file data) => .ok data
    | some .dir => .error ⟨.isDir, path⟩
    | _ => .error ⟨.noEntry, path⟩

/-- Records an entry at a real path, replacing what was there. -/
def put (t : FileTree) (p : List String) (e : Entry) : FileTree :=
  if t.entries.any (·.1 == p) then
    ⟨t.entries.map fun x => if x.1 == p then (p, e) else x⟩
  else ⟨t.entries ++ [(p, e)]⟩

/-- Where a new entry named by `path` goes: the real path of its directory and its name. -/
def placeOf (t : FileTree) (path : String) : Except Errno (List String × String) :=
  let comps := Path.components path
  match comps.getLast? with
  | none => .error .alreadyExists
  | some last =>
    let parentPath := (if Path.isAbsolute path then "/" else "") ++ "/".intercalate comps.dropLast
    match t.resolve parentPath with
    | .error e => .error e
    | .ok dir =>
      match t.lookup dir with
      | some .dir => .ok (dir, last)
      | _ => .error .notDir

/-- Makes one directory; its parent must exist and its name must be free. -/
def makeDir (t : FileTree) (path : String) : Except Errno FileTree := do
  let (dir, last) ← t.placeOf path
  if last = ".." || last = "." then .error .alreadyExists
  else
    match t.lookup (dir ++ [last]) with
    | some _ => .error .alreadyExists
    | none => .ok (t.put (dir ++ [last]) .dir)

/-- Makes a directory and any missing parents; a directory already there is fine.  `depth`
bounds the parents climbed. -/
def makeDirsAux (t : FileTree) : Nat → String → Except OsError FileTree
  | 0, path => .error ⟨.noEntry, path⟩
  | depth + 1, path =>
    match t.makeDir path with
    | .ok t' => .ok t'
    | .error .noEntry =>
      let comps := Path.components path
      let parentPath := (if Path.isAbsolute path then "/" else "") ++ "/".intercalate comps.dropLast
      if comps.length ≤ 1 then .error ⟨.noEntry, path⟩
      else
        match makeDirsAux t depth parentPath with
        | .error e => .error e
        | .ok t' =>
          match t'.makeDir path with
          | .ok t'' => .ok t''
          | .error e => if t'.isDir path then .ok t' else .error ⟨e, path⟩
    | .error e => if t.isDir path then .ok t else .error ⟨e, path⟩

/-- **Makes a directory with its parents**, accepting one that exists. -/
def makeDirs (t : FileTree) (path : String) : Except OsError FileTree :=
  t.makeDirsAux ((Path.components path).length + 1) (Path.clean path)

/-- **Appends bytes to a file**, creating it when missing, also behind a link that leads
nowhere yet: the path resolves as for reading, a missing last place allowed. -/
def appendBytes (t : FileTree) (path : String) (data : List UInt8) : Except OsError FileTree :=
  match t.resolve path true true with
  | .error e => .error ⟨e, path⟩
  | .ok p =>
    match t.lookup p with
    | none => .ok (t.put p (.file data))
    | some (.file old) => .ok (t.put p (.file (old ++ data)))
    | _ => .error ⟨.isDir, path⟩

/-- Writes a file, replacing one that is there. -/
def writeFile (t : FileTree) (path : String) (data : List UInt8) : Except OsError FileTree :=
  match t.placeOf path with
  | .error e => .error ⟨e, path⟩
  | .ok (dir, last) =>
    match t.lookup (dir ++ [last]) with
    | some .dir => .error ⟨.isDir, path⟩
    | _ => .ok (t.put (dir ++ [last]) (.file data))

/-- Makes a symbolic link; the name must be free. -/
def makeLink (t : FileTree) (path target : String) : Except OsError FileTree :=
  match t.placeOf path with
  | .error e => .error ⟨e, path⟩
  | .ok (dir, last) =>
    match t.lookup (dir ++ [last]) with
    | some _ => .error ⟨.alreadyExists, path⟩
    | none => .ok (t.put (dir ++ [last]) (.link target))

/-- The tree every request starts from: the root, the working directory and the empty home
directory. -/
def initial : FileTree := ⟨[(["work"], .dir), (["work", "home"], .dir)]⟩

end FileTree

end ApiAudit
