import ApiAudit.FileTree.Basic
import ApiAudit.Failure
import ApiAudit.Zip.Read

/-!
# Classpath/Loader — looking resources up along the class-loading roots

A `Loader` holds the roots of a classpath, whether it is closed, and the zip archives it holds
open.  `Loader.find` looks a resource name up, leading slashes dropped, in each root in turn:

* a directory root answers with the file at `root/name`, when that is a regular file (the name
  may climb out with `..`, as the file tree resolves it);
* a regular file that is a zip archive (`Zip.isArchive`) answers with the member of exactly
  that name (`Zip.Archive.read`; a member written with a leading slash is never found), and a
  malformed archive or member is a fault;
* any other root (missing, or a plain file) answers nothing.

The first root that answers wins.  With the cache on (`useCache`), an archive opened for a
lookup stays open, by path, and later lookups read it without opening it again; with the cache
off, each lookup opens the archive afresh.  Closing lets go of every archive held open; after
it every lookup is a fault, and closing again does nothing.

The operations a client makes on a loader (`Loader.Op`: a lookup, closing, asking for the
roots) and their answers (`Loader.Answer`) are listed here too; `Loader.trail` makes a sequence
of them and keeps each answer with the loader after it.
-/

namespace ApiAudit

/-- The roots of a classpath, whether lookups are still allowed, and the archives held open. -/
structure Loader where
  roots : List String
  closed : Bool := false
  /-- Whether an archive, once opened, stays open for later lookups. -/
  useCache : Bool := true
  /-- The archives held open, by path, in the order they were opened. -/
  archives : List (String × Zip.Archive) := []

namespace Loader

/-- The fault of a lookup after closing. -/
def closedFault : Fault := ⟨.value, "ClassLoadingContext is closed"⟩

/-- **The archive at a path, open**: the one held open for the path, or the bytes opened now and
held open when the cache is on. -/
def archiveAt (l : Loader) (path : String) (data : Zip.Bytes) : Except Fault Zip.Archive × Loader :=
  if l.useCache then
    match l.archives.lookup path with
    | some a => (.ok a, l)
    | none =>
      match Zip.openArchive data with
      | .ok a => (.ok a, { l with archives := l.archives ++ [(path, a)] })
      | .error f => (.error f, l)
  else (Zip.openArchive data, l)

/-- What one root answers for a resource name, and the loader afterwards. -/
def lookIn (t : FileTree) (rel : String) (l : Loader) (root : String) :
    Except Fault (Option (List UInt8)) × Loader :=
  if t.isDir root then
    let candidate := Path.child root rel
    (.ok (if t.isFile candidate then (t.readBytes candidate).toOption else none), l)
  else if t.isFile root then
    match t.readBytes root with
    | .ok data =>
      let data := data.toArray
      if Zip.isArchive data then
        match l.archiveAt root data with
        | (.ok a, l') => (a.read rel, l')
        | (.error f, l') => (.error f, l')
      else (.ok none, l)
    | .error _ => (.ok none, l)
  else (.ok none, l)

/-- The first answer along the roots. -/
def firstAnswer (t : FileTree) (rel : String) (l : Loader) :
    List String → Except Fault (Option (List UInt8)) × Loader
  | [] => (.ok none, l)
  | root :: rest =>
    match lookIn t rel l root with
    | (.ok (some data), l') => (.ok (some data), l')
    | (.ok none, l') => firstAnswer t rel l' rest
    | (.error f, l') => (.error f, l')

/-- **Looks a resource up** along the roots. -/
def find (t : FileTree) (l : Loader) (name : String) : Except Fault (Option (List UInt8)) × Loader :=
  if l.closed then (.error closedFault, l)
  else firstAnswer t (String.ofList (name.toList.dropWhile (· = '/'))) l l.roots

/-- **Closes the loader**, letting go of the archives held open; a closed loader stays as it
is. -/
def close (l : Loader) : Loader :=
  if l.closed then l else { l with closed := true, archives := [] }

/-- What a client asks of a loader. -/
inductive Op where
  | find (name : String)
  | close
  | roots

/-- What a loader answers. -/
inductive Answer where
  /-- The bytes of a resource, or nothing. -/
  | resource (found : Option (List UInt8))
  | roots (roots : List String)
  /-- Closing answers nothing. -/
  | done
  | refused (f : Fault)

/-- The answer to a lookup. -/
def Answer.ofLookup : Except Fault (Option (List UInt8)) → Answer
  | .ok found => .resource found
  | .error f => .refused f

/-- **Answers one operation.** -/
def perform (t : FileTree) (l : Loader) : Op → Answer × Loader
  | .find name => (Answer.ofLookup (l.find t name).1, (l.find t name).2)
  | .close => (.done, l.close)
  | .roots => (.roots l.roots, l)

/-- **Answers operations one after another**: each answer with the loader after it. -/
def trail (t : FileTree) (l : Loader) : List Op → List (Answer × Loader)
  | [] => []
  | op :: ops => l.perform t op :: trail t (l.perform t op).2 ops

end Loader

end ApiAudit
