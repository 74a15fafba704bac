import ApiAudit.FileTree.Basic
import ApiAudit.ClassFile
import ApiAudit.Zip.Write
import ApiAudit.Data.Value

/-!
# FileTree/Layout — a described tree of files to create

A request may describe files to create before it runs, all below the working directory:
directories, files with contents, zip archives with members, and symbolic links.  A content is
a text (written as UTF-8), `{"hex": …}` (the bytes the hex digits spell) or `{"class": …}`
(the class-file magic number followed by the text).  An archive is written as the bytes of a
zip archive of its members (`Zip.encode`).

`FileTree.withLayout` creates the directories, then the files, the archives and the links, each
with any missing parent directories.  A part that cannot be created is left out.
-/

namespace ApiAudit

/-- The UTF-8 bytes of a text. -/
def utf8Bytes (s : String) : List UInt8 := s.toUTF8.toList

/-- The bytes spelled by pairs of hex digits; an odd digit at the end is ignored. -/
def bytesOfHex : List Char → List UInt8
  | a :: b :: rest =>
    let v (c : Char) : Nat :=
      if '0' ≤ c && c ≤ '9' then c.toNat - '0'.toNat
      else if 'a' ≤ c && c ≤ 'f' then c.toNat - 'a'.toNat + 10
      else if 'A' ≤ c && c ≤ 'F' then c.toNat - 'A'.toNat + 10
      else 0
    (v a * 16 + v b).toUInt8 :: bytesOfHex rest
  | _ => []

/-- The bytes a described content stands for. -/
def layoutBytes (v : Value) : List UInt8 :=
  match v with
  | .str s => utf8Bytes s
  | _ =>
    match v.get? "hex", v.get? "class" with
    | some (.str h), _ => bytesOfHex h.toList
    | _, some (.str text) => classMagic ++ utf8Bytes text
    | _, _ => []

namespace FileTree

/-- The path below the working directory a layout names. -/
def layoutPath (rel : String) : String := Path.join Path.workDir rel

/-- The parent directory text of a path. -/
def parentText (path : String) : String :=
  let comps := Path.components path
  (if Path.isAbsolute path then "/" else "") ++ "/".intercalate comps.dropLast

/-- Applies a change, keeping the tree when it fails. -/
def attempt (t : FileTree) (f : FileTree → Except OsError FileTree) : FileTree :=
  match f t with
  | .ok t' => t'
  | .error _ => t

/-- Creates a file or archive with its parent directories. -/
def placeFile (t : FileTree) (rel : String) (data : List UInt8) : FileTree :=
  let path := layoutPath rel
  t.attempt fun t => do
    let t ← t.makeDirs (parentText path)
    t.writeFile path data

/-- Creates a link with its parent directories. -/
def placeLink (t : FileTree) (rel target : String) : FileTree :=
  let path := layoutPath rel
  t.attempt fun t => do
    let t ← t.makeDirs (parentText path)
    t.makeLink path target

/-- The entries of a dictionary field of a layout. -/
def layoutEntries (layout : Value) (key : String) : List (String × Value) :=
  match layout.get? key with
  | some (.dict es) => es.filterMap fun e => e.1.asStr?.map (·, e.2)
  | _ => []

/-- **Creates a described layout** in a tree. -/
def withLayout (t : FileTree) (layout : Value) : FileTree :=
  let dirs := match layout.get? "dirs" with
    | some (.list ds) => ds.filterMap Value.asStr?
    | _ => []
  let t := dirs.foldl (fun t d => t.attempt (·.makeDirs (layoutPath d))) t
  let t := (layoutEntries layout "files").foldl
    (fun t e => t.placeFile e.1 (layoutBytes e.2)) t
  let t := (layoutEntries layout "zips").foldl
    (fun t e =>
      let members := match e.2 with
        | .dict ms => ms.filterMap fun m => m.1.asStr?.map (·, layoutBytes m.2)
        | _ => []
      t.placeFile e.1 (Zip.encode members)) t
  (layoutEntries layout "symlinks").foldl
    (fun t e => match e.2 with
      | .str target => t.placeLink e.1 target
      | _ => t) t

end FileTree

end ApiAudit
