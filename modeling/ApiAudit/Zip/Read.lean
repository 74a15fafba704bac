import ApiAudit.Zip.Crc
import ApiAudit.Failure
import ApiAudit.Text.CodePage437
import ApiAudit.Text.Utf8

/-!
# Zip/Read — finding and reading the members of a zip archive

Reading goes from the end of the archive:

1. **The end record** (`endRecord?`): the last 22 bytes when they are one with an empty
   comment, else the last end-record signature in the final 64 KiB and 22 bytes.  Without one
   the bytes are no zip archive at all (`isArchive`).
2. **The central directory** (`directory`): the records from where the end record says,
   shifted by whatever bytes stand before the archive.  Each names a member (UTF-8 when its
   flag says so, else code page 437, cut at a NUL character), its flags, method, checksum,
   sizes and local header.  A short record, a wrong signature, a version above 6.3 or an
   extra field longer than its record stop the reading.
3. **A member** (`Member.contents`): its local header must be whole, signed and name the same
   member; patched, strongly encrypted, encrypted and compressed members are refused; a stored
   member's bytes must be there in full and match its checksum.

An archive is opened once (`openArchive`: its bytes and its directory) and may then be read
many times (`Archive.read`); a member is found by name, the last of several with one name
winning.
-/

namespace ApiAudit.Zip

/-- Bytes with access by position. -/
abbrev Bytes := Array UInt8

/-- The bytes from a position on, at most `len` of them. -/
def slice (data : Bytes) (pos len : Nat) : List UInt8 := (data.extract pos (pos + len)).toList

/-- The little-endian number of `width` bytes at a position (missing bytes count as zero). -/
def readNumber (data : Bytes) (pos width : Nat) : Nat :=
  (List.range width).foldl (fun acc i => acc + (data.getD (pos + i) 0).toNat * Nat.pow 256 i) 0

/-- The little-endian number of some bytes. -/
def numberOf (bs : List UInt8) : Nat := readNumber bs.toArray 0 bs.length

/-- The signature of the end record. -/
def endSignature : List UInt8 := [0x50, 0x4B, 0x05, 0x06]

/-- Where the end record says the directory is, and where the end record itself starts. -/
structure EndRecord where
  directorySize : Nat
  directoryOffset : Nat
  location : Nat

/-- The end record at a position. -/
def endRecordAt (data : Bytes) (pos : Nat) : EndRecord :=
  ⟨readNumber data (pos + 12) 4, readNumber data (pos + 16) 4, pos⟩

/-- **The end record of an archive**, if the bytes have one. -/
def endRecord? (data : Bytes) : Option EndRecord :=
  let size := data.size
  if size < 22 then none
  else if slice data (size - 22) 4 == endSignature && slice data (size - 2) 2 == [0, 0] then
    some (endRecordAt data (size - 22))
  else
    let start := size - (65536 + 22)
    let hit := (List.range (size - start)).reverse.find? fun i => slice data (start + i) 4 == endSignature
    match hit with
    | some i => if start + i + 22 ≤ size then some (endRecordAt data (start + i)) else none
    | none => none

/-- Whether bytes are a zip archive: they have an end record. -/
def isArchive (data : Bytes) : Bool := (endRecord? data).isSome

/-- A member as the central directory describes it. -/
structure Member where
  /-- The name, cut at its first NUL character. -/
  name : String
  /-- The name as written. -/
  written : String
  flags : Nat
  method : Nat
  crc : Nat
  compressedSize : Nat
  size : Nat
  /-- Where the member's local header starts. -/
  offset : Nat

/-- A fault of a malformed archive. -/
def bad (message : String) : Fault := ⟨.badZip, message⟩

/-- Reads a name: UTF-8 when the flags say so, else code page 437. -/
def decodeName (flags : Nat) (bs : List UInt8) : Except Fault String :=
  if flags / 0x800 % 2 == 1 then (Text.decodeUtf8 bs).mapError fun e => ⟨.unicodeDecode, e.text⟩
  else .ok (Text.decode437 bs)

/-- The sizes and offset a zip64 extra field gives: each of them that is at its maximum in the
record is read, in order, as eight bytes. -/
def widen (m : Member) (field : List UInt8) : Except Fault Member := do
  let take (rest : List UInt8) (what : String) : Except Fault (Nat × List UInt8) :=
    if rest.length < 8 then .error (bad s!"Corrupt zip64 extra field. {what} not found.")
    else .ok (numberOf (rest.take 8), rest.drop 8)
  let mut m := m
  let mut rest := field
  if m.size == 0xFFFFFFFF then
    let (v, r) ← take rest "File size"
    m := { m with size := v }
    rest := r
  if m.compressedSize == 0xFFFFFFFF then
    let (v, r) ← take rest "Compress size"
    m := { m with compressedSize := v }
    rest := r
  if m.offset == 0xFFFFFFFF then
    let (v, _) ← take rest "Header offset"
    m := { m with offset := v }
  pure m

/-- Reads the extra fields of a record; `fuel` bounds the fields. -/
def readExtra (m : Member) : Nat → List UInt8 → Except Fault Member
  | 0, _ => .ok m
  | fuel + 1, extra =>
    if extra.length < 4 then .ok m
    else
      let kind := numberOf (extra.take 2)
      let len := numberOf ((extra.drop 2).take 2)
      if extra.length < len + 4 then
        .error (bad s!"Corrupt extra field {String.ofList (Text.hexDigits 4 kind)} (size={len})")
      else do
        let m ← if kind == 1 then widen m ((extra.drop 4).take len) else pure m
        readExtra m fuel (extra.drop (len + 4))

/-- The signature of a central-directory record. -/
def centralSignature : List UInt8 := [0x50, 0x4B, 0x01, 0x02]

/-- **Reads one central-directory record** at a position of the directory: the member and the
record's length. -/
def recordAt (dir : Bytes) (pos : Nat) (shift : Int) : Except Fault (Member × Nat) := do
  let head := slice dir pos 46
  if head.length != 46 then throw (bad "Truncated central directory")
  if head.take 4 != centralSignature then throw (bad "Bad magic number for central directory")
  let field (off width : Nat) : Nat := readNumber dir (pos + off) width
  let nameLen := field 28 2
  let extraLen := field 30 2
  let commentLen := field 32 2
  let flags := field 8 2
  let written ← decodeName flags (slice dir (pos + 46) nameLen)
  let version := field 6 1
  if version > 63 then throw ⟨.notImplemented, s!"zip file version {version / 10}.{version % 10}"⟩
  let m : Member :=
    { name := String.ofList (written.toList.takeWhile (· ≠ '\x00')), written, flags,
      method := field 10 2, crc := field 16 4, compressedSize := field 20 4, size := field 24 4,
      offset := field 42 4 }
  let extra := slice dir (pos + 46 + nameLen) extraLen
  let m ← readExtra m (extra.length + 1) extra
  pure ({ m with offset := (m.offset + shift).toNat }, 46 + nameLen + extraLen + commentLen)

/-- Reads the records of a directory of `size` bytes from position `pos`; `fuel` bounds the
records. -/
def recordsFrom (dir : Bytes) (size : Nat) (shift : Int) : Nat → Nat → Except Fault (List Member)
  | 0, _ => .ok []
  | fuel + 1, pos =>
    if size ≤ pos then .ok []
    else do
      let (m, len) ← recordAt dir pos shift
      let rest ← recordsFrom dir size shift fuel (pos + len)
      pure (m :: rest)

/-- **The members of an archive**, in directory order. -/
def directory (data : Bytes) : Except Fault (List Member) := do
  let some e := endRecord? data | throw (bad "File is not a zip file")
  let shift : Int := (e.location : Int) - e.directorySize - e.directoryOffset
  let start : Int := e.directoryOffset + shift
  if start < 0 then throw (bad "Bad offset for central directory")
  let dir := data.extract start.toNat (start.toNat + e.directorySize)
  recordsFrom dir e.directorySize shift (e.directorySize / 46 + 1) 0

/-- The signature of a local header. -/
def localSignature : List UInt8 := [0x50, 0x4B, 0x03, 0x04]

/-- The bytes a stored member reads as: its `size` first bytes, when enough are there; running
out before that is a fault. -/
def storedBytes (m : Member) (avail : List UInt8) : Except Fault (List UInt8) :=
  if m.compressedSize == 0 || avail.length == m.compressedSize then .ok (avail.take m.size)
  else if avail.isEmpty then .error ⟨.endOfFile, ""⟩
  else if m.size ≤ avail.length then .ok (avail.take m.size)
  else .error ⟨.endOfFile, ""⟩

/-- **The bytes of a member.** -/
def Member.contents (data : Bytes) (m : Member) : Except Fault (List UInt8) := do
  let head := slice data m.offset 30
  if head.length != 30 then throw (bad "Truncated file header")
  if head.take 4 != localSignature then throw (bad "Bad magic number for file header")
  let nameLen := readNumber data (m.offset + 26) 2
  let extraLen := readNumber data (m.offset + 28) 2
  let nameBytes := slice data (m.offset + 30) nameLen
  if m.flags / 0x20 % 2 == 1 then throw ⟨.notImplemented, "compressed patched data (flag bit 5)"⟩
  if m.flags / 0x40 % 2 == 1 then throw ⟨.notImplemented, "strong encryption (flag bit 6)"⟩
  let headerName ← decodeName (readNumber data (m.offset + 6) 2) nameBytes
  if headerName != m.written then
    throw (bad s!"File name in directory {Text.quote m.written} and header {Text.bytesLiteral nameBytes} differ.")
  if m.flags % 2 == 1 then
    throw ⟨.runtime, s!"File {Text.quote m.name} is encrypted, password required for extraction"⟩
  if m.method != 0 then throw ⟨.notImplemented, "That compression method is not supported"⟩
  let start := m.offset + 30 + nameLen + extraLen
  let out ← storedBytes m (slice data start m.compressedSize)
  if (crc32 out).toNat != m.crc then throw (bad s!"Bad CRC-32 for file {Text.quote m.name}")
  pure out

/-- **An archive held open**: its bytes, and the members its central directory lists, read once
when it was opened. -/
structure Archive where
  data : Bytes
  members : List Member

/-- **Opens an archive**: reads its central directory. -/
def openArchive (data : Bytes) : Except Fault Archive := do
  let members ← directory data
  pure ⟨data, members⟩

/-- **Reads a member of an open archive** by name: nothing when no member has the name. -/
def Archive.read (a : Archive) (name : String) : Except Fault (Option (List UInt8)) :=
  match a.members.reverse.find? (·.name == name) with
  | none => pure none
  | some m => some <$> m.contents a.data

end ApiAudit.Zip
