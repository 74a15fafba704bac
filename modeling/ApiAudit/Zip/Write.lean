import ApiAudit.Zip.Crc

/-!
# Zip/Write — the bytes of a zip archive of stored members

An archive is written as its members in order, each a **local header** followed by the member's
bytes, then the **central directory** (one record per member, pointing back at its local
header) and the **end record** (how many members, where the directory starts and how long it
is).  Members are stored, not compressed, dated 1980-01-01 00:00:00, and readable and
writable by their owner only.

A member's name is cut at its first NUL character; an ASCII name is written as is, any other
name as UTF-8 with the UTF-8 flag (`0x800`) set.  All numbers are little-endian.
-/

namespace ApiAudit.Zip

/-- A number as `width` little-endian bytes. -/
def littleEndian (width n : Nat) : List UInt8 :=
  (List.range width).map fun i => (n / Nat.pow 256 i % 256).toUInt8

/-- The name a member is stored under: its name up to the first NUL character. -/
def storedName (name : String) : String := String.ofList (name.toList.takeWhile (· ≠ '\x00'))

/-- The bytes of a stored name and the flag bits they need. -/
def nameBytes (name : String) : List UInt8 × Nat :=
  (name.toUTF8.toList, if name.toList.all (·.toNat < 128) then 0 else 0x800)

/-- What the two headers of a member record. -/
structure Record where
  name : List UInt8
  flags : Nat
  crc : Nat
  size : Nat
  offset : Nat

/-- The date field of 1980-01-01: year 0 from 1980, month 1, day 1. -/
def dosDate : Nat := 0x21

/-- The version a reader needs: 2.0. -/
def neededVersion : Nat := 20

/-- **The local header** of a member. -/
def localHeader (r : Record) : List UInt8 :=
  [0x50, 0x4B, 0x03, 0x04] ++ littleEndian 1 neededVersion ++ littleEndian 1 0 ++
    littleEndian 2 r.flags ++ littleEndian 2 0 ++ littleEndian 2 0 ++ littleEndian 2 dosDate ++
    littleEndian 4 r.crc ++ littleEndian 4 r.size ++ littleEndian 4 r.size ++
    littleEndian 2 r.name.length ++ littleEndian 2 0 ++ r.name

/-- **The central-directory record** of a member, written by a Unix system. -/
def centralRecord (r : Record) : List UInt8 :=
  [0x50, 0x4B, 0x01, 0x02] ++ littleEndian 1 neededVersion ++ littleEndian 1 3 ++
    littleEndian 1 neededVersion ++ littleEndian 1 0 ++
    littleEndian 2 r.flags ++ littleEndian 2 0 ++ littleEndian 2 0 ++ littleEndian 2 dosDate ++
    littleEndian 4 r.crc ++ littleEndian 4 r.size ++ littleEndian 4 r.size ++
    littleEndian 2 r.name.length ++ littleEndian 2 0 ++ littleEndian 2 0 ++ littleEndian 2 0 ++
    littleEndian 2 0 ++ littleEndian 4 0x01800000 ++ littleEndian 4 r.offset ++ r.name

/-- **The end record**: the member count, and the directory's length and offset. -/
def endRecord (count size offset : Nat) : List UInt8 :=
  [0x50, 0x4B, 0x05, 0x06] ++ littleEndian 2 0 ++ littleEndian 2 0 ++ littleEndian 2 count ++
    littleEndian 2 count ++ littleEndian 4 size ++ littleEndian 4 offset ++ littleEndian 2 0

/-- **The bytes of an archive** of stored members, in order. -/
def encode (members : List (String × List UInt8)) : List UInt8 :=
  let step (acc : List UInt8 × List Record) (m : String × List UInt8) : List UInt8 × List Record :=
    let (name, flags) := nameBytes (storedName m.1)
    let r : Record := ⟨name, flags, (crc32 m.2).toNat, m.2.length, acc.1.length⟩
    (acc.1 ++ localHeader r ++ m.2, acc.2 ++ [r])
  let (body, records) := members.foldl step ([], [])
  let directory := records.flatMap centralRecord
  body ++ directory ++ endRecord records.length directory.length body.length

end ApiAudit.Zip
