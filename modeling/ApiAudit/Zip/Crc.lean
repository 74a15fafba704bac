/-!
# Zip/Crc — the CRC-32 checksum of zip members

Every member of a zip archive carries the **CRC-32** of its bytes: the remainder of the bytes,
read least significant bit first, divided by the polynomial `0x04C11DB7` (written reflected as
`0xEDB88320`), with the register starting at all ones and inverted at the end.

`crcTable` holds the remainder of every single byte, so `crc32` takes one table step per byte.
-/

namespace ApiAudit.Zip

/-- One bit of the division: shift right, and subtract the polynomial when a one falls out. -/
def crcBit (c : UInt32) : UInt32 :=
  if c &&& 1 == 1 then (c >>> 1) ^^^ 0xEDB88320 else c >>> 1

/-- The remainder of one byte after its eight bits. -/
def crcOfByte (n : Nat) : UInt32 := (List.range 8).foldl (fun c _ => crcBit c) n.toUInt32

/-- The remainders of all 256 bytes. -/
def crcTable : Array UInt32 := (Array.range 256).map crcOfByte

/-- One byte into the register. -/
def crcStep (c : UInt32) (b : UInt8) : UInt32 :=
  crcTable.getD ((c ^^^ b.toUInt32) &&& 0xFF).toNat 0 ^^^ (c >>> 8)

/-- **The CRC-32 of a byte sequence.** -/
def crc32 (data : List UInt8) : UInt32 := data.foldl crcStep 0xFFFFFFFF ^^^ 0xFFFFFFFF

end ApiAudit.Zip
