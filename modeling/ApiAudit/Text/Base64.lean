/-!
# Text/Base64 — decoding base64 data leniently

`decodeBase64` reads base64 data the lenient way: characters outside the alphabet are skipped,
and a padding `=` only counts after at least two data characters of a group.  Once the pads
complete a group of four, reading stops and the rest is ignored.

The data is refused when it ends inside a group: with **one** data character of a group left
over no bytes can be meant (`Base64Error.lengthOff`, naming how many data characters stood
there, counted from the bytes made), with two or three the padding is missing
(`Base64Error.padding`).
-/

namespace ApiAudit.Text

/-- Why base64 data cannot be decoded. -/
inductive Base64Error where
  /-- A group cut short without its padding. -/
  | padding
  /-- A single data character after the last whole group; `count` data characters in all. -/
  | lengthOff (count : Nat)
  deriving DecidableEq, Repr

/-- **The message of a base64 error.** -/
def Base64Error.message : Base64Error → String
  | .padding => "Incorrect padding"
  | .lengthOff n =>
    s!"Invalid base64-encoded string: number of data characters ({n}) cannot be 1 more than a " ++
      "multiple of 4"

/-- The value of a base64 data character. -/
def sextetOf? (b : UInt8) : Option Nat :=
  let n := b.toNat
  if 65 ≤ n && n ≤ 90 then some (n - 65)
  else if 97 ≤ n && n ≤ 122 then some (n - 71)
  else if 48 ≤ n && n ≤ 57 then some (n + 4)
  else if n == 43 then some 62
  else if n == 47 then some 63
  else none

/-- Where a decoding stands: the position in the group of four, the bits not yet written, the
pads seen since the last data character, and the bytes so far, last first. -/
structure Base64State where
  pos : Nat := 0
  left : Nat := 0
  pads : Nat := 0
  out : List UInt8 := []

/-- One data character of value `v` into the state. -/
def Base64State.feed (st : Base64State) (v : Nat) : Base64State :=
  match st.pos with
  | 0 => { st with pos := 1, left := v, pads := 0 }
  | 1 => { pos := 2, left := v % 16, pads := 0, out := (st.left * 4 + v / 16).toUInt8 :: st.out }
  | 2 => { pos := 3, left := v % 4, pads := 0, out := ((st.left % 16) * 16 + v / 4).toUInt8 :: st.out }
  | _ => { pos := 0, left := 0, pads := 0, out := ((st.left % 4) * 64 + v).toUInt8 :: st.out }

/-- Reads the characters of `bs` from a state; stops when pads complete a group. -/
def readSextets (st : Base64State) : List UInt8 → Base64State
  | [] => st
  | b :: rest =>
    if b == 61 then
      if st.pos ≥ 2 then
        if st.pos + st.pads + 1 ≥ 4 then { st with pos := 0 }
        else readSextets { st with pads := st.pads + 1 } rest
      else readSextets st rest
    else match sextetOf? b with
      | some v => readSextets (st.feed v) rest
      | none => readSextets st rest

/-- **Decodes base64 data** leniently. -/
def decodeBase64 (bs : List UInt8) : Except Base64Error (List UInt8) :=
  let st := readSextets {} bs
  match st.pos with
  | 0 => .ok st.out.reverse
  | 1 => .error (.lengthOff (st.out.length / 3 * 4 + 1))
  | _ => .error .padding

/-- The error of a decoding, if it failed. -/
def Base64Error.of? : Except Base64Error (List UInt8) → Option Base64Error
  | .error e => some e
  | .ok _ => none

/-- The bytes of an ASCII text. -/
def asciiBytes (s : String) : List UInt8 := s.toList.map fun c => c.toNat.toUInt8

example : (decodeBase64 (asciiBytes "aGVsbG8=")).toOption = some (asciiBytes "hello") := by decide
example : (decodeBase64 (asciiBytes "aGVs\nbG8=")).toOption = some (asciiBytes "hello") := by decide
example : Base64Error.of? (decodeBase64 (asciiBytes "aGVsbG8")) = some .padding := by decide
example : Base64Error.of? (decodeBase64 (asciiBytes "aGVsb")) = some (.lengthOff 5) := by decide

end ApiAudit.Text
