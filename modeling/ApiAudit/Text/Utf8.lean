import ApiAudit.Text.Quoted
import ApiAudit.Text.Surrogate

/-!
# Text/Utf8 — strict UTF-8 decoding and encoding

`decodeUtf8` turns bytes into a text, or reports the first malformed sequence as a
`Utf8Error`: the range of bytes at fault and the reason.

The well-formed sequences are those of the standard: no overlong forms, no surrogates, nothing
above `U+10FFFF`.  At a malformed sequence starting at `s`:

* a byte that cannot start a sequence (`80`–`C1`, `F5`–`FF`) is an *invalid start byte*,
  the range is that byte;
* a byte that cannot continue the sequence is an *invalid continuation byte*; the range is the
  bytes before it that were accepted (the start byte, and the second and third when they were
  fine) — the second byte must also keep the sequence inside the allowed range;
* a sequence cut off by the end is *unexpected end of data*, the range runs to the end.

`Utf8Error.text` words it as `'utf-8' codec can't decode byte 0xff in position 0: invalid start
byte`, or `… bytes in position 2-3: …` for a longer range.

The other way, every character has a UTF-8 form except the stand-in of a lone surrogate
(`Text/Surrogate`): a text that holds one cannot be written.  `firstRun?` names the first
**run** of stand-ins (the first one and every stand-in right after it) by their positions, and
`EncodeRefusal.message` words it: one position and the unit for a single stand-in, the first and
last position of a longer run.  `asciiRefusal?` does the same for the characters that ASCII
cannot write, those from code 128 up, and `nameRefusal?` for file and variable names, where a
stand-in for `U+DC80` to `U+DCFF` is written as the byte it carries.
-/

namespace ApiAudit.Text

/-- A malformed UTF-8 sequence: the range `[start, stop)` and the reason. -/
structure Utf8Error where
  start : Nat
  stop : Nat
  reason : String
  /-- The first byte of the range. -/
  first : UInt8
  deriving Repr

/-- The message of a malformed UTF-8 sequence. -/
def Utf8Error.text (e : Utf8Error) : String :=
  if e.stop = e.start + 1 then
    s!"'utf-8' codec can't decode byte 0x{String.ofList (hexDigits 2 e.first.toNat)} in position {e.start}: {e.reason}"
  else
    s!"'utf-8' codec can't decode bytes in position {e.start}-{e.stop - 1}: {e.reason}"

/-- Whether a byte continues a sequence. -/
def isCont (b : UInt8) : Bool := 0x80 ≤ b && b ≤ 0xBF

/-- The low six bits of a continuation byte. -/
def low6 (b : UInt8) : Nat := b.toNat % 64

/-- What the bytes at position `s` start: a character and how many bytes it takes, or the
fault.  `total` is the length of all the bytes. -/
def decodeOne (s total : Nat) : List UInt8 → Except Utf8Error (Char × Nat)
  | [] => .error ⟨s, s, "unexpected end of data", 0⟩
  | b :: rest =>
    let n := b.toNat
    let endData : Except Utf8Error (Char × Nat) := .error ⟨s, total, "unexpected end of data", b⟩
    let bad (k : Nat) : Except Utf8Error (Char × Nat) := .error ⟨s, s + k, "invalid continuation byte", b⟩
    if n < 0x80 then .ok (Char.ofNat n, 1)
    else if n < 0xC2 then .error ⟨s, s + 1, "invalid start byte", b⟩
    else if n < 0xE0 then
      match rest with
      | [] => endData
      | c :: _ => if isCont c then .ok (Char.ofNat ((n % 32) * 64 + low6 c), 2) else bad 1
    else if n < 0xF0 then
      let secondOk (c : UInt8) : Bool :=
        isCont c && !(n == 0xE0 && c < 0xA0) && !(n == 0xED && c ≥ 0xA0)
      match rest with
      | [] => endData
      | [c] => if secondOk c then endData else bad 1
      | c :: d :: _ =>
        if !secondOk c then bad 1
        else if !isCont d then bad 2
        else .ok (Char.ofNat ((n % 16) * 4096 + low6 c * 64 + low6 d), 3)
    else if n < 0xF5 then
      let secondOk (c : UInt8) : Bool :=
        isCont c && !(n == 0xF0 && c < 0x90) && !(n == 0xF4 && c ≥ 0x90)
      match rest with
      | [] => endData
      | [c] => if secondOk c then endData else bad 1
      | [c, d] => if !secondOk c then bad 1 else if !isCont d then bad 2 else endData
      | c :: d :: e :: _ =>
        if !secondOk c then bad 1
        else if !isCont d then bad 2
        else if !isCont e then bad 3
        else .ok (Char.ofNat ((n % 8) * 262144 + low6 c * 4096 + low6 d * 64 + low6 e), 4)
    else .error ⟨s, s + 1, "invalid start byte", b⟩

/-- Decodes bytes from position `s`; `acc` holds the characters so far, reversed.  Each step
takes at least one byte, so `fuel` at the number of bytes suffices. -/
def decodeFrom (total : Nat) : Nat → Nat → List UInt8 → List Char → Except Utf8Error (List Char)
  | 0, _, _, acc => .ok acc.reverse
  | _, _, [], acc => .ok acc.reverse
  | fuel + 1, s, b :: rest, acc =>
    match decodeOne s total (b :: rest) with
    | .error e => .error e
    | .ok (c, k) => decodeFrom total fuel (s + k) ((b :: rest).drop k) (c :: acc)

/-- **Decodes UTF-8 bytes.** -/
def decodeUtf8 (bs : List UInt8) : Except Utf8Error String :=
  (decodeFrom bs.length bs.length 0 bs []).map String.ofList

example : (decodeUtf8 [0x61, 0xC3, 0xA9]).toOption = some "aé" := by rfl
example : ((decodeUtf8 [0xFF]).mapError Utf8Error.text) =
    .error "'utf-8' codec can't decode byte 0xff in position 0: invalid start byte" := by rfl

/-- Characters from position `start` up to (not including) `stop` that a codec cannot write;
`code` is the first one's code (a stand-in counts as the unit it stands for). -/
structure EncodeRefusal where
  codec : String
  reason : String
  code : Nat
  start : Nat
  stop : Nat
  deriving DecidableEq, Repr

/-- The escape of a character's code in a refusal: `\xXX`, `\uXXXX` or `\UXXXXXXXX`. -/
def codeEscape (n : Nat) : String :=
  if n ≤ 0xFF then "\\x" ++ String.ofList (hexDigits 2 n)
  else if n ≤ 0xFFFF then "\\u" ++ String.ofList (hexDigits 4 n)
  else "\\U" ++ String.ofList (hexDigits 8 n)

/-- **The wording of a refusal to encode.** -/
def EncodeRefusal.message (r : EncodeRefusal) : String :=
  if r.stop == r.start + 1 then
    "'" ++ r.codec ++ "' codec can't encode character '" ++ codeEscape r.code ++ "' in position " ++
      toString r.start ++ ": " ++ r.reason
  else
    "'" ++ r.codec ++ "' codec can't encode characters in position " ++ toString r.start ++ "-" ++
      toString (r.stop - 1) ++ ": " ++ r.reason

/-- The code a refusal shows for a character. -/
def shownCode (c : Char) : Nat := (unit? c).getD c.toNat

/-- The first run of characters that `bad` picks in `cs`, whose first character sits at
position `pos`: the first one's code, and where the run starts and stops. -/
def firstRunFrom (bad : Char → Bool) (pos : Nat) : List Char → Option (Nat × Nat × Nat)
  | [] => none
  | c :: rest =>
    if bad c then some (shownCode c, pos, pos + 1 + (rest.takeWhile bad).length)
    else firstRunFrom bad (pos + 1) rest

/-- **The first run of lone surrogates** of a text, which UTF-8 cannot write. -/
def firstRun? (s : String) : Option EncodeRefusal :=
  (firstRunFrom isStandIn 0 s.toList).map fun (code, start, stop) =>
    ⟨"utf-8", "surrogates not allowed", code, start, stop⟩

/-- Whether a lone surrogate stands for a byte of a file name: the units `U+DC80` to `U+DCFF`
carry the bytes that are no UTF-8. -/
def isByteStandIn (c : Char) : Bool :=
  match unit? c with
  | some u => 0xDC80 ≤ u && u ≤ 0xDCFF
  | none => false

/-- The first lone surrogate in `cs` (at position `pos`) that stands for no byte, and where the
run of surrogates it stands in ends. -/
def firstNameRunFrom (pos : Nat) : List Char → Option (Nat × Nat × Nat)
  | [] => none
  | c :: rest =>
    if isStandIn c && !isByteStandIn c then
      some (shownCode c, pos, pos + 1 + (rest.takeWhile isStandIn).length)
    else firstNameRunFrom (pos + 1) rest

/-- **What cannot be written in a file name**: names are written in UTF-8, a lone surrogate
from `U+DC80` to `U+DCFF` as the byte it carries.  The first surrogate that carries no byte is
refused, together with the surrogates right after it. -/
def nameRefusal? (s : String) : Option EncodeRefusal :=
  (firstNameRunFrom 0 s.toList).map fun (code, start, stop) =>
    ⟨"utf-8", "surrogates not allowed", code, start, stop⟩

/-- **The first run of characters beyond ASCII** of a text, which ASCII cannot write. -/
def asciiRefusal? (s : String) : Option EncodeRefusal :=
  (firstRunFrom (fun c => c.toNat ≥ 128) 0 s.toList).map fun (code, start, stop) =>
    ⟨"ascii", "ordinal not in range(128)", code, start, stop⟩

example : firstRun? "abc" = none := by decide
example : (firstRun? ("ab" ++ String.singleton (ofUnit 0xD800))).map (·.message) =
    some "'utf-8' codec can't encode character '\\ud800' in position 2: surrogates not allowed" := by
  decide
example : (nameRefusal? ("a" ++ String.singleton (ofUnit 0xDC80) ++ String.singleton (ofUnit 0xD800) ++
    String.singleton (ofUnit 0xDC81))).map (·.message) =
    some "'utf-8' codec can't encode characters in position 2-3: surrogates not allowed" := by
  decide
example : (asciiRefusal? "aéé").map (·.message) =
    some "'ascii' codec can't encode characters in position 1-2: ordinal not in range(128)" := by
  decide

end ApiAudit.Text
