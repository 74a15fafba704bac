import ApiAudit.Text.Utf8
import ApiAudit.FileTree.Layout
import Mathlib.Tactic.SplitIfs

/-!
# Proofs/Utf8RoundTrip — the UTF-8 bytes of a text decode to the text

`utf8Bytes` writes each character as the standard's one to four bytes; `Text.decodeUtf8` reads
bytes back with the standard's checks: no overlong form, no surrogate, nothing above `U+10FFFF`.
Every character passes them, so decoding what was written gives the text back, whatever it holds.

* `decodeOne_one` … `decodeOne_four` — the four shapes of a well-formed sequence, and what each
  decodes to;
* `decodeOne_utf8EncodeChar` — the bytes of one character have one of those shapes and decode
  to it;
* `decodeUtf8_utf8Bytes` — the bytes of a text decode to the text.
-/

namespace ApiAudit.Text

variable {s total : Nat} {rest : List UInt8}

/-! ## The four shapes of a well-formed sequence -/

theorem isCont_iff (b : UInt8) : isCont b = true ↔ 0x80 ≤ b.toNat ∧ b.toNat ≤ 0xBF := by
  simp [isCont, UInt8.le_iff_toNat_le]

theorem decodeOne_one {b : UInt8} (h : b.toNat < 0x80) :
    decodeOne s total (b :: rest) = .ok (Char.ofNat b.toNat, 1) := by
  simp [decodeOne, h]

theorem decodeOne_two {b c : UInt8} (hb : 0xC2 ≤ b.toNat ∧ b.toNat < 0xE0) (hc : isCont c = true) :
    decodeOne s total (b :: c :: rest) = .ok (Char.ofNat ((b.toNat % 32) * 64 + low6 c), 2) := by
  simp [decodeOne, hc, show ¬ b.toNat < 128 by omega, show ¬ b.toNat < 194 by omega, hb.2]

theorem decodeOne_three {b c d : UInt8} (hb : 0xE0 ≤ b.toNat ∧ b.toNat < 0xF0)
    (hc : isCont c = true) (hlow : b.toNat = 0xE0 → 0xA0 ≤ c.toNat) (hhigh : b.toNat = 0xED → c.toNat < 0xA0)
    (hd : isCont d = true) :
    decodeOne s total (b :: c :: d :: rest) =
      .ok (Char.ofNat ((b.toNat % 16) * 4096 + low6 c * 64 + low6 d), 3) := by
  simp [decodeOne, hc, hd, show ¬ b.toNat < 128 by omega, show ¬ b.toNat < 194 by omega,
    show ¬ b.toNat < 224 by omega, hb.2, UInt8.le_iff_toNat_le, UInt8.lt_iff_toNat_lt]
  omega

theorem decodeOne_four {b c d e : UInt8} (hb : 0xF0 ≤ b.toNat ∧ b.toNat < 0xF5)
    (hc : isCont c = true) (hlow : b.toNat = 0xF0 → 0x90 ≤ c.toNat) (hhigh : b.toNat = 0xF4 → c.toNat < 0x90)
    (hd : isCont d = true) (he : isCont e = true) :
    decodeOne s total (b :: c :: d :: e :: rest) =
      .ok (Char.ofNat ((b.toNat % 8) * 262144 + low6 c * 4096 + low6 d * 64 + low6 e), 4) := by
  simp [decodeOne, hc, hd, he, show ¬ b.toNat < 128 by omega, show ¬ b.toNat < 194 by omega,
    show ¬ b.toNat < 224 by omega, show ¬ b.toNat < 240 by omega, hb.2, UInt8.le_iff_toNat_le, UInt8.lt_iff_toNat_lt]
  omega


/-! ## The bytes of one character -/

/-- A character's code is below the surrogates, or above them and below `U+110000`. -/
theorem char_valid (c : Char) : c.toNat < 0xD800 ∨ 0xDFFF < c.toNat ∧ c.toNat < 0x110000 := by
  have := c.valid
  unfold UInt32.isValidChar Nat.isValidChar at this
  exact this

theorem toNat_ofNat_of_lt {x : Nat} (h : x < 256) : (UInt8.ofNat x).toNat = x := by
  simp; omega

theorem ofNat_eq_of_toNat {c : Char} {m : Nat} (h : m = c.toNat) : Char.ofNat m = c := by
  rw [h, Char.ofNat_toNat]

/-- **The bytes of a character decode to it**, and the decoder takes all of them. -/
theorem decodeOne_utf8EncodeChar (c : Char) :
    decodeOne s total (String.utf8EncodeChar c ++ rest) = .ok (c, (String.utf8EncodeChar c).length) := by
  have hv := char_valid c
  rw [String.utf8EncodeChar.eq_1]
  have hval : c.val.toNat = c.toNat := rfl
  rw [hval]
  -- one case per length of the character's form
  split_ifs with h1 h2 h3
  · have e0 := toNat_ofNat_of_lt (show c.toNat < 256 by omega)
    rw [List.singleton_append, decodeOne_one (by rw [e0]; omega), e0, Char.ofNat_toNat]
    rfl
  · have e0 := toNat_ofNat_of_lt (show c.toNat / 64 % 32 + 192 < 256 by omega)
    have e1 := toNat_ofNat_of_lt (show c.toNat % 64 + 128 < 256 by omega)
    rw [List.cons_append, List.cons_append, List.nil_append,
      decodeOne_two (by rw [e0]; omega) ((isCont_iff _).mpr (by rw [e1]; omega))]
    simp only [low6, e0, e1]
    rw [ofNat_eq_of_toNat (c := c) (by omega)]
    rfl
  · have e0 := toNat_ofNat_of_lt (show c.toNat / 4096 % 16 + 224 < 256 by omega)
    have e1 := toNat_ofNat_of_lt (show c.toNat / 64 % 64 + 128 < 256 by omega)
    have e2 := toNat_ofNat_of_lt (show c.toNat % 64 + 128 < 256 by omega)
    rw [List.cons_append, List.cons_append, List.cons_append, List.nil_append,
      decodeOne_three (by rw [e0]; omega) ((isCont_iff _).mpr (by rw [e1]; omega))
        (by rw [e0, e1]; omega) (by rw [e0, e1]; omega) ((isCont_iff _).mpr (by rw [e2]; omega))]
    simp only [low6, e0, e1, e2]
    rw [ofNat_eq_of_toNat (c := c) (by omega)]
    rfl
  · have e0 := toNat_ofNat_of_lt (show c.toNat / 262144 % 8 + 240 < 256 by omega)
    have e1 := toNat_ofNat_of_lt (show c.toNat / 4096 % 64 + 128 < 256 by omega)
    have e2 := toNat_ofNat_of_lt (show c.toNat / 64 % 64 + 128 < 256 by omega)
    have e3 := toNat_ofNat_of_lt (show c.toNat % 64 + 128 < 256 by omega)
    rw [List.cons_append, List.cons_append, List.cons_append, List.cons_append, List.nil_append,
      decodeOne_four (by rw [e0]; omega) ((isCont_iff _).mpr (by rw [e1]; omega))
        (by rw [e0, e1]; omega) (by rw [e0, e1]; omega) ((isCont_iff _).mpr (by rw [e2]; omega))
        ((isCont_iff _).mpr (by rw [e3]; omega))]
    simp only [low6, e0, e1, e2, e3]
    rw [ofNat_eq_of_toNat (c := c) (by omega)]
    rfl


/-! ## The bytes of a text -/

theorem toList_loop_eq_drop (bs : ByteArray) (i : Nat) (r : List UInt8) :
    ByteArray.toList.loop bs i r = r.reverse ++ bs.data.toList.drop i := by
  fun_induction ByteArray.toList.loop bs i r with
  | case1 i r h ih =>
    have hi : i < bs.data.toList.length := by simpa using h
    rw [ih, List.drop_eq_getElem_cons hi]
    simp [ByteArray.get!, h]
  | case2 i r h =>
    rw [List.drop_eq_nil_of_le (by simpa using Nat.le_of_not_lt h)]
    simp

theorem toList_toByteArray (l : List UInt8) : l.toByteArray.toList = l := by
  rw [ByteArray.toList, toList_loop_eq_drop, List.toList_data_toByteArray]
  simp

/-- The bytes of a text are the bytes of its characters, one after another. -/
theorem utf8Bytes_eq_flatMap (s : String) : utf8Bytes s = s.toList.flatMap String.utf8EncodeChar := by
  conv => lhs; rw [← String.ofList_toList (s := s)]
  rw [utf8Bytes, String.toUTF8_eq_toByteArray, String.toByteArray_ofList, List.utf8Encode,
    toList_toByteArray]

/-- The bytes of two texts one after another are the bytes of the joined text. -/
theorem utf8Bytes_append (a b : String) : utf8Bytes (a ++ b) = utf8Bytes a ++ utf8Bytes b := by
  simp only [utf8Bytes_eq_flatMap, String.toList_append, List.flatMap_append]

/-- Decoding the bytes of characters, after the characters `acc` already read, reversed. -/
theorem decodeFrom_flatMap (total : Nat) : ∀ (cs : List Char) (fuel s : Nat) (acc : List Char),
    (cs.flatMap String.utf8EncodeChar).length ≤ fuel →
    decodeFrom total fuel s (cs.flatMap String.utf8EncodeChar) acc = .ok (acc.reverse ++ cs)
  | [], fuel, s, acc, _ => by cases fuel <;> simp [decodeFrom]
  | c :: cs, fuel, s, acc, hfuel => by
    have hlen : 0 < (String.utf8EncodeChar c).length := by
      rw [String.length_utf8EncodeChar]
      exact Char.utf8Size_pos c
    rw [List.flatMap_cons] at hfuel ⊢
    rw [List.length_append] at hfuel
    obtain ⟨fuel, rfl⟩ : ∃ f, fuel = f + 1 := ⟨fuel - 1, by omega⟩
    cases hc : String.utf8EncodeChar c with
    | nil => simp [hc] at hlen
    | cons b bs =>
      rw [List.cons_append, decodeFrom, ← List.cons_append, ← hc, decodeOne_utf8EncodeChar]
      simp only [List.drop_left]
      rw [decodeFrom_flatMap total cs fuel _ (c :: acc) (by omega)]
      simp

/-- **Decoding the UTF-8 bytes of a text gives the text back.** -/
theorem decodeUtf8_utf8Bytes (s : String) : decodeUtf8 (utf8Bytes s) = .ok s := by
  rw [decodeUtf8, utf8Bytes_eq_flatMap, decodeFrom_flatMap _ _ _ _ _ (Nat.le_refl _)]
  simp [Except.map]

end ApiAudit.Text
