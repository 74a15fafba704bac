import ApiAudit.Data.Json.Write
import ApiAudit.Data.Json.Read
import ApiAudit.Text.FileLines
import ApiAudit.Proofs.ClasspathRoots

/-!
# Proofs/OneLine — a value is written on one line, and lines are read back as written

A trace file holds one event per line, which works only if no written event holds a line end.
`Json.Style.line` writes none: strings escape `\n` and `\r`, numbers are digits, signs, points
and exponents, and the style puts no break between items.  A text file is read by cutting it
after each line feed, every line end counted as one; so lines that end in a line feed and hold
no other line end are read back as they were written.

* `Text.Unbroken` — characters with no line end among them;
* `Json.unbroken_write` — a value written in the one-line style holds no line end;
* `Json.render_dict_toList` — a dictionary's text opens with a brace, and `Json.read_dict` — a
  document that opens with a brace reads as a dictionary, when it reads at all;
* `Text.fileLines_join` — lines written one after another are the lines read back.
-/

namespace ApiAudit

namespace Text

/-- Characters with no line end among them: no line feed, no carriage return. -/
def Unbroken (cs : List Char) : Prop := ∀ c ∈ cs, c ≠ '\n' ∧ c ≠ '\r'

@[simp] theorem unbroken_nil : Unbroken [] := by simp [Unbroken]

@[simp] theorem unbroken_cons {c : Char} {cs : List Char} :
    Unbroken (c :: cs) ↔ (c ≠ '\n' ∧ c ≠ '\r') ∧ Unbroken cs := by
  simp [Unbroken]

@[simp] theorem unbroken_append {a b : List Char} : Unbroken (a ++ b) ↔ Unbroken a ∧ Unbroken b := by
  simp only [Unbroken, List.mem_append]
  exact ⟨fun h => ⟨fun c hc => h c (.inl hc), fun c hc => h c (.inr hc)⟩,
    fun h c hc => hc.elim (h.1 c) (h.2 c)⟩

theorem Unbroken.take {cs : List Char} (h : Unbroken cs) (n : Nat) : Unbroken (cs.take n) :=
  fun c hc => h c (List.mem_of_mem_take hc)

theorem Unbroken.drop {cs : List Char} (h : Unbroken cs) (n : Nat) : Unbroken (cs.drop n) :=
  fun c hc => h c (List.mem_of_mem_drop hc)

@[simp] theorem unbroken_replicate_zero (n : Nat) : Unbroken (List.replicate n '0') := by
  intro c hc
  rw [(List.mem_replicate.mp hc).2]
  decide


/-! ## Lines read back -/

theorem unifyLineEnds_of_not_mem (cs : List Char) (h : '\r' ∉ cs) : unifyLineEnds cs = cs := by
  fun_induction unifyLineEnds cs with
  | case1 rest _ => simp at h
  | case2 rest _ => simp at h
  | case3 c rest _ _ ih => 
    rw [ih (fun h' => h (List.mem_cons_of_mem _ h'))]
  | case4 => rfl

theorem cutLines_line (rest : List Char) : ∀ (body cur : List Char), '\n' ∉ body →
    cutLines (body ++ '\n' :: rest) cur = String.ofList (cur.reverse ++ body ++ ['\n']) :: cutLines rest []
  | [], cur, _ => by simp [cutLines]
  | b :: more, cur, h => by
    have hb : b ≠ '\n' := fun hb => h (hb ▸ List.mem_cons_self)
    rw [List.cons_append, cutLines.eq_4 _ _ _ hb,
      cutLines_line rest more (b :: cur) (fun h' => h (List.mem_cons_of_mem _ h'))]
    simp

theorem cutLines_join : ∀ (bodies : List (List Char)), (∀ b ∈ bodies, '\n' ∉ b) →
    cutLines (bodies.flatMap (· ++ ['\n'])) [] = bodies.map fun b => String.ofList (b ++ ['\n'])
  | [], _ => rfl
  | b :: more, h => by
    rw [List.flatMap_cons, List.append_assoc, List.singleton_append,
      cutLines_line _ b [] (h b List.mem_cons_self),
      cutLines_join more fun b' hb' => h b' (List.mem_cons_of_mem _ hb')]
    simp

/-- **Lines that each end in a line feed and hold no other line end are read back as written.** -/
theorem fileLines_join (bodies : List (List Char)) (h : ∀ b ∈ bodies, Unbroken b) :
    fileLines (String.join (bodies.map fun b => String.ofList (b ++ ['\n']))) =
      bodies.map fun b => String.ofList (b ++ ['\n']) := by
  have hflat : (String.join (bodies.map fun b => String.ofList (b ++ ['\n']))).toList =
      bodies.flatMap (· ++ ['\n']) := by
    simp [String.toList_join, List.flatMap_map]
  rw [fileLines, hflat, unifyLineEnds_of_not_mem]
  · exact cutLines_join bodies fun b hb hn => (h b hb '\n' hn).1 rfl
  · -- no body holds a carriage return, and the line feeds are none
    intro hr
    obtain ⟨b, hb, hr⟩ := List.mem_flatMap.mp hr
    rcases List.mem_append.mp hr with hr | hr
    · exact (h b hb '\r' hr).2 rfl
    · simp at hr

end Text

/-! ## A value written on one line -/

namespace Json

open Text

theorem digitChar_unbroken (n : Nat) : n.digitChar ≠ '\n' ∧ n.digitChar ≠ '\r' := by
  by_cases h : n < 16
  · interval_cases n <;> decide
  · rw [Nat.digitChar_eq_star.mpr (by omega)]
    decide

theorem unbroken_toDigitsCore (b : Nat) : ∀ (fuel n : Nat) (ds : List Char), Unbroken ds →
    Unbroken (Nat.toDigitsCore b fuel n ds)
  | 0, _, _, h => h
  | fuel + 1, n, ds, h => by
    rw [Nat.toDigitsCore]
    split
    · exact unbroken_cons.mpr ⟨digitChar_unbroken _, h⟩
    · exact unbroken_toDigitsCore b fuel _ _ (unbroken_cons.mpr ⟨digitChar_unbroken _, h⟩)

@[simp] theorem unbroken_toDigits (b n : Nat) : Unbroken (Nat.toDigits b n) :=
  unbroken_toDigitsCore b _ n [] unbroken_nil

theorem unbroken_int (n : Int) : Unbroken (toString n).toList := by
  show Unbroken (Int.repr n).toList
  rw [Int.repr_eq_if]
  split <;> simp [Nat.repr_eq_ofList_toDigits]

theorem unbroken_positional {ds : List Char} (h : Unbroken ds) (point : Int) :
    Unbroken (Number.positional ds point).toList := by
  unfold Number.positional
  split_ifs
  · simp [h]
  · simp [h.take, h.drop]
  · simp [h]

theorem unbroken_scientific {ds : List Char} (h : Unbroken ds) (exp : Int) (width : Nat) :
    Unbroken (Number.scientific ds exp width).toList := by
  unfold Number.scientific
  -- the mantissa: one digit alone, or a digit, a point and the rest
  rcases ds with _ | ⟨d, _ | ⟨d', rest⟩⟩ <;> split_ifs <;> simp_all

theorem unbroken_float (x : Float) : Unbroken (Number.FloatStyle.json.render x).toList := by
  unfold Number.FloatStyle.render
  split
  · simp [Unbroken, Number.FloatStyle.json]
  · split
    · split <;> split <;> simp <;> simp [Unbroken, Number.FloatStyle.json]
    · rename_i b _
      rcases hs : b.shortest with ⟨c, q⟩
      have hds := unbroken_toDigits 10 c
      simp only
      split_ifs <;> simp [unbroken_positional hds, unbroken_scientific hds]

theorem unbroken_escapeChar (c : Char) : Unbroken (escapeChar false c) := by
  unfold escapeChar
  simp only [beq_iff_eq, Bool.false_and, Bool.false_eq_true, if_false]
  split_ifs <;> simp_all [unitEscape, Text.hexDigits]

theorem unbroken_quote (s : String) : Unbroken (quote false s).toList := by
  simp only [quote, String.toList_ofList, unbroken_cons, List.cons_append, unbroken_append]
  refine ⟨by simp, fun c hc => ?_, by simp⟩
  obtain ⟨d, -, hd⟩ := List.mem_flatMap.mp hc
  exact unbroken_escapeChar d c hd

@[simp] theorem breakAt_line (depth : Nat) : Style.line.breakAt depth = "" := rfl

@[simp] theorem line_ascii : Style.line.ascii = false := rfl

@[simp] theorem unbroken_itemSep : Unbroken Style.line.itemSep.toList := by simp [Unbroken, Style.line]

@[simp] theorem unbroken_keySep : Unbroken Style.line.keySep.toList := by simp [Unbroken, Style.line]

mutual
theorem unbroken_write (depth : Nat) : ∀ v : Value, Unbroken (write Style.line depth v).toList
  | .null => by rw [write]; simp [Unbroken]
  | .bool b => by cases b <;> simp only [write, Bool.false_eq_true, if_false, if_true] <;> simp [Unbroken]
  | .int n => unbroken_int n
  | .float x => unbroken_float x
  | .str s => unbroken_quote s
  | .time t => unbroken_quote _
  | .bytes data => unbroken_quote _
  | .set items => unbroken_quote _
  | .cycle _ body => by rw [write]; exact unbroken_write depth body
  | .back _ => by rw [write]; simp [Unbroken]
  | .list [] => by rw [write]; simp [Unbroken]
  | .list (v :: vs) => by
    rw [write] <;> simp
    simpa using unbroken_writeItems (depth + 1) (v :: vs)
  | .tuple [] => by rw [write]; simp [Unbroken]
  | .tuple (v :: vs) => by
    rw [write] <;> simp
    simpa using unbroken_writeItems (depth + 1) (v :: vs)
  | .dict [] => by rw [write]; simp [Unbroken]
  | .dict (e :: es) => by
    rw [write] <;> simp
    simpa using unbroken_writeEntries (depth + 1) (e :: es)

theorem unbroken_writeItems (depth : Nat) :
    ∀ vs : List Value, Unbroken (writeItems Style.line depth vs).toList
  | [] => by rw [writeItems]; simp [Unbroken]
  | [v] => by simpa [writeItems] using unbroken_write depth v
  | v :: w :: vs => by
    rw [writeItems.eq_3 _ _ _ _ (List.cons_ne_nil _ _)]
    simp [unbroken_write depth v, unbroken_writeItems depth (w :: vs)]

theorem unbroken_writeEntries (depth : Nat) :
    ∀ es : List (Value × Value), Unbroken (writeEntries Style.line depth es).toList
  | [] => by rw [writeEntries]; simp [Unbroken]
  | [(k, v)] => by
    rw [writeEntries]
    simp [unbroken_quote, unbroken_write depth v]
  | (k, v) :: e :: es => by
    rw [writeEntries.eq_3 _ _ _ _ _ (List.cons_ne_nil _ _)]
    simp [unbroken_quote, unbroken_write depth v, unbroken_writeEntries depth (e :: es)]
end

/-- **A dictionary's text opens with a brace.** -/
theorem render_dict_toList (es : List (Value × Value)) :
    ∃ rest, (render Style.line (.dict es)).toList = '{' :: rest := by
  cases es with
  | nil => exact ⟨['}'], by rw [render, write]; simp⟩
  | cons e es =>
    rw [render, write.eq_16 _ _ _ (List.cons_ne_nil _ _)]
    simp

/-! ## A document that opens with a brace -/

theorem readMembers_dict : ∀ (fuel depth : Nat) (inp : Input) (acc : List (Value × Value))
    {v : Value} {after : Input}, readMembers fuel depth inp acc = .ok (v, after) → ∃ es, v = .dict es
  | 0, _, (_, _), _, _, _, h => by simp [readMembers] at h
  | fuel + 1, depth, (cs, p), acc, v, after, h => by
    unfold readMembers at h
    split at h
    · simp only [bind_eq_ok] at h
      obtain ⟨⟨key, afterKey⟩, -, h⟩ := h
      split at h
      · simp only [bind_eq_ok] at h
        obtain ⟨⟨w, after'⟩, -, h⟩ := h
        split at h
        · simp [pure, Except.pure] at h
          exact ⟨_, h.1.symm⟩
        · exact readMembers_dict fuel depth _ _ h
        · cases h
      · cases h
    · cases h

theorem readObject_dict (fuel depth : Nat) (inp : Input) {v : Value} {after : Input}
    (h : readObject fuel depth inp = .ok (v, after)) : ∃ es, v = .dict es := by
  unfold readObject at h
  split at h
  · simp only [Except.ok.injEq, Prod.mk.injEq] at h
    exact ⟨[], h.1.symm⟩
  · exact readMembers_dict _ _ _ _ h

/-- **A document that opens with a brace reads as a dictionary**, when it reads at all. -/
theorem read_dict {s : String} {rest : List Char} (hs : s.toList = '{' :: rest) {v : Value}
    (h : read s = .ok v) : ∃ es, v = .dict es := by
  unfold read at h
  have hskip : skipSpace ('{' :: rest, 0) = ('{' :: rest, 0) := by simp [skipSpace, isSpace]
  simp only [hs, hskip, List.head?_cons] at h
  rw [if_neg (by decide), bind_eq_ok] at h
  obtain ⟨⟨w, after⟩, hw, h⟩ := h
  -- the value read is an object: `{` opens one
  rw [readValue, if_neg (by decide)] at hw
  obtain ⟨es, rfl⟩ := readObject_dict _ _ _ hw
  split at h
  · simp only [pure, Except.pure, Except.ok.injEq] at h
    exact ⟨es, h.symm⟩
  · cases h

end Json

end ApiAudit
