import Mathlib
import ApiAudit.Signature.Grammar

/-!
# Proofs/SignatureSyntax — which lines are signatures, and what reading a signature text finds

A signature line follows one pattern:

```text
[A-Za-z_$][\w$]* (\.[A-Za-z_$*][\w$*]*)* (#[\w$<>]+ (\([\w$.,\[\] ]*\))?)? (\s*@\s*.*)?
```

`Signature.Syntax` states it piece by piece, each piece a list of characters of a class: a class
name with its further segments (`Segments`), an optional member with an optional parameter list
(`Member`), an optional message (`Message`).  On a line that holds no line feed, which is every
line a text is cut into (`Text.splitLines_noBreak`), these are exactly the lines the pattern
matches.

* `isSignatureLine_iff` — the reader of signature lines accepts exactly the lines of that
  syntax.  It reads each piece greedily, and that is enough: no piece can end on a character
  the piece after it could start with, since no blank character is a word character
  (`Text.isWordChar_of_isBlank`);
* `checkText_finds` — reading a signature text counts its significant lines (trimmed, not blank,
  starting with neither `#` nor `@`) when all of them are signatures, and otherwise stops at the
  first that is none, with its number, its trimmed text and the significant lines before it
  counted (`Finds`);
* `bundledBase_of_base` — the bundled set a name refers to is the name without its trailing
  version suffix (`-` and digits, optionally `.` and digits; `VersionSuffix`, `BaseOf`), for a
  name that does not end in a line feed.
-/

namespace ApiAudit

/-! ## Blank characters, word characters and lines -/

namespace Text

/-- The code points of the blank characters. -/
def blankCodes : List Nat :=
  [0x09, 0x0A, 0x0B, 0x0C, 0x0D, 0x1C, 0x1D, 0x1E, 0x1F, 0x20, 0x85, 0xA0, 0x1680, 0x2000, 0x2001,
   0x2002, 0x2003, 0x2004, 0x2005, 0x2006, 0x2007, 0x2008, 0x2009, 0x200A, 0x2028, 0x2029, 0x202F,
   0x205F, 0x3000]

/-- **No blank character is a word character.** -/
theorem isWordChar_of_isBlank {c : Char} (h : isBlank c = true) : isWordChar c = false := by
  have hcode : c.toNat ∈ blankCodes := by
    simp only [isBlank, Bool.or_eq_true, Bool.and_eq_true, decide_eq_true_eq, beq_iff_eq,
      or_assoc] at h
    generalize c.toNat = n at h ⊢
    rcases h with ⟨h1, h2⟩ | ⟨h1, h2⟩ | rfl | rfl | rfl | ⟨h1, h2⟩ | rfl | rfl | rfl | rfl | rfl
    -- a single code is in the list as it is; a run of codes is taken code by code
    any_goals decide
    all_goals interval_cases n <;> decide
  have htable : ∀ n ∈ blankCodes, n ≠ '_'.toNat ∧ inRanges alnumRanges n = false := by
    decide +kernel
  obtain ⟨hne, halnum⟩ := htable _ hcode
  simp only [isWordChar, isAlnum, halnum, Bool.or_false, beq_eq_false_iff_ne]
  rintro rfl
  exact hne rfl

/-- What cutting into lines keeps: no line holds a break, in the lines cut so far nor in the line
being read. -/
theorem splitLinesAux_noBreak (cs cur : List Char) (acc : List String)
    (hcur : ∀ c ∈ cur, isLineBreak c = false) (hacc : ∀ l ∈ acc, ∀ c ∈ l.toList, isLineBreak c = false) :
    ∀ l ∈ splitLinesAux cs cur acc, ∀ c ∈ l.toList, isLineBreak c = false := by
  fun_induction splitLinesAux cs cur acc with
  | case1 cur acc =>
    intro l hl
    simp only [List.mem_reverse] at hl
    split at hl
    · exact hacc l hl
    · rcases List.mem_cons.mp hl with rfl | hl
      · simpa using hcur
      · exact hacc l hl
  | case2 rest cur acc ih =>
    refine ih (by simp) fun l hl => ?_
    rcases List.mem_cons.mp hl with rfl | hl
    · simpa using hcur
    · exact hacc l hl
  | case3 c rest cur acc _ hbreak ih =>
    refine ih (by simp) fun l hl => ?_
    rcases List.mem_cons.mp hl with rfl | hl
    · simpa using hcur
    · exact hacc l hl
  | case4 c rest cur acc _ hbreak ih =>
    refine ih (fun d hd => ?_) hacc
    rcases List.mem_cons.mp hd with rfl | hd
    · simpa using hbreak
    · exact hcur d hd

/-- **No line of a text holds a line break.** -/
theorem splitLines_noBreak {s l : String} (hl : l ∈ splitLines s) :
    ∀ c ∈ l.toList, isLineBreak c = false :=
  splitLinesAux_noBreak s.toList [] [] (by simp) (by simp) l hl

end Text

/-! ## The syntax of a signature line -/

namespace Signature

/-- **Further segments of a class name**: each a dot, a character that may start a segment, then
segment characters. -/
inductive Segments : List Char → Prop
  | nil : Segments []
  | cons {d : Char} {body rest : List Char} : isSegmentHead d = true →
      (∀ x ∈ body, isSegmentChar x = true) → Segments rest → Segments ('.' :: d :: body ++ rest)

/-- **The parameters of a member**: none, or a parenthesised list of parameter characters. -/
def Params (ps : List Char) : Prop :=
  ps = [] ∨ ∃ inner, ps = '(' :: inner ++ [')'] ∧ ∀ x ∈ inner, isParamChar x = true

/-- **The member part**: none, or `#`, a non-empty member name and its parameters. -/
def Member (m : List Char) : Prop :=
  m = [] ∨ ∃ name ps, m = '#' :: name ++ ps ∧ name ≠ [] ∧ (∀ x ∈ name, isMemberChar x = true) ∧
    Params ps

/-- **The message part**: none, or blanks, `@` and any text. -/
def Message (m : List Char) : Prop :=
  m = [] ∨ ∃ blanks rest, m = blanks ++ '@' :: rest ∧ ∀ x ∈ blanks, Text.isBlank x = true

/-- **The lines of the signature syntax**: a class name (a head character, name characters,
further segments), then the member part, then the message part. -/
def Syntax (line : List Char) : Prop :=
  ∃ c body segs member message, line = c :: body ++ segs ++ member ++ message ∧
    isHeadChar c = true ∧ (∀ x ∈ body, isNameChar x = true) ∧ Segments segs ∧ Member member ∧
    Message message

/-! ### Where one piece ends and the next begins -/

/-- The characters a member part or a message part may start with. -/
def TailHead (y : Char) : Prop := y = '#' ∨ y = '@' ∨ Text.isBlank y = true

theorem isNameChar_of_tailHead {y : Char} (h : TailHead y) : isNameChar y = false := by
  rcases h with rfl | rfl | h
  · decide +kernel
  · decide +kernel
  · have hdollar : y ≠ '$' := by rintro rfl; exact absurd h (by decide)
    simp [isNameChar, Text.isWordChar_of_isBlank h, hdollar]

theorem isSegmentChar_of_tailHead {y : Char} (h : TailHead y) : isSegmentChar y = false := by
  have hstar : y ≠ '*' := by
    rcases h with rfl | rfl | h
    · decide
    · decide
    · rintro rfl; exact absurd h (by decide)
  simp [isSegmentChar, isNameChar_of_tailHead h, hstar]

theorem ne_dot_of_tailHead {y : Char} (h : TailHead y) : y ≠ '.' := by
  rcases h with rfl | rfl | h
  · decide
  · decide
  · rintro rfl; exact absurd h (by decide)

theorem isMemberChar_of_message {y : Char} (h : y = '@' ∨ Text.isBlank y = true) :
    isMemberChar y = false := by
  have hname := isNameChar_of_tailHead (Or.inr h)
  have hangle : y ≠ '<' ∧ y ≠ '>' := by
    rcases h with rfl | h
    · decide
    · constructor <;> rintro rfl <;> exact absurd h (by decide)
  simp [isMemberChar, hname, hangle.1, hangle.2]

/-- A message starts with a blank or with `@`. -/
theorem Message.head {m : List Char} (h : Message m) : ∀ y ∈ m.head?, y = '@' ∨ Text.isBlank y = true := by
  rcases h with rfl | ⟨blanks, rest, rfl, hblanks⟩
  · simp
  · cases blanks with
    | nil => simp
    | cons b bs => simpa using Or.inr (hblanks b (List.mem_cons_self ..))

/-- What follows a class name: a member part, then a message part. -/
def MemberTail (cs : List Char) : Prop := ∃ m msg, cs = m ++ msg ∧ Member m ∧ Message msg

theorem MemberTail.head {cs : List Char} (h : MemberTail cs) : ∀ y ∈ cs.head?, TailHead y := by
  obtain ⟨m, msg, rfl, hm, hmsg⟩ := h
  rcases hm with rfl | ⟨name, ps, rfl, -⟩
  · intro y hy
    exact Or.inr (hmsg.head y (by simpa using hy))
  · simp [TailHead]

/-- A list that all satisfies a test, then one whose head fails it: the greedy reading of the test
takes exactly the first list. -/
theorem takeWhile_dropWhile_append {α : Type} {p : α → Bool} {xs ys : List α}
    (hxs : ∀ x ∈ xs, p x = true) (hys : ∀ y ∈ ys.head?, p y = false) :
    (xs ++ ys).takeWhile p = xs ∧ (xs ++ ys).dropWhile p = ys := by
  rw [List.takeWhile_append_of_pos hxs, List.dropWhile_append_of_pos hxs]
  cases ys with
  | nil => simp
  | cons y ys =>
    have hy := hys y rfl
    simp [List.takeWhile_cons_of_neg, List.dropWhile_cons_of_neg, hy]

/-! ### The message part -/

theorem isMessageOrEnd_iff (cs : List Char) : isMessageOrEnd cs = true ↔ Message cs := by
  unfold isMessageOrEnd
  constructor
  · intro h
    rcases Bool.or_eq_true_iff.mp h with hnil | hat
    · exact Or.inl (List.isEmpty_iff.mp hnil)
    · -- the blanks before `@` are what dropping blanks skipped
      obtain ⟨rest, hrest⟩ : ∃ rest, cs.dropWhile Text.isBlank = '@' :: rest := by
        cases hd : cs.dropWhile Text.isBlank with
        | nil => simp [hd] at hat
        | cons y rest => simp only [hd, List.head?_cons, beq_iff_eq, Option.some.injEq] at hat; exact ⟨rest, by rw [hat]⟩
      refine Or.inr ⟨cs.takeWhile Text.isBlank, rest, ?_, fun x hx => List.mem_takeWhile_imp hx⟩
      rw [← hrest, List.takeWhile_append_dropWhile]
  · rintro (rfl | ⟨blanks, rest, rfl, hblanks⟩)
    · rfl
    · have hat : Text.isBlank '@' = false := by decide
      rw [(takeWhile_dropWhile_append hblanks (by simpa using hat)).2]
      simp

/-! ### The member part -/

theorem isMemberTail_of_message {cs : List Char} (h : Message cs) : isMemberTail cs = isMessageOrEnd cs := by
  unfold isMemberTail
  split
  · rename_i rest
    rcases h.head '#' rfl with h | h
    · cases h
    · exact absurd h (by decide)
  · rfl

theorem drop_takeWhile_length {α : Type} (p : α → Bool) (l : List α) :
    l.drop (l.takeWhile p).length = l.dropWhile p := by
  calc l.drop (l.takeWhile p).length
      = (l.takeWhile p ++ l.dropWhile p).drop (l.takeWhile p).length := by
        rw [List.takeWhile_append_dropWhile]
    _ = l.dropWhile p := List.drop_left ..

/-- What the reader of the member part accepts is a member part, then a message. -/
theorem memberTail_of_isMemberTail {cs : List Char} (h : isMemberTail cs = true) : MemberTail cs := by
  unfold isMemberTail at h
  split at h
  · rename_i rest
    simp only [drop_takeWhile_length] at h
    split at h
    · cases h
    · rename_i hempty
      have hname : rest.takeWhile isMemberChar ≠ [] := by simpa using hempty
      have hnameChars : ∀ x ∈ rest.takeWhile isMemberChar, isMemberChar x = true :=
        fun x hx => List.mem_takeWhile_imp hx
      split at h
      · -- a parameter list: what the greedy reading of parameter characters leaves starts with `)`
        rename_i ps hps
        split at h
        · rename_i msg hmsg
          refine ⟨'#' :: rest.takeWhile isMemberChar ++ ('(' :: ps.takeWhile isParamChar ++ [')']),
            msg, ?_, Or.inr ⟨_, _, rfl, hname, hnameChars,
              Or.inr ⟨_, rfl, fun x hx => List.mem_takeWhile_imp hx⟩⟩, (isMessageOrEnd_iff msg).mp h⟩
          calc '#' :: rest
              = '#' :: (rest.takeWhile isMemberChar ++ rest.dropWhile isMemberChar) := by
                rw [List.takeWhile_append_dropWhile]
            _ = '#' :: (rest.takeWhile isMemberChar ++
                  '(' :: (ps.takeWhile isParamChar ++ ps.dropWhile isParamChar)) := by
                rw [hps, List.takeWhile_append_dropWhile]
            _ = _ := by rw [hmsg]; simp
        · cases h
      · exact ⟨'#' :: rest.takeWhile isMemberChar, rest.dropWhile isMemberChar, by simp,
          Or.inr ⟨_, [], by simp, hname, hnameChars, Or.inl rfl⟩,
          (isMessageOrEnd_iff _).mp h⟩
  · exact ⟨[], cs, rfl, Or.inl rfl, (isMessageOrEnd_iff cs).mp h⟩

/-- A member part, then a message, is accepted by the reader of the member part. -/
theorem isMemberTail_of_memberTail {cs : List Char} (h : MemberTail cs) : isMemberTail cs = true := by
  obtain ⟨m, msg, rfl, hm, hmsg⟩ := h
  rcases hm with rfl | ⟨name, ps, rfl, hne, hname, hps⟩
  · rw [List.nil_append, isMemberTail_of_message hmsg]
    exact (isMessageOrEnd_iff msg).mpr hmsg
  · -- the member name stops at the parameters or at the message
    have hstop : ∀ y ∈ (ps ++ msg).head?, isMemberChar y = false := by
      rcases hps with rfl | ⟨inner, rfl, -⟩
      · intro y hy
        exact isMemberChar_of_message (hmsg.head y (by simpa using hy))
      · intro y hy
        simp only [List.cons_append, List.head?_cons, Option.mem_def, Option.some.injEq] at hy
        subst hy
        decide +kernel
    obtain ⟨htake, hdrop⟩ := takeWhile_dropWhile_append hname hstop
    simp only [isMemberTail, List.cons_append, List.append_assoc, htake, List.drop_left,
      List.isEmpty_iff, hne, ↓reduceIte]
    rcases hps with rfl | ⟨inner, rfl, hinner⟩
    · rw [List.nil_append]
      split
      · next ps =>
        rcases hmsg.head '(' (by simp) with h | h
        · cases h
        · exact absurd h (by decide)
      · exact (isMessageOrEnd_iff msg).mpr hmsg
    · have hclose : ∀ y ∈ (')' :: msg).head?, isParamChar y = false := by
        intro y hy
        simp only [List.head?_cons, Option.mem_def, Option.some.injEq] at hy
        subst hy
        decide +kernel
      obtain ⟨-, hdrop'⟩ := takeWhile_dropWhile_append hinner hclose
      simp only [List.cons_append, List.append_assoc, List.nil_append, drop_takeWhile_length, hdrop']
      exact (isMessageOrEnd_iff msg).mpr hmsg

/-! ### Further segments -/

theorem segmentBody_cons_of_ne {c : Char} (hc : c ≠ '.') (rest : List Char) :
    segmentBody (c :: rest) = if isSegmentChar c then segmentBody rest else c :: rest :=
  segmentBody.eq_2 c rest fun _ _ hdot _ => hc hdot

/-- **Reading further segments** stops after segment characters and whole segments. -/
theorem segmentBody_split (xs : List Char) :
    ∃ body segs, xs = body ++ segs ++ segmentBody xs ∧ (∀ x ∈ body, isSegmentChar x = true) ∧
      Segments segs := by
  fun_induction segmentBody xs with
  | case1 d rest hd ih =>
    obtain ⟨body, segs, hsplit, hbody, hsegs⟩ := ih
    refine ⟨[], '.' :: d :: body ++ segs, ?_, by simp, .cons hd hbody hsegs⟩
    conv_lhs => rw [hsplit]
    simp
  | case2 d rest hd => exact ⟨[], [], by simp, by simp, .nil⟩
  | case3 c rest _ hc ih =>
    obtain ⟨body, segs, hsplit, hbody, hsegs⟩ := ih
    refine ⟨c :: body, segs, ?_, ?_, hsegs⟩
    · conv_lhs => rw [hsplit]
      simp
    · intro x hx
      rcases List.mem_cons.mp hx with rfl | hx
      · exact hc
      · exact hbody x hx
  | case4 c rest _ hc => exact ⟨[], [], by simp, by simp, .nil⟩
  | case5 => exact ⟨[], [], by simp, by simp, .nil⟩

/-- **Skipping further segments** drops whole segments only. -/
theorem skipSegments_split (xs : List Char) : ∃ segs, xs = segs ++ skipSegments xs ∧ Segments segs := by
  unfold skipSegments
  split
  · rename_i d rest
    split
    · rename_i hd
      obtain ⟨body, segs, hsplit, hbody, hsegs⟩ := segmentBody_split rest
      refine ⟨'.' :: d :: body ++ segs, ?_, .cons hd hbody hsegs⟩
      conv_lhs => rw [hsplit]
      simp
    · exact ⟨[], rfl, .nil⟩
  · exact ⟨[], rfl, .nil⟩

theorem ne_dot_of_isSegmentChar {x : Char} (h : isSegmentChar x = true) : x ≠ '.' := by
  rintro rfl
  exact absurd h (by decide +kernel)

theorem segmentBody_chars_append {body rest : List Char} (h : ∀ x ∈ body, isSegmentChar x = true) :
    segmentBody (body ++ rest) = segmentBody rest := by
  induction body with
  | nil => rfl
  | cons x body ih =>
    have hx := h x (List.mem_cons_self ..)
    rw [List.cons_append, segmentBody_cons_of_ne (ne_dot_of_isSegmentChar hx), if_pos hx]
    exact ih fun y hy => h y (List.mem_cons_of_mem _ hy)

theorem segmentBody_segments_append {segs tail : List Char} (h : Segments segs) :
    segmentBody (segs ++ tail) = segmentBody tail := by
  induction h with
  | nil => rfl
  | cons hd hbody _ ih =>
    simp only [List.cons_append, List.append_assoc, segmentBody, hd, ↓reduceIte]
    rw [segmentBody_chars_append hbody, ih]

theorem segmentBody_of_tailHead {tail : List Char} (h : ∀ y ∈ tail.head?, TailHead y) :
    segmentBody tail = tail := by
  cases tail with
  | nil => rfl
  | cons y rest =>
    have hy := h y rfl
    rw [segmentBody_cons_of_ne (ne_dot_of_tailHead hy), isSegmentChar_of_tailHead hy]
    rfl

/-- Skipping whole segments before a member part or a message leaves that part. -/
theorem skipSegments_append {segs tail : List Char} (h : Segments segs)
    (htail : ∀ y ∈ tail.head?, TailHead y) : skipSegments (segs ++ tail) = tail := by
  cases h with
  | nil =>
    unfold skipSegments
    split
    · rename_i d rest heq
      rw [List.nil_append] at heq
      exact absurd (htail '.' (by simp [heq])) fun h => ne_dot_of_tailHead h rfl
    · rfl
  | cons hd hbody hsegs =>
    simp only [List.cons_append, List.append_assoc, skipSegments, hd, ↓reduceIte]
    rw [segmentBody_chars_append hbody, segmentBody_segments_append hsegs,
      segmentBody_of_tailHead htail]

/-! ### Whole lines -/

/-- What the reader of signature lines accepts is a line of the signature syntax: the name
characters it reads greedily, the segments it skips, then the member part and message. -/
theorem syntax_of_isSignatureLine {line : List Char} (h : isSignatureLine line = true) :
    Syntax line := by
  cases line with
  | nil => cases h
  | cons c rest =>
    obtain ⟨hc, htail⟩ := Bool.and_eq_true_iff.mp h
    obtain ⟨segs, hsplit, hsegs⟩ := skipSegments_split (rest.dropWhile isNameChar)
    obtain ⟨m, msg, hmt, hm, hmsg⟩ := memberTail_of_isMemberTail htail
    refine ⟨c, rest.takeWhile isNameChar, segs, m, msg, ?_, hc,
      fun x hx => List.mem_takeWhile_imp hx, hsegs, hm, hmsg⟩
    calc c :: rest
        = c :: (rest.takeWhile isNameChar ++ rest.dropWhile isNameChar) := by
          rw [List.takeWhile_append_dropWhile]
      _ = c :: (rest.takeWhile isNameChar ++ (segs ++ (m ++ msg))) := by rw [hsplit, hmt]
      _ = _ := by simp

/-- A line of the signature syntax is accepted: reading greedily stops where each piece ends. -/
theorem isSignatureLine_of_syntax {line : List Char} (h : Syntax line) :
    isSignatureLine line = true := by
  obtain ⟨c, body, segs, m, msg, rfl, hc, hbody, hsegs, hm, hmsg⟩ := h
  have htail : MemberTail (m ++ msg) := ⟨m, msg, rfl, hm, hmsg⟩
  -- the class name stops at a dot, at the member part or at the message
  have hstop : ∀ y ∈ (segs ++ (m ++ msg)).head?, isNameChar y = false := by
    cases hsegs with
    | nil => exact fun y hy => isNameChar_of_tailHead (htail.head y (by simpa using hy))
    | cons =>
      intro y hy
      simp only [List.cons_append, List.head?_cons, Option.mem_def, Option.some.injEq] at hy
      subst hy
      decide +kernel
  obtain ⟨-, hdrop⟩ := takeWhile_dropWhile_append hbody hstop
  simp only [isSignatureLine, List.cons_append, List.append_assoc, hdrop,
    skipSegments_append hsegs htail.head, hc, Bool.true_and]
  exact isMemberTail_of_memberTail htail

/-- **The reader of signature lines accepts exactly the lines of the signature syntax.** -/
theorem isSignatureLine_iff (line : List Char) : isSignatureLine line = true ↔ Syntax line :=
  ⟨syntax_of_isSignatureLine, isSignatureLine_of_syntax⟩

/-! ## Reading a signature text -/

/-- **A significant line**: not blank once trimmed, and starting with neither `#` nor `@`. -/
def significant (raw : String) : Bool :=
  match (Text.trim raw).toList with
  | [] => false
  | c :: _ => !(c == '#' || c == '@')

/-- **What reading numbered lines finds**, counting from `n` with the first line numbered `i`:
when every significant line is a signature, all of them counted; otherwise the first significant
line that is none, with its number and trimmed text, and the significant lines before it
counted. -/
def Finds (n i : Nat) (ls : List String) : TextCheck → Prop
  | .counted k => (∀ raw ∈ ls, significant raw → Syntax (Text.trim raw).toList) ∧
      k = n + ls.countP significant
  | .badLine k j line => ∃ pre raw post, ls = pre ++ raw :: post ∧
      (∀ r ∈ pre, significant r → Syntax (Text.trim r).toList) ∧ significant raw ∧
      ¬ Syntax (Text.trim raw).toList ∧ k = n + pre.countP significant ∧ j = i + pre.length ∧
      line = Text.trim raw

/-- The lines a reader skips are the insignificant ones. -/
theorem skipped_eq (raw : String) :
    ((Text.trim raw).toList.isEmpty || (Text.trim raw).toList.head? == some '#' ||
      (Text.trim raw).toList.head? == some '@') = !significant raw := by
  unfold significant
  cases (Text.trim raw).toList with
  | nil => rfl
  | cons c rest => simp

/-- A line that passes, significant or not, does not change what the lines after it find, but for
its number and its count. -/
theorem Finds.cons {n i : Nat} {raw : String} {rest : List String} {r : TextCheck}
    (hraw : significant raw → Syntax (Text.trim raw).toList)
    (h : Finds (n + if significant raw then 1 else 0) (i + 1) rest r) : Finds n i (raw :: rest) r := by
  cases r with
  | counted k =>
    obtain ⟨hall, hk⟩ := h
    refine ⟨fun r hr => ?_, ?_⟩
    · rcases List.mem_cons.mp hr with rfl | hr
      · exact hraw
      · exact hall r hr
    · rw [hk, List.countP_cons]
      split <;> omega
  | badLine k j line =>
    obtain ⟨pre, bad, post, rfl, hpre, hsig, hbad, hk, hj, hline⟩ := h
    refine ⟨raw :: pre, bad, post, rfl, fun r hr => ?_, hsig, hbad, ?_, ?_, hline⟩
    · rcases List.mem_cons.mp hr with rfl | hr
      · exact hraw
      · exact hpre r hr
    · rw [hk, List.countP_cons]
      split <;> omega
    · simp only [hj, List.length_cons]
      omega

/-- **Reading numbered lines finds what it should.**  The induction is on the lines, with the
count and the line number generalised. -/
theorem checkLines_finds (n i : Nat) (ls : List String) : Finds n i ls (checkLines n i ls) := by
  induction ls generalizing n i with
  | nil => exact ⟨(fun _ h => by cases h), by simp⟩
  | cons raw rest ih =>
    simp only [checkLines, skipped_eq]
    -- split by rewriting the tests in place: a `by_cases` would unfold `Finds` against the goal
    cases hsig : significant raw with
    | false =>
      simp only [Bool.not_false, ↓reduceIte]
      refine Finds.cons (fun h => absurd h (by simp [hsig])) ?_
      simpa only [hsig, Bool.false_eq_true, ↓reduceIte, Nat.add_zero] using ih n (i + 1)
    | true =>
      cases hline : isSignatureLine (Text.trim raw).toList with
      | true =>
        simp only [Bool.not_true, Bool.false_eq_true, ↓reduceIte]
        refine Finds.cons (fun _ => (isSignatureLine_iff _).mp hline) ?_
        simpa only [hsig, ↓reduceIte] using ih (n + 1) (i + 1)
      | false =>
        simp only [Bool.not_true, Bool.false_eq_true, ↓reduceIte]
        exact ⟨[], raw, rest, rfl, (fun _ h => by cases h), hsig,
          (fun hs => absurd ((isSignatureLine_iff _).mpr hs) (by simp [hline])), by simp, by simp, rfl⟩

/-- **Reading a signature text finds what it should**, its lines numbered from one. -/
theorem checkText_finds (text : String) : Finds 0 1 (Text.splitLines text) (checkText text) :=
  checkLines_finds 0 1 _

/-! ## Bundled names -/

/-- **A version suffix**: `-` and decimal digits, optionally followed by `.` and decimal
digits. -/
def VersionSuffix (s : List Char) : Prop :=
  ∃ major minor, s = '-' :: major ++ minor ∧ major ≠ [] ∧ (∀ d ∈ major, Text.isDecimal d = true) ∧
    (minor = [] ∨ ∃ ds, minor = '.' :: ds ∧ ds ≠ [] ∧ ∀ d ∈ ds, Text.isDecimal d = true)

/-- **The base of a bundled name**: the name without its version suffix when it ends in one, else
the whole name. -/
def BaseOf (name base : List Char) : Prop :=
  (∃ s, name = base ++ s ∧ VersionSuffix s) ∨ (base = name ∧ ∀ b s, name = b ++ s → ¬ VersionSuffix s)

theorem VersionSuffix.ne_nil {s : List Char} (h : VersionSuffix s) : s ≠ [] := by
  obtain ⟨major, minor, rfl, -⟩ := h
  simp

/-- **Dropping the version of a reversed name** that does not start with a line feed: the digits
at its front, with the `-` or the `.`, digits and `-` after them. -/
theorem dropVersionRev_of_head {r : List Char} (h : r.head? ≠ some '\n') :
    dropVersionRev r =
      if (r.takeWhile Text.isDecimal).isEmpty then r
      else
        match r.dropWhile Text.isDecimal with
        | '-' :: r2 => r2
        | '.' :: r2 =>
          match r2.dropWhile Text.isDecimal with
          | '-' :: r3 => if (r2.takeWhile Text.isDecimal).isEmpty then r else r3
          | _ => r
        | _ => r := by
  unfold dropVersionRev
  split
  · simp at h
  · -- the matches of the two sides agree once the digits are dropped, up to their auxiliary
    -- matchers, which are shared when both sides are elaborated together
    simp only [drop_takeWhile_length]
    all_goals rfl

/-- The version suffix at the end of a name is what dropping the version takes away. -/
theorem dropVersionRev_suffix {b s : List Char} (hs : VersionSuffix s) :
    dropVersionRev (b ++ s).reverse = b.reverse := by
  obtain ⟨major, minor, rfl, hne, hmajor, hminor⟩ := hs
  have hdash : Text.isDecimal '-' = false := by decide +kernel
  have hdot : Text.isDecimal '.' = false := by decide +kernel
  have hbreak : Text.isDecimal '\n' = false := by decide +kernel
  have hmajorRev : ∀ d ∈ major.reverse, Text.isDecimal d = true := by simpa using hmajor
  have hmajorNe : major.reverse.isEmpty = false := by simpa using hne
  -- a reversed name that starts with a digit does not start with a line feed
  have hhead : ∀ cs rest : List Char, (∀ d ∈ cs, Text.isDecimal d = true) → cs ≠ [] →
      (cs ++ rest).head? ≠ some '\n' := by
    intro cs rest hcs hne' hhd
    cases cs with
    | nil => exact hne' rfl
    | cons d _ =>
      simp only [List.cons_append, List.head?_cons, Option.some.injEq] at hhd
      subst hhd
      simp [hbreak] at hcs
  obtain ⟨htake, hdrop⟩ : (major.reverse ++ '-' :: b.reverse).takeWhile Text.isDecimal = major.reverse ∧
      (major.reverse ++ '-' :: b.reverse).dropWhile Text.isDecimal = '-' :: b.reverse :=
    takeWhile_dropWhile_append hmajorRev (by simp [hdash])
  rcases hminor with rfl | ⟨ds, rfl, hdsne, hds⟩
  · have hrev : (b ++ ('-' :: major ++ [])).reverse = major.reverse ++ '-' :: b.reverse := by simp
    rw [hrev, dropVersionRev_of_head (hhead _ _ hmajorRev (by simpa using hne)), htake, hdrop,
      hmajorNe]
    rfl
  · have hdsRev : ∀ d ∈ ds.reverse, Text.isDecimal d = true := by simpa using hds
    have hrev : (b ++ ('-' :: major ++ '.' :: ds)).reverse =
        ds.reverse ++ '.' :: (major.reverse ++ '-' :: b.reverse) := by simp
    obtain ⟨htake', hdrop'⟩ : (ds.reverse ++ '.' :: (major.reverse ++ '-' :: b.reverse)).takeWhile
          Text.isDecimal = ds.reverse ∧
        (ds.reverse ++ '.' :: (major.reverse ++ '-' :: b.reverse)).dropWhile Text.isDecimal =
          '.' :: (major.reverse ++ '-' :: b.reverse) :=
      takeWhile_dropWhile_append hdsRev (by simp [hdot])
    have hdsNe : ds.reverse.isEmpty = false := by simpa using hdsne
    rw [hrev, dropVersionRev_of_head (hhead _ _ hdsRev (by simpa using hdsne)), htake', hdrop',
      hdsNe]
    simp only [Bool.false_eq_true, ↓reduceIte, hdrop, htake, hmajorNe]

/-- Dropping the version of a reversed name takes nothing away, or takes a version suffix
away. -/
theorem dropVersionRev_cases {r : List Char} (h : r.head? ≠ some '\n') :
    dropVersionRev r = r ∨
      ∃ b s, r = (b ++ s).reverse ∧ VersionSuffix s ∧ dropVersionRev r = b.reverse := by
  have hdigits : ∀ cs : List Char, ∀ d ∈ cs.takeWhile Text.isDecimal, Text.isDecimal d = true :=
    fun _ _ hd => List.mem_takeWhile_imp hd
  rw [dropVersionRev_of_head h]
  split
  · exact Or.inl rfl
  · rename_i hne1
    have hne1 : r.takeWhile Text.isDecimal ≠ [] := by simpa using hne1
    split
    · -- `-` after the digits: a suffix without a minor part
      rename_i r2 hr1
      refine Or.inr ⟨r2.reverse, '-' :: (r.takeWhile Text.isDecimal).reverse, ?_,
        ⟨(r.takeWhile Text.isDecimal).reverse, [], by simp, List.reverse_ne_nil_iff.mpr hne1,
          by simpa using hdigits r, Or.inl rfl⟩, by simp⟩
      calc r = r.takeWhile Text.isDecimal ++ r.dropWhile Text.isDecimal :=
            (List.takeWhile_append_dropWhile).symm
        _ = _ := by rw [hr1]; simp
    · rename_i r2 hr1
      split
      · rename_i r3 hr2
        split
        · exact Or.inl rfl
        · -- `.`, digits and `-` after the digits: a suffix with a minor part
          rename_i hne2
          have hne2 : r2.takeWhile Text.isDecimal ≠ [] := by simpa using hne2
          refine Or.inr ⟨r3.reverse,
            '-' :: (r2.takeWhile Text.isDecimal).reverse ++ '.' :: (r.takeWhile Text.isDecimal).reverse,
            ?_, ⟨_, _, rfl, List.reverse_ne_nil_iff.mpr hne2, by simpa using hdigits r2,
              Or.inr ⟨_, rfl, List.reverse_ne_nil_iff.mpr hne1, by simpa using hdigits r⟩⟩, by simp⟩
          calc r = r.takeWhile Text.isDecimal ++ r.dropWhile Text.isDecimal :=
                (List.takeWhile_append_dropWhile).symm
            _ = r.takeWhile Text.isDecimal ++ '.' ::
                  (r2.takeWhile Text.isDecimal ++ r2.dropWhile Text.isDecimal) := by
                rw [hr1, List.takeWhile_append_dropWhile]
            _ = _ := by rw [hr2]; simp
      · exact Or.inl rfl
    · exact Or.inl rfl

/-- **The bundled set a name refers to is its base**, for a name that does not end in a line
feed. -/
theorem bundledBase_of_base {name : String} {base : List Char}
    (hlast : name.toList.getLast? ≠ some '\n') (hbase : BaseOf name.toList base) :
    bundledBase name = String.ofList base := by
  have hr : name.toList.reverse.head? ≠ some '\n' := by rwa [List.head?_reverse]
  unfold bundledBase
  rcases dropVersionRev_cases hr with hsame | ⟨b, s, hrs, hs, hdrop⟩
  · rw [hsame, List.reverse_reverse]
    rcases hbase with ⟨s, hsplit, hs⟩ | ⟨rfl, -⟩
    · -- a suffix there would have been taken away
      have hsuffix := dropVersionRev_suffix (b := base) hs
      rw [← hsplit, hsame] at hsuffix
      rw [List.reverse_injective hsuffix] at hsplit
      exact absurd (List.self_eq_append_right.mp hsplit) hs.ne_nil
    · simp
  · rw [hdrop, List.reverse_reverse]
    have hname : name.toList = b ++ s := by
      rw [← List.reverse_reverse name.toList, hrs, List.reverse_reverse]
    rcases hbase with ⟨s', hsplit, hs'⟩ | ⟨-, hno⟩
    · have hsuffix := dropVersionRev_suffix (b := base) hs'
      rw [← hsplit, hdrop] at hsuffix
      rw [List.reverse_injective hsuffix]
    · exact absurd hs (hno b s hname)

/-- A name that ends in no version suffix. -/
def NoSuffix (name : String) : Prop := ∀ b s, name.toList = b ++ s → ¬ VersionSuffix s

/-- A version suffix ends in a digit, never in a line feed. -/
theorem VersionSuffix.getLast_ne {s : List Char} (h : VersionSuffix s) : s.getLast? ≠ some '\n' := by
  obtain ⟨major, minor, rfl, hne, hmajor, hminor⟩ := h
  have hbreak : Text.isDecimal '\n' = false := by decide +kernel
  intro hlast
  rcases hminor with rfl | ⟨ds, rfl, hdsne, hds⟩
  · obtain ⟨init, d, rfl⟩ := (List.eq_nil_or_concat major).resolve_left hne
    have hd : d = '\n' := by
      simpa only [List.concat_eq_append, List.append_nil, ← List.cons_append, List.getLast?_concat,
        Option.some.injEq] using hlast
    have hdigit := hmajor d (by simp)
    simp [hd, hbreak] at hdigit
  · obtain ⟨init, d, rfl⟩ := (List.eq_nil_or_concat ds).resolve_left hdsne
    have hd : d = '\n' := by
      simpa only [List.concat_eq_append, ← List.cons_append, ← List.append_assoc,
        List.getLast?_concat, Option.some.injEq] using hlast
    have hdigit := hds d (by simp)
    simp [hd, hbreak] at hdigit

/-- A name ending in a line feed is its own base. -/
theorem BaseOf.eq_of_getLast {name base : List Char} (h : BaseOf name base)
    (hlast : name.getLast? = some '\n') : base = name := by
  rcases h with ⟨s, rfl, hs⟩ | ⟨rfl, -⟩
  · rw [List.getLast?_append_of_ne_nil _ hs.ne_nil] at hlast
    exact absurd hlast hs.getLast_ne
  · rfl

/-- A name is its own base exactly when it ends in no version suffix. -/
theorem BaseOf.eq_iff {name : String} {base : List Char} (h : BaseOf name.toList base) :
    String.ofList base = name ↔ NoSuffix name := by
  rw [← String.toList_inj, String.toList_ofList]
  rcases h with ⟨s, hname, hs⟩ | ⟨hbase, hno⟩
  · have hne : base ≠ name.toList := by
      rw [hname]
      exact fun heq => hs.ne_nil (List.self_eq_append_right.mp heq)
    exact ⟨fun heq => absurd heq hne, fun hno => absurd hs (hno base s hname)⟩
  · exact ⟨fun _ => hno, fun _ => hbase⟩

/-- No bundled set ends in a line feed. -/
theorem not_mem_bundledNames {s : String} (h : s.toList.getLast? = some '\n') :
    s ∉ bundledNames := by
  have hnames : ∀ n ∈ bundledNames, n.toList.getLast? ≠ some '\n' := by decide +kernel
  exact fun hmem => hnames s hmem h

/-- Dropping the version of a name that ends in a line feed keeps the line feed last. -/
theorem bundledBase_getLast {name : String} (h : name.toList.getLast? = some '\n') :
    (bundledBase name).toList.getLast? = some '\n' := by
  obtain ⟨init, d, hsplit⟩ := (List.eq_nil_or_concat name.toList).resolve_left
    (fun hnil => by simp [hnil] at h)
  rw [hsplit, List.concat_eq_append, List.getLast?_concat, Option.some.injEq] at h
  subst h
  simp [bundledBase, hsplit, dropVersionRev]

end Signature

end ApiAudit
