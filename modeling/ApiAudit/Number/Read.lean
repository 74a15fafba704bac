import ApiAudit.Number.Decimal
import ApiAudit.Text.Blank
import ApiAudit.Text.WordChar
import ApiAudit.Text.Quoted

/-!
# Number/Read — whole numbers and doubles read from text

`readInt base text` reads a whole number written in a base from 2 to 36, `readFloat text` a
double.  Both first see the text through `plainDigits`: beyond ASCII a blank is a space and a
decimal digit of any script is its ASCII digit, and any other character ends the text as a `?`
(which no number holds).

A whole number is: optional ASCII blanks, an optional sign, for bases 2, 8 and 16 an optional
prefix `0b`, `0o` or `0x` (either case) with one optional underscore after it, then digits of
the base with single underscores between them, then optional blanks.  A number in a base that
is no power of two may have at most 4300 digits; that limit is checked as soon as the digits
are counted, before what follows them.

A double is: optional ASCII blanks, an optional sign, then digits with an optional fraction, or
a fraction alone, with an optional exponent `e` or `E`, signed or not, or else `inf`,
`infinity` or `nan` in any case, then optional blanks.  An underscore may stand only between
two digits.  The value is the double nearest to the decimal.

A refusal (`ReadRefusal.message`) names the text as given, quoted.
-/

namespace ApiAudit.Number

/-- Why a text is no number. -/
inductive ReadRefusal where
  /-- No whole number in the base. -/
  | notAnInt (base : Nat) (text : String)
  /-- A whole number with more digits than are read. -/
  | tooManyDigits (count : Nat)
  /-- No double. -/
  | notAFloat (text : String)
  deriving DecidableEq, Repr

/-- The most digits a whole number in a base other than a power of two may have. -/
def maxDigits : Nat := 4300

/-- **The message of a refusal.**  A quoted text is cut to 200 characters. -/
def ReadRefusal.message : ReadRefusal → String
  | .notAnInt base text =>
    s!"invalid literal for int() with base {base}: " ++ String.ofList ((Text.quote text).toList.take 200)
  | .tooManyDigits count =>
    s!"Exceeds the limit (4300 digits) for integer string conversion: value has {count} digits; " ++
      "use sys.set_int_max_str_digits() to increase the limit"
  | .notAFloat text => "could not convert string to float: " ++ Text.quote text

/-- The blanks around a number: space, tab, line feed, vertical tab, form feed, carriage
return. -/
def isAsciiBlank (c : Char) : Bool := c == ' ' || ('\t' ≤ c && c ≤ '\r')

/-- **A text as the readers see it**: ASCII stays, a blank beyond ASCII is a space, a decimal
digit of any script is its ASCII digit, and any other character ends the text as `?`. -/
def plainDigits : List Char → List Char
  | [] => []
  | c :: rest =>
    if c.toNat < 127 then c :: plainDigits rest
    else if Text.isBlank c then ' ' :: plainDigits rest
    else match Text.decimalValue? c with
      | some d => Char.ofNat (48 + d) :: plainDigits rest
      | none => ['?']

/-- The value of a digit in bases up to 36: `0`–`9`, then the letters of either case. -/
def digitOf? (c : Char) : Option Nat :=
  if '0' ≤ c && c ≤ '9' then some (c.toNat - 48)
  else if 'a' ≤ c && c ≤ 'z' then some (c.toNat - 87)
  else if 'A' ≤ c && c ≤ 'Z' then some (c.toNat - 55)
  else none

/-- Whether a character is a digit of a base. -/
def isDigitIn (base : Nat) (c : Char) : Bool :=
  match digitOf? c with
  | some d => d < base
  | none => false

/-- The value of digits of a base, most significant first. -/
def valueIn (base : Nat) (ds : List Char) : Nat :=
  ds.foldl (fun n c => n * base + (digitOf? c).getD 0) 0

/-- Whether underscores in a run of digits stand singly, and not last. -/
def singleMarks : List Char → Bool
  | [] => true
  | ['_'] => false
  | '_' :: '_' :: _ => false
  | _ :: rest => singleMarks rest

/-- The letter of a base's prefix after `0`. -/
def prefixLetter (base : Nat) (c : Char) : Bool :=
  (base == 16 && (c == 'x' || c == 'X')) || (base == 8 && (c == 'o' || c == 'O')) ||
    (base == 2 && (c == 'b' || c == 'B'))

/-- A sign, and the text after it. -/
def takeSign : List Char → Bool × List Char
  | '+' :: r => (false, r)
  | '-' :: r => (true, r)
  | r => (false, r)

/-- Whether a base is a power of two. -/
def isPowerOfTwo (base : Nat) : Bool := base &&& (base - 1) == 0

/-- **Reads a whole number** in a base from 2 to 36. -/
def readInt (base : Nat) (text : String) : Except ReadRefusal Int := do
  let bad := ReadRefusal.notAnInt base text
  let all := plainDigits text.toList
  -- the reader stops at a NUL: what follows it is never read, so the text is no number
  let seen := all.takeWhile (· != '\x00')
  let (neg, r) := takeSign (seen.dropWhile isAsciiBlank)
  let r := match r with
    | '0' :: x :: rest => if prefixLetter base x then (match rest with | '_' :: t => t | t => t) else r
    | _ => r
  if r.head? == some '_' then throw bad
  let run := r.takeWhile fun c => isDigitIn base c || c == '_'
  if !singleMarks run then throw bad
  let digits := run.filter (· != '_')
  if !isPowerOfTwo base && maxDigits < digits.length then throw (.tooManyDigits digits.length)
  if digits.isEmpty || !(r.drop run.length).all isAsciiBlank || seen.length != all.length then
    throw bad
  let n : Int := valueIn base digits
  pure (if neg then -n else n)

/-- Whether underscores stand only between two digits. -/
def marksBetweenDigits (cs : List Char) : Bool :=
  let isD (c : Char) := '0' ≤ c && c ≤ '9'
  let rec go (prev : Char) : List Char → Bool
    | [] => prev != '_'
    | c :: rest =>
      if c == '_' then isD prev && go c rest
      else (prev != '_' || isD c) && go c rest
  go '\x00' cs

/-- The decimal digits at the front, and what follows them. -/
def spanDigits (cs : List Char) : List Char × List Char :=
  (cs.takeWhile fun c => '0' ≤ c && c ≤ '9', cs.dropWhile fun c => '0' ≤ c && c ≤ '9')

/-- A decimal without sign, all of `cs`: its digits and the power of ten to scale them by. -/
def decimalParts? (cs : List Char) : Option (Nat × Int) := do
  let (whole, r) := spanDigits cs
  let (frac, r) := match r with
    | '.' :: f => spanDigits f
    | _ => ([], r)
  if whole.isEmpty && frac.isEmpty then none
  let scale : Int ← match r with
    | [] => some 0
    | e :: rest =>
      if e != 'e' && e != 'E' then none
      else
        let (negE, ds) := takeSign rest
        if ds.isEmpty || !ds.all (fun c => '0' ≤ c && c ≤ '9') then none
        else
          let x : Int := valueIn 10 ds
          some (if negE then -x else x)
  some (valueIn 10 (whole ++ frac), scale - frac.length)

/-- Whether `cs` is the word `w` in any case. -/
def isWord (w : String) (cs : List Char) : Bool := cs.map Char.toLower == w.toList

/-- **Reads a double.** -/
def readFloat (text : String) : Except ReadRefusal Float := do
  let bad := ReadRefusal.notAFloat text
  let all := plainDigits text.toList
  if all.contains '\x00' || (all.contains '_' && !marksBetweenDigits all) then throw bad
  let cs := ((all.filter (· != '_')).dropWhile isAsciiBlank).reverse.dropWhile isAsciiBlank |>.reverse
  let (neg, body) := takeSign cs
  let sign (x : Float) : Float := if neg then -x else x
  match decimalParts? body with
  | some (m, e) => pure (sign (ofDecimal m e))
  | none =>
    if isWord "inf" body || isWord "infinity" body then pure (sign (1.0 / 0.0))
    else if isWord "nan" body then pure (0.0 / 0.0)
    else throw bad

/-- The refusal of a reading, if it failed. -/
def ReadRefusal.of? {α : Type} : Except ReadRefusal α → Option ReadRefusal
  | .error r => some r
  | .ok _ => none

example : (readInt 10 " 42 ").toOption = some 42 := by decide
example : (readInt 16 "0x_1F").toOption = some 31 ∧ (readInt 8 "0o17").toOption = some 15 := by decide
example : ReadRefusal.of? (readInt 2 "") = some (.notAnInt 2 "") := by decide
example : ReadRefusal.of? (readInt 8 "09") = some (.notAnInt 8 "09") := by decide
example : ReadRefusal.of? (readInt 10 "1__0") = some (.notAnInt 10 "1__0") := by decide
example : ReadRefusal.of? (readFloat "abc") = some (.notAFloat "abc") := by decide

end ApiAudit.Number
