import ApiAudit.Data.Timestamp

/-!
# Yaml/Tag — the standard tags, and the tag a plain scalar's text implies

Nodes carry tags of the form `tag:yaml.org,2002:name`.  A plain scalar without a tag, and any
scalar with the tag `!`, gets the first tag whose form its text has (one line break may follow
the form at the very end), in this order (the YAML 1.1 types):

* **bool** — `yes`, `no`, `true`, `false`, `on`, `off` in lower, capitalised or upper case;
* **float** — `1.5`, `1.`, `-.5e+3` (an exponent needs its sign), `1:30.5` (base 60),
  `.inf`, `-.Inf`, `.nan`; underscores may stand between digits;
* **int** — `0b1010`, `017` (octal), `-42`, `0x1F`, `1:30` (base 60), with underscores;
* **merge** — `<<`;
* **null** — `~`, `null`, `Null`, `NULL` and the empty text;
* **timestamp** — `2001-12-14`, or with a time `2001-12-14t21:59:43.10-05:00`;
* **value** — `=`;

and the text is a **str** otherwise.

`timestampFields?` reads the fields of a timestamp text.  A timestamp the constructor reads may write its month and day with
one digit, and may end in one line break.
-/

namespace ApiAudit.Yaml.Tag

/-- The prefix of the standard tags. -/
def standard (name : String) : String := "tag:yaml.org,2002:" ++ name

/-- ASCII digits. -/
def isDigit (c : Char) : Bool := '0' ≤ c && c ≤ '9'

/-- Digits and underscores. -/
def isDigitOrMark (c : Char) : Bool := isDigit c || c == '_'

/-- The text after an optional sign. -/
def dropSign : List Char → List Char
  | '-' :: r => r
  | '+' :: r => r
  | r => r

/-- After a digit and the digits and underscores that follow it, what remains. -/
def afterDigitRun : List Char → Option (List Char)
  | c :: r => if isDigit c then some (r.dropWhile isDigitOrMark) else none
  | [] => none

/-- An optional exponent with a sign, and nothing after it. -/
def isExponentEnd : List Char → Bool
  | [] => true
  | e :: s :: ds => (e == 'e' || e == 'E') && (s == '-' || s == '+') && !ds.isEmpty && ds.all isDigit
  | _ => false

/-- A base-60 place: one digit, or two with the first at most 5. -/
def isSexagesimalPlace : List Char → Bool
  | [d] => isDigit d
  | [a, d] => '0' ≤ a && a ≤ '5' && isDigit d
  | _ => false

/-- The parts of a text between colons. -/
def splitColons : List Char → List (List Char)
  | [] => [[]]
  | c :: rest =>
    match splitColons rest with
    | part :: parts => if c == ':' then [] :: part :: parts else (c :: part) :: parts
    | [] => [[c]]

/-- One or more `:place` groups, making up the whole text. -/
def isSexagesimalTail (cs : List Char) : Bool :=
  match cs with
  | ':' :: _ =>
    match splitColons cs with
    | _ :: places => !places.isEmpty && places.all isSexagesimalPlace
    | [] => false
  | _ => false

/-- The **bool** form. -/
def isBool (s : String) : Bool :=
  ["yes", "Yes", "YES", "no", "No", "NO", "true", "True", "TRUE", "false", "False", "FALSE",
    "on", "On", "ON", "off", "Off", "OFF"].contains s

/-- The **float** form. -/
def isFloat (s : String) : Bool :=
  let cs := s.toList
  let r := dropSign cs
  let decimal := match afterDigitRun r with
    | some ('.' :: rest) => isExponentEnd (rest.dropWhile isDigitOrMark)
    | _ => false
  let fraction := match cs with
    | '.' :: d :: rest => isDigit d && isExponentEnd (rest.dropWhile isDigitOrMark)
    | _ => false
  let sexagesimal := match afterDigitRun r with
    | some rest =>
      let groups := rest.takeWhile (· != '.')
      let after := rest.dropWhile (· != '.')
      match after with
      | '.' :: frac => isSexagesimalTail groups && frac.all isDigitOrMark
      | _ => false
    | none => false
  let infinite := [".inf", ".Inf", ".INF"].contains (String.ofList r)
  let notANumber := [".nan", ".NaN", ".NAN"].contains s
  decimal || fraction || sexagesimal || infinite || notANumber

/-- The **int** form. -/
def isInt (s : String) : Bool :=
  let r := dropSign s.toList
  match r with
  | ['0'] => true
  | '0' :: 'b' :: ds => !ds.isEmpty && ds.all (fun c => c == '0' || c == '1' || c == '_')
  | '0' :: 'x' :: ds => !ds.isEmpty && ds.all (fun c => isDigitOrMark c || ('a' ≤ c && c ≤ 'f') || ('A' ≤ c && c ≤ 'F'))
  | '0' :: ds => !ds.isEmpty && ds.all (fun c => ('0' ≤ c && c ≤ '7') || c == '_')
  | d :: ds =>
    '1' ≤ d && d ≤ '9' &&
      (ds.all isDigitOrMark || isSexagesimalTail (ds.dropWhile isDigitOrMark))
  | [] => false

/-- The **null** form. -/
def isNull (s : String) : Bool := ["~", "null", "Null", "NULL", ""].contains s

/-- `n` digits, and what follows them. -/
def digits? : Nat → List Char → Option (List Char)
  | 0, cs => some cs
  | n + 1, c :: cs => if isDigit c then digits? n cs else none
  | _ + 1, [] => none

/-- One or two digits, and what follows them. -/
def oneOrTwoDigits? (cs : List Char) : Option (List Char) :=
  match cs with
  | a :: b :: rest => if isDigit a then (if isDigit b then some rest else some (b :: rest)) else none
  | [a] => if isDigit a then some [] else none
  | [] => none

/-- An optional time zone, `Z` or `±h[h][:mm]`, after optional blanks, to the end. -/
def isZoneEnd (cs : List Char) : Bool :=
  match cs.dropWhile (fun c => c == ' ' || c == '\t') with
  | [] => cs.isEmpty
  | ['Z'] => true
  | s :: rest =>
    (s == '-' || s == '+') &&
      match oneOrTwoDigits? rest with
      | some [] => true
      | some (':' :: mm) => digits? 2 mm == some []
      | _ => false

/-- The **timestamp** form. -/
def isTimestamp (s : String) : Bool :=
  let cs := s.toList
  let dateOnly := match digits? 4 cs with
    | some ('-' :: r) =>
      match digits? 2 r with
      | some ('-' :: r') => digits? 2 r' == some []
      | _ => false
    | _ => false
  let full := match digits? 4 cs with
    | some ('-' :: r) =>
      match oneOrTwoDigits? r with
      | some ('-' :: r) =>
        match oneOrTwoDigits? r with
        | some (t :: r) =>
          let r := if t == 'T' || t == 't' then some r
            else if t == ' ' || t == '\t' then some (r.dropWhile (fun c => c == ' ' || c == '\t'))
            else none
          match r.bind oneOrTwoDigits? with
          | some (':' :: r) =>
            match digits? 2 r with
            | some (':' :: r) =>
              match digits? 2 r with
              | some r =>
                let r := match r with
                  | '.' :: f => f.dropWhile isDigit
                  | _ => r
                isZoneEnd r
              | none => false
            | _ => false
          | _ => false
        | _ => false
      | _ => false
    | _ => false
  dateOnly || full

/-- The tag a text of exactly one of the forms implies. -/
def impliedExact (s : String) : String :=
  if isBool s then standard "bool"
  else if isFloat s then standard "float"
  else if isInt s then standard "int"
  else if s == "<<" then standard "merge"
  else if isNull s then standard "null"
  else if isTimestamp s then standard "timestamp"
  else if s == "=" then standard "value"
  else standard "str"

/-- **The tag a scalar's text implies**: a form may be followed by one line break at the very
end (a text that is only a line break is a `str`). -/
def implied (s : String) : String :=
  match s.toList.reverse with
  | '\n' :: rest@(_ :: _) => impliedExact (String.ofList rest.reverse)
  | _ => impliedExact s

/-- The value of digits in a base. -/
def digitsIn (base : Nat) (cs : List Char) : Nat :=
  cs.foldl (fun n c =>
    let d := if isDigit c then c.toNat - '0'.toNat
      else if 'a' ≤ c && c ≤ 'f' then c.toNat - 'a'.toNat + 10
      else c.toNat - 'A'.toNat + 10
    base * n + d) 0

/-- One or two digits: their value, and what follows them. -/
def oneOrTwo? (cs : List Char) : Option (Nat × List Char) :=
  match cs with
  | a :: b :: rest =>
    if !isDigit a then none
    else if isDigit b then some (digitsIn 10 [a, b], rest)
    else some (digitsIn 10 [a], b :: rest)
  | [a] => if isDigit a then some (digitsIn 10 [a], []) else none
  | [] => none

/-- Exactly `n` digits: their value, and what follows them. -/
def exactly? (n : Nat) (cs : List Char) : Option (Nat × List Char) :=
  (digits? n cs).map fun rest => (digitsIn 10 (cs.take n), rest)

/-- The end of a timestamp text, where one line break may stand last. -/
def atEnd (cs : List Char) : Bool := cs.isEmpty || cs == ['\n']

/-- Blanks: spaces and tabs. -/
def isBlank (c : Char) : Bool := c == ' ' || c == '\t'

/-- One character, and what follows it. -/
def expect? (c : Char) : List Char → Option (List Char)
  | d :: rest => if c == d then some rest else none
  | [] => none

/-- The zone that ends a time, in seconds east of UTC: none written, `Z`, or a sign, one or
two digits of hours and optionally a colon and two digits of minutes, after optional blanks.
`none` when the rest has another form. -/
def zoneOffset? (cs : List Char) : Option (Option Int) :=
  if atEnd cs then some none
  else
    match cs.dropWhile isBlank with
    | 'Z' :: r => if atEnd r then some (some 0) else none
    | s :: r =>
      if s != '-' && s != '+' then none
      else do
        let (h, rest) ← oneOrTwo? r
        let m ← if atEnd rest then some 0
          else do
            let (m, tail) ← exactly? 2 (← expect? ':' rest)
            if atEnd tail then some m else none
        let o : Int := h * 3600 + m * 60
        some (some (if s == '-' then -o else o))
    | [] => none

/-- **The fields of a timestamp text**: the year, month and day, then optionally the time of
day after `T`, `t` or blanks, with a fraction of a second (its first six digits) and a zone.
The fields are not checked against the calendar. -/
def timestampFields? (s : String) : Option Timestamp := do
  let (year, r) ← exactly? 4 s.toList
  let (month, r) ← oneOrTwo? (← expect? '-' r)
  let (day, r) ← oneOrTwo? (← expect? '-' r)
  if atEnd r then return ⟨year, month, day, none⟩
  let r ← match r with
    | t :: rest =>
      if t == 'T' || t == 't' then some rest
      else if isBlank t then some (rest.dropWhile isBlank)
      else none
    | [] => none
  let (hour, r) ← oneOrTwo? r
  let (minute, r) ← exactly? 2 (← expect? ':' r)
  let (second, r) ← exactly? 2 (← expect? ':' r)
  let (micro, r) := match r with
    | '.' :: f =>
      let ds := (f.takeWhile isDigit)
      (digitsIn 10 (ds.take 6 ++ List.replicate (6 - ds.length) '0'), f.drop ds.length)
    | _ => (0, r)
  let offset ← zoneOffset? r
  return ⟨year, month, day, some ⟨hour, minute, second, micro, offset⟩⟩

example : implied "011" = standard "int" ∧ implied "12\n" = standard "int" := by decide +kernel
example : implied "1.10" = standard "float" ∧ implied "1:30" = standard "int" := by decide +kernel
example : implied "yes" = standard "bool" ∧ implied "" = standard "null" := by decide +kernel
example : implied "2001-12-14" = standard "timestamp" ∧ implied "1e3" = standard "str" := by decide +kernel
example : implied "\n" = standard "str" ∧ implied "true\n" = standard "bool" := by decide +kernel
example : timestampFields? "2001-12-14t21:59:43.10-05:00" =
    some ⟨2001, 12, 14, some ⟨21, 59, 43, 100000, some (-18000)⟩⟩ := by decide +kernel
example : timestampFields? "2001-1-2" = some ⟨2001, 1, 2, none⟩ ∧
    timestampFields? "2001-12-14 21:59:43 " = none := by decide +kernel

end ApiAudit.Yaml.Tag
