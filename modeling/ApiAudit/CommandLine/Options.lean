import ApiAudit.Text.WordChar
/-!
# CommandLine/Options — reading options from an argument list

An option table lists options by their spellings (`-d`, `--dir`), what each does with its
occurrences (`Action`) and whether it must occur.  Reading an argument list goes in two passes.

**Classifying** each argument: after a lone `--` every argument is a plain value; an argument
that does not start with `-`, is empty or is `-` alone is a value; a spelling of the table is
that option; `--name=value` gives a value to `--name`; otherwise every spelling that the
argument (before any `=`) starts is a candidate, a short `-x` also matching `-xrest` with the
attached value `rest`.  Two candidates make the argument ambiguous, which is an error; a
negative number or an argument with a blank is a value; anything else is an unknown option.

**Consuming** the classified arguments from left to right: a value option takes its attached
value or else the next argument, which must be a plain value; a short switch with an attached
text `-vxyz` is the switch `-v` followed by `-xyz` (`-xyz` is left over when `-x` is no option,
and an attached text after `=` or starting with `-` is an error).  Help and version requests end
the reading with success when they are consumed.  At the end a required option that never
occurred, or any argument left over, is an error.

Errors and requests end the reading with an exit code: 2 for an error, 0 for help or version.
-/

namespace ApiAudit.CommandLine

/-- What an option does with its occurrences. -/
inductive Action where
  /-- Sets a switch. -/
  | switch
  /-- Keeps the last value given. -/
  | store
  /-- Collects every value given, in order. -/
  | collect
  /-- Asks for help: reading ends with success. -/
  | help
  /-- Asks for the version: reading ends with success. -/
  | version
  deriving DecidableEq, Repr

/-- Whether an option takes a value. -/
def Action.takesValue : Action → Bool
  | .store | .collect => true
  | _ => false

/-- One option of a table. -/
structure OptionSpec where
  /-- The spellings, in the order the table declares them. -/
  names : List String
  /-- The key its values are found under. -/
  key : String
  action : Action
  required : Bool := false
  deriving Repr

/-- An argument after classification. -/
inductive Piece where
  /-- A plain value. -/
  | value (text : String)
  /-- The marker after which every argument is a value. -/
  | marker
  /-- An option (`none` when no option of the table is meant), the spelling used, whether a
  value was attached after `=`, and the attached value. -/
  | option (spec : Option OptionSpec) (spelling : String) (byEquals : Bool) (attached : Option String)
  deriving Repr

/-- What reading found: the switches set and the values given, by key, in order. -/
structure Found where
  switches : List String := []
  values : List (String × String) := []
  deriving Repr

/-- The outcome of reading an argument list. -/
inductive Reading where
  | found (f : Found)
  | exit (code : Nat)
  deriving Repr

namespace Found

/-- Whether a switch was set. -/
def isSet (f : Found) (key : String) : Bool := f.switches.contains key

/-- Every value given under a key, in order. -/
def all (f : Found) (key : String) : List String := (f.values.filter (·.1 == key)).map (·.2)

/-- The last value given under a key. -/
def last? (f : Found) (key : String) : Option String := (f.all key).getLast?

end Found

/-- Every spelling of a table with its option, in declaration order. -/
def spellings (table : List OptionSpec) : List (String × OptionSpec) :=
  table.flatMap fun o => o.names.map (·, o)

/-- The option a spelling names exactly. -/
def named? (table : List OptionSpec) (s : String) : Option OptionSpec :=
  ((spellings table).find? (·.1 == s)).map (·.2)

/-- Cuts a text at its first `=`. -/
def cutAtEquals : List Char → Option (List Char × List Char)
  | [] => none
  | '=' :: rest => some ([], rest)
  | c :: rest => (cutAtEquals rest).map fun (a, b) => (c :: a, b)

/-- Whether a text is a negative number: `-` then decimal digits of any script, or such digits
around one point with digits after it; one line feed may end it. -/
def isNegativeNumber (cs : List Char) : Bool :=
  match cs with
  | '-' :: rest =>
    let body := if rest.getLast? == some '\n' then rest.dropLast else rest
    let digits := body.takeWhile Text.isDecimal
    let after := body.drop digits.length
    match after with
    | [] => !digits.isEmpty
    | '.' :: frac => !frac.isEmpty && frac.all Text.isDecimal
    | _ => false
  | _ => false

/-- The candidates an argument that starts with `-` may mean: the option, its spelling, whether
a value follows `=`, and the attached value. -/
def candidates (table : List OptionSpec) (arg : List Char) :
    List (OptionSpec × String × Bool × Option String) :=
  match arg with
  | '-' :: '-' :: _ =>
    let (pre, byEquals, attached) := match cutAtEquals arg with
      | some (a, b) => (a, true, some (String.ofList b))
      | none => (arg, false, none)
    (spellings table).filterMap fun (s, o) =>
      if pre.isPrefixOf s.toList then some (o, s, byEquals, attached) else none
  | '-' :: c :: rest =>
    (spellings table).filterMap fun (s, o) =>
      if s.toList == ['-', c] then some (o, s, false, some (String.ofList rest))
      else if arg.isPrefixOf s.toList then some (o, s, false, none)
      else none
  | _ => []

/-- **Classifies one argument**; `none` when it is ambiguous. -/
def classify (table : List OptionSpec) (arg : String) : Option Piece :=
  let cs := arg.toList
  match cs with
  | [] => some (.value arg)
  | c :: _ =>
    if c != '-' then some (.value arg)
    else match named? table arg with
      | some o => some (.option (some o) arg false none)
      | none =>
        if cs.length == 1 then some (.value arg)
        else
          let byEquals := (cutAtEquals cs).bind fun (a, b) =>
            (named? table (String.ofList a)).map fun o =>
              Piece.option (some o) (String.ofList a) true (some (String.ofList b))
          match byEquals with
          | some p => some p
          | none =>
            match candidates table cs with
            | [] =>
              if isNegativeNumber cs || cs.contains ' ' then some (.value arg)
              else some (.option none arg false none)
            | [(o, s, byEquals, attached)] => some (.option (some o) s byEquals attached)
            | _ :: _ :: _ => none

/-- **Classifies an argument list**: everything after the first `--` is a value. -/
def classifyAll (table : List OptionSpec) : List String → Option (List Piece)
  | [] => some []
  | "--" :: rest => some (.marker :: rest.map .value)
  | arg :: rest => do
    let p ← classify table arg
    let ps ← classifyAll table rest
    pure (p :: ps)

/-- The state of consuming: what was found, which keys occurred, whether anything was left
over. -/
structure Progress where
  found : Found := {}
  seen : List String := []
  leftover : Bool := false

/-- Records one occurrence of an option; help and version end the reading. -/
def Progress.take (p : Progress) (o : OptionSpec) (value : Option String) : Except Nat Progress :=
  let p := { p with seen := p.seen ++ [o.key] }
  match o.action, value with
  | .help, _ | .version, _ => .error 0
  | .switch, _ => .ok { p with found := { p.found with switches := p.found.switches ++ [o.key] } }
  | _, some v => .ok { p with found := { p.found with values := p.found.values ++ [(o.key, v)] } }
  | _, none => .error 2

/-- The options a run of short options in one argument stands for (`-vxyz` is `-v` then
`-xyz`), and whether text was left over because a letter names no option.  An attached text
after `=`, or one that starts with `-`, cannot follow a switch.  `fuel` bounds the expansion by
the text's length. -/
def expandCluster (table : List OptionSpec) : Nat → OptionSpec → String → Bool → Option String →
    Except Nat (List (OptionSpec × Option String) × Bool)
  | 0, _, _, _, _ => .error 2
  | fuel + 1, o, spelling, byEquals, attached =>
    match attached with
    | none => .ok ([(o, none)], false)
    | some text =>
      if o.action.takesValue then .ok ([(o, some text)], false)
      else
        match spelling.toList, text.toList with
        | ['-', _], t :: rest =>
          if byEquals || t == '-' then .error 2
          else
            match named? table (String.ofList ['-', t]) with
            | some next =>
              let (eq, more) : Bool × Option String := match rest with
                | [] => (false, none)
                | '=' :: r => (true, some (String.ofList r))
                | r => (false, some (String.ofList r))
              (expandCluster table fuel next (String.ofList ['-', t]) eq more).map
                fun (os, left) => ((o, none) :: os, left)
            | none => .ok ([(o, none)], true)
        | _, _ => .error 2

/-- Records a run of occurrences. -/
def Progress.takeAll (p : Progress) : List (OptionSpec × Option String) → Except Nat Progress
  | [] => .ok p
  | (o, v) :: rest => do
    let p ← p.take o v
    p.takeAll rest

/-- **Consumes classified arguments** from left to right. -/
def consume (table : List OptionSpec) : List Piece → Progress → Except Nat Progress
  | [], p => .ok p
  | .value _ :: rest, p => consume table rest { p with leftover := true }
  | .marker :: rest, p => consume table rest { p with leftover := true }
  | .option none _ _ _ :: rest, p => consume table rest { p with leftover := true }
  | .option (some o) spelling byEquals attached :: rest, p =>
    match attached with
    | some _ => do
      let (occurrences, left) ← expandCluster table
        (spelling.length + (attached.map String.length).getD 0) o spelling byEquals attached
      let p := if left then { p with leftover := true } else p
      -- the last option of a run may still take the next argument
      match occurrences.getLast? with
      | some (last, none) =>
        if last.action.takesValue then
          match rest with
          | .value v :: more => do
            let p ← p.takeAll (occurrences.dropLast ++ [(last, some v)])
            consume table more p
          | _ => .error 2
        else do
          let p ← p.takeAll occurrences
          consume table rest p
      | _ => do
        let p ← p.takeAll occurrences
        consume table rest p
    | none =>
      if o.action.takesValue then
        match rest with
        | .value v :: more => do
          let p ← p.take o (some v)
          consume table more p
        | _ => .error 2
      else do
        let p ← p.take o none
        consume table rest p

/-- **Reads an argument list** against an option table. -/
def read (table : List OptionSpec) (args : List String) : Reading :=
  match classifyAll table args with
  | none => .exit 2
  | some pieces =>
    match consume table pieces {} with
    | .error code => .exit code
    | .ok p =>
      if table.any (fun o => o.required && !p.seen.contains o.key) || p.leftover then .exit 2
      else .found p.found

end ApiAudit.CommandLine
