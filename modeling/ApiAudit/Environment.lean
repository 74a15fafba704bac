import ApiAudit.Path
import ApiAudit.Failure
import ApiAudit.Text.Utf8

/-!
# Environment — variables, and the expansion of `~` and `$NAME` in paths

The environment of a request holds `HOME=/work/home` and the variables the request adds
(a later binding of a name wins).

* `Environment.expandUser` — a leading `~` alone or before a slash stands for `HOME` (its
  trailing slashes dropped; an empty result is `/`).  `~name` names the home of a system user
  (`userHome?`); the name of no user stays as written.
* `Environment.expandVars` — `$NAME` (letters, digits, `_`) and `${NAME}` (anything but `}`)
  stand for the variable's value when it is set and stay as written otherwise.  The value is not
  expanded again.

A name looked up is first written as a file-system name (`Text.nameRefusal?`): one holding a
lone surrogate that carries no byte fails with a `UnicodeEncodeError`, and a user name holding a
NUL character fails with `embedded null byte`.
-/

namespace ApiAudit

/-- The variables of a request, in binding order. -/
structure Environment where
  vars : List (String × String)
  deriving Repr, Inhabited

namespace Environment

/-- The environment of every request before its own variables. -/
def base : Environment := ⟨[("HOME", "/work/home")]⟩

/-- Binds more variables; later bindings win. -/
def extend (env : Environment) (more : List (String × String)) : Environment :=
  ⟨env.vars ++ more⟩

/-- The value of a variable. -/
def get? (env : Environment) (name : String) : Option String :=
  (env.vars.reverse.find? (·.1 == name)).map (·.2)

/-- The home directories of the system's users. -/
def userHomes : List (String × String) :=
  [("root", "/root"), ("daemon", "/usr/sbin"), ("bin", "/bin"), ("sys", "/dev"), ("sync", "/bin"),
   ("games", "/usr/games"), ("man", "/var/cache/man"), ("lp", "/var/spool/lpd"),
   ("mail", "/var/mail"), ("news", "/var/spool/news"), ("uucp", "/var/spool/uucp"),
   ("proxy", "/bin"), ("www-data", "/var/www"), ("backup", "/var/backups"),
   ("list", "/var/list"), ("irc", "/run/ircd"), ("_apt", "/nonexistent"),
   ("nobody", "/nonexistent")]

/-- The fault of a name that cannot be written as a file-system name. -/
def nameFault? (name : String) : Option Fault :=
  (Text.nameRefusal? name).map fun r => ⟨.unicodeEncode, r.message⟩

/-- **The home directory of a user**, if the name is a user's; a name that cannot be looked up
is a fault. -/
def userHome? (name : String) : Except Fault (Option String) :=
  match nameFault? name with
  | some f => .error f
  | none =>
    if name.toList.contains '\x00' then .error ⟨.value, "embedded null byte"⟩
    else .ok ((userHomes.find? (·.1 == name)).map (·.2))

/-- **Home expansion** of a leading `~`. -/
def expandUser (env : Environment) (s : String) : Except Fault String :=
  match s.toList with
  | '~' :: rest => do
    let (name, tail) := rest.span (· ≠ '/')
    let home ← if name.isEmpty then pure (env.get? "HOME") else userHome? (String.ofList name)
    match home with
    | some home =>
      let h := String.ofList (home.toList.reverse.dropWhile (· = '/')).reverse
      let out := h ++ String.ofList tail
      pure (if out.isEmpty then "/" else out)
    | none => pure s
  | _ => pure s

/-- Name characters of `$NAME`: ASCII letters, digits and `_`. -/
def isNameChar (c : Char) : Bool := c.isAlphanum || c == '_'

/-- The value of a variable named in a path; a name that cannot be written is a fault. -/
def lookupName (env : Environment) (name : List Char) : Except Fault (Option String) :=
  let n := String.ofList name
  match nameFault? n with
  | some f => .error f
  | none => .ok (env.get? n)

/-- Expands variables in `cs`; `acc` holds the output so far, reversed.  Every step reads at
least one character, so `fuel` at the length of the text suffices. -/
def expandVarsAux (env : Environment) : Nat → List Char → List Char → Except Fault (List Char)
  | 0, cs, acc => .ok (acc.reverse ++ cs)
  | _, [], acc => .ok acc.reverse
  | fuel + 1, '$' :: rest, acc =>
    match rest with
    | '{' :: inner =>
      match inner.span (· ≠ '}') with
      | (name, '}' :: after) => do
        match ← env.lookupName name with
        | some v => expandVarsAux env fuel after (v.toList.reverse ++ acc)
        | none => expandVarsAux env fuel after ('}' :: name.reverse ++ '{' :: '$' :: acc)
      | _ => expandVarsAux env fuel rest ('$' :: acc)
    | _ =>
      let (name, after) := rest.span isNameChar
      if name.isEmpty then expandVarsAux env fuel rest ('$' :: acc)
      else
        match env.get? (String.ofList name) with
        | some v => expandVarsAux env fuel after (v.toList.reverse ++ acc)
        | none => expandVarsAux env fuel after (name.reverse ++ '$' :: acc)
  | fuel + 1, c :: rest, acc => expandVarsAux env fuel rest (c :: acc)

/-- **Variable expansion** of `$NAME` and `${NAME}`. -/
def expandVars (env : Environment) (s : String) : Except Fault String :=
  (expandVarsAux env s.length s.toList []).map String.ofList

example : (base.expandVars "$HOME/x${HOME}$NOPE${}$").toOption =
    some "/work/home/x/work/home$NOPE${}$" := by
  decide
example : (base.expandUser "~/c").toOption = some "/work/home/c" := by decide
example : (base.expandUser "~bob/c").toOption = some "~bob/c" := by decide
example : (base.expandUser "~root/c").toOption = some "/root/c" := by decide

end Environment

end ApiAudit
