import ApiAudit.Environment
import ApiAudit.Failure
import ApiAudit.Text.Blank

/-!
# Signature/Source — where API signatures come from

A signature source is a **bundled** set named by the engine (with an optional target version),
an **inline** text, or a **file**.  `Sources` collects them in declaration order:

* a bundled name is trimmed; a blank or repeated name is dropped; its version hint is kept
  trimmed when it is a non-blank text, and a missing hint is remembered (`missingHint`);
* an inline text is kept as written unless it is blank;
* a file path has `~` expanded and is made absolute; a repeated path is dropped.

A value of the wrong type is a fault: a name or text that cannot be trimmed, a path that is
no text.
-/

namespace ApiAudit

/-- A source of API signatures. -/
inductive Source where
  | bundled (name : String) (hint : Option String)
  | inline (text : String)
  | file (path : String)
  deriving Repr, DecidableEq

/-- Signature sources in declaration order. -/
structure Sources where
  items : List Source := []
  /-- Some bundled source was added without a version hint. -/
  missingHint : Bool := false
  deriving Repr

namespace Sources

/-- Whether a bundled name is already collected. -/
def hasBundled (s : Sources) (name : String) : Bool :=
  s.items.any fun
    | .bundled n _ => n == name
    | _ => false

/-- Whether a file path is already collected. -/
def hasFile (s : Sources) (path : String) : Bool :=
  s.items.any fun
    | .file p => p == path
    | _ => false

/-- **Adds a bundled source.** -/
def addBundled (s : Sources) (name hint : Value) : Except Fault Sources :=
  match name with
  | .str raw =>
    let n := Text.trim raw
    if n.isEmpty || s.hasBundled n then .ok s
    else
      let h := match hint with
        | .str t => if Text.isBlankText t then none else some (Text.trim t)
        | _ => none
      .ok { items := s.items ++ [.bundled n h], missingHint := s.missingHint || h.isNone }
  | v => .error (Fault.cannotTrim v)

/-- **Adds an inline source.** -/
def addInline (s : Sources) (text : Value) : Except Fault Sources :=
  match text with
  | .str t => if Text.isBlankText t then .ok s else .ok { s with items := s.items ++ [.inline t] }
  | v => .error (Fault.cannotTrim v)

/-- The path a signature file stands for: `~` expanded, made absolute. -/
def filePath (env : Environment) (p : String) : Except Fault String :=
  (env.expandUser p).map Path.absolute

/-- **Adds a file source.** -/
def addFile (s : Sources) (env : Environment) (path : Value) : Except Fault Sources :=
  match path with
  | .str p => do
    let full ← filePath env p
    pure (if s.hasFile full then s else { s with items := s.items ++ [.file full] })
  | v => .error (Fault.notAPath v)

end Sources

end ApiAudit
