import ApiAudit.Schema.Pattern
import ApiAudit.Data.Value.Text

/-!
# Schema/Basic — schemas and the errors an instance has against them

A schema is a list of **keywords**, checked in order; each keyword looks at the instance and
reports errors, descending into parts of the instance with sub-schemas.  Every error is placed
at the path of the part it concerns (property names and item positions), and errors are
reported sorted by path, errors at one path in the order they were found (`Schema.errors`).

The keywords and their messages (`r` is the instance's literal form):

* `type` — `r is not of type 'string', 'null'`;
* `closed` — properties outside `properties` are refused:
  `Additional properties are not allowed ('a', 'b' were unexpected)`, names sorted;
* `additional s` — properties outside `properties` must satisfy `s`;
* `properties`, `items` — present properties and every item satisfy their schemas;
* `required` — `'x' is a required property`, for each missing name in order;
* `minLength`, `minProperties` — `r should be non-empty` (for a minimum of one);
* `propertyNames` — every property name satisfies a schema, errors placed at the object;
* `pattern` — `r does not match 'source'`;
* `enum` — `r is not one of [...]`;
* `ref` — the named schema applies to the same instance.

Checks only apply to instances of the kind they are about; a text pattern ignores numbers.  An
instance that holds itself is looked into one level at a time (`Value.unfold`).  An error whose
message would show a whole number too long to be written, or whose path passes through a key
that is such a number, is marked `unshown`.
-/

namespace ApiAudit.Schema

/-- The kinds of instances a schema can ask for. -/
inductive JsonType where
  | object
  | array
  | string
  | boolean
  | null
  | number
  deriving DecidableEq, Repr

/-- The name of a kind. -/
def JsonType.name : JsonType → String
  | .object => "object"
  | .array => "array"
  | .string => "string"
  | .boolean => "boolean"
  | .null => "null"
  | .number => "number"

/-- Whether a value is of a kind. -/
def JsonType.admits : JsonType → Value → Bool
  | .object, .dict _ => true
  | .array, .list _ => true
  | .string, .str _ => true
  | .boolean, .bool _ => true
  | .null, .null => true
  | .number, .int _ => true
  | .number, .float _ => true
  | _, _ => false

/-- One keyword of a schema. -/
inductive Keyword where
  | type (kinds : List JsonType)
  | closed
  | additional (s : List Keyword)
  | properties (ps : List (String × List Keyword))
  | required (names : List String)
  | minLength (n : Nat)
  | minProperties (n : Nat)
  | propertyNames (s : List Keyword)
  | items (s : List Keyword)
  | pattern (p : Pattern)
  | enum (texts : List String)
  | ref (name : String)

end ApiAudit.Schema

/-- A schema: its keywords in order. -/
abbrev ApiAudit.Schema := List ApiAudit.Schema.Keyword

namespace ApiAudit.Schema

/-- An error of an instance, at a path; `unshown` when its message or its path would show a
whole number too long to be written. -/
structure SchemaError where
  path : List String
  message : String
  unshown : Bool := false
  deriving DecidableEq, Repr

/-- **The text of an error**: `path: message`, or the message alone at the root. -/
def SchemaError.render (e : SchemaError) : String :=
  let place := "/".intercalate e.path
  if e.path.isEmpty then e.message else s!"{place}: {e.message}"

/-- The names a schema's `properties` keywords declare. -/
def declared (s : Schema) : List String :=
  s.flatMap fun
    | .properties ps => ps.map (·.1)
    | _ => []

/-- The entries of an object whose keys a schema does not declare, in the object's order. -/
def undeclaredEntries (s : Schema) (entries : List (Value × Value)) : List (Value × Value) :=
  entries.filter fun e => !(declared s).any fun n => Value.sameKey (.str n) e.1

/-- The keys of an object that a schema does not declare, in the object's order. -/
def undeclared (s : Schema) (entries : List (Value × Value)) : List Value :=
  (undeclaredEntries s entries).map (·.1)

/-- Whether one text comes before another, by code points. -/
def textLt (a b : String) : Bool := decide (a < b)

/-- The message about refused properties. -/
def refusedMessage (keys : List Value) : String :=
  let sorted := keys.mergeSort fun a b => !textLt b.text a.text
  let verb := if sorted.length == 1 then "was" else "were"
  let names := ", ".intercalate (sorted.map Value.literal)
  s!"Additional properties are not allowed ({names} {verb} unexpected)"

/-- The message of a too small instance. -/
def tooSmall (v : Value) (n : Nat) (other : String) : String :=
  let what := if n == 1 then "should be non-empty" else other
  s!"{v.literal} {what}"

/-- The errors of one value against a schema, unsorted; `fuel` bounds the nesting of schemas. -/
def check (resolve : String → Option Schema) : Nat → Schema → Value → List String → List SchemaError
  | 0, _, _, _ => []
  | fuel + 1, s, v, path =>
    s.flatMap fun kw =>
      match kw, v.unfold with
      | .type kinds, _ =>
        if kinds.any (·.admits v.unfold) then []
        else
          let names := ", ".intercalate (kinds.map fun k => (Value.str k.name).literal)
          [⟨path, s!"{v.literal} is not of type {names}", v.hasLongInt⟩]
      | .closed, .dict es =>
        match undeclared s es with
        | [] => []
        | keys => [⟨path, refusedMessage keys, keys.any Value.hasLongInt⟩]
      | .additional sub, .dict es =>
        (undeclaredEntries s es).flatMap fun (k, x) =>
          (check resolve fuel sub x (path ++ [k.text])).map fun e =>
            { e with unshown := e.unshown || k.hasLongInt }
      | .properties ps, .dict es =>
        ps.flatMap fun (name, sub) =>
          match Value.lookup es (.str name) with
          | some x => check resolve fuel sub x (path ++ [name])
          | none => []
      | .required names, .dict es =>
        names.filterMap fun n =>
          if (Value.lookup es (.str n)).isSome then none
          else some ⟨path, s!"{(Value.str n).literal} is a required property", false⟩
      | .minLength n, .str t => if t.length < n then [⟨path, tooSmall v n "is too short", v.hasLongInt⟩] else []
      | .minProperties n, .dict es =>
        if es.length < n then [⟨path, tooSmall v n "does not have enough properties", v.hasLongInt⟩] else []
      | .propertyNames sub, .dict es => es.flatMap fun (k, _) => check resolve fuel sub k path
      | .items sub, .list xs =>
        (List.range xs.length).zip xs |>.flatMap fun (i, x) => check resolve fuel sub x (path ++ [toString i])
      | .pattern p, .str t =>
        if p.matches t then [] else [⟨path, s!"{v.literal} does not match {(Value.str p.source).literal}", false⟩]
      | .enum texts, _ =>
        match v with
        | .str t =>
          if texts.contains t then [] else [⟨path, s!"{v.literal} is not one of {(Value.strs texts).literal}", false⟩]
        | _ => [⟨path, s!"{v.literal} is not one of {(Value.strs texts).literal}", v.hasLongInt⟩]
      | .ref name, _ =>
        match resolve name with
        | some sub => check resolve fuel sub v path
        | none => []
      | _, _ => []

/-- Whether one path comes before another: item by item, a prefix first. -/
def pathLt : List String → List String → Bool
  | [], [] => false
  | [], _ :: _ => true
  | _ :: _, [] => false
  | a :: as, b :: bs => textLt a b || (a == b && pathLt as bs)

/-- How deeply schemas may nest, references included. -/
def maxNesting : Nat := 64

/-- **The errors of a value against a schema**, sorted by path. -/
def errors (resolve : String → Option Schema) (s : Schema) (v : Value) : List SchemaError :=
  (check resolve maxNesting s v []).mergeSort fun a b => !pathLt b.path a.path

end ApiAudit.Schema
