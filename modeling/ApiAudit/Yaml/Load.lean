import ApiAudit.Yaml.Scalar
import ApiAudit.Data.Value.Hash
import ApiAudit.Failure

/-!
# Yaml/Load — a YAML text as a value

`load` reads the single document of a text and turns its nodes into values by their tags:
scalars as `Yaml/Scalar` says, `seq` sequences as lists, `map` mappings as dictionaries, `set`
mappings as sets of their keys (numbers in the order a hash table keeps them,
`Value.setOrder`), and `omap` and `pairs` sequences of one-pair mappings as lists of pairs.  A
text without a document is null.

* A mapping's **merge keys** (`<<`) are replaced by the pairs of the mapping they name (or of
  each mapping of the list they name, the first one winning); the mapping's own pairs come
  after and win.  A merge of anything else is an error.
* Keys follow the rules of dictionaries: a later pair replaces an earlier one with an equal key
  (`1`, `1.0` and `true` are equal), and a sequence or mapping cannot be a key.
* A node of a kind its tag does not fit, or with a tag no value is built for, is an error.
  Values are built level by level: a sequence or mapping is made empty when it is met and
  filled once the level holding it is done, so the first error is the first one of the
  shallowest level that has one (`Node.firstError`).
* A sequence or mapping that holds itself through an alias is a `cycle`, named by where the
  node starts, whose `back` parts stand for the whole.

Before reading, the text must hold printable characters only: tab, line feed, carriage return,
the printable ASCII range, `NEL`, and the Unicode ranges outside the surrogates and the two
non-characters at the end of the basic plane.  A lone surrogate is refused by its unit.
-/

namespace ApiAudit.Yaml

/-- Whether a character may stand in a YAML text. -/
def isAcceptable (c : Char) : Bool :=
  let n := c.toNat
  !Text.isStandIn c &&
    (n == 0x09 || n == 0x0A || n == 0x0D || (0x20 ≤ n && n ≤ 0x7E) || n == 0x85 ||
      (0xA0 ≤ n && n ≤ 0xD7FF) || (0xE000 ≤ n && n ≤ 0xFFFD) || (0x10000 ≤ n && n ≤ 0x10FFFF))

/-- The first character that may not stand in a YAML text, with its index. -/
def firstUnacceptable (text : String) : Option (Char × Nat) :=
  let indexed := text.toList.zipIdx
  (indexed.find? (fun (c, _) => !isAcceptable c))

/-- **Replaces merge keys** of a mapping starting at `start` by the pairs they name. -/
def flattenPairs : Nat → Mark → List (Node × Node) → Except Error (List (Node × Node))
  | 0, _, pairs => .ok pairs
  | fuel + 1, start, pairs => do
    let ctx := some "while constructing a mapping"
    let mut merged : List (Node × Node) := []
    let mut own : List (Node × Node) := []
    for (k, v) in pairs do
      if k.tag == Tag.standard "merge" then
        match v with
        | .mapping _ ps vstart =>
          let flat ← flattenPairs fuel vstart ps
          merged := merged ++ flat
        | .sequence _ items _ =>
          let mut parts : List (List (Node × Node)) := []
          for item in items do
            match item with
            | .mapping _ ps istart =>
              let flat ← flattenPairs fuel istart ps
              parts := parts ++ [flat]
            | .back _ true _ => pure ()
            | other =>
              constructError ctx (some start)
                s!"expected a mapping for merging, but found {other.kindName}" other.start
          for part in parts.reverse do
            merged := merged ++ part
        | .back .. => pure ()
        | other =>
          constructError ctx (some start)
            s!"expected a mapping or list of mappings for merging, but found {other.kindName}"
            other.start
      else if k.tag == Tag.standard "value" then
        own := own ++ [(k.retag (Tag.standard "str"), v)]
      else own := own ++ [(k, v)]
    pure (merged ++ own)

/-- The kinds of collections a node's value can be. -/
inductive Collection where
  | seq
  | map
  | set
  | omap
  | pairs
  deriving DecidableEq, Repr

/-- The collection a tag builds, if it builds one. -/
def Collection.ofTag? (tag : String) : Option Collection :=
  if tag == Tag.standard "seq" then some .seq
  else if tag == Tag.standard "map" then some .map
  else if tag == Tag.standard "set" then some .set
  else if tag == Tag.standard "omap" then some .omap
  else if tag == Tag.standard "pairs" then some .pairs
  else none

/-- What an ordered collection of pairs is called in its errors. -/
def Collection.context : Collection → String
  | .omap => "while constructing an ordered map"
  | _ => "while constructing pairs"

/-- The error of a node of no known tag. -/
def undefinedTag {α : Type} (n : Node) : Except Error α :=
  constructError none none s!"could not determine a constructor for the tag {Text.quote n.tag}" n.start

/-- The error of a node whose kind does not fit its tag. -/
def kindError {α : Type} (what : String) (n : Node) : Except Error α :=
  constructError none none s!"expected a {what} node, but found {n.kindName}" n.start

/-- What beginning to build a node's value gives. -/
inductive Begun where
  /-- A scalar, built at once. -/
  | scalar
  /-- A collection, made empty now and filled later. -/
  | later (n : Node) (c : Collection)
  /-- A collection holding this very node, begun already. -/
  | enclosing

/-- Whether a begun value may be a mapping key: collections may not. -/
def Begun.isHashable : Begun → Bool
  | .scalar => true
  | _ => false

/-- The collection left to fill, if any. -/
def Begun.pending : Begun → List (Node × Collection)
  | .later n c => [(n, c)]
  | _ => []

/-- **Begins building a node's value**: a scalar is built at once, a collection is made empty
and left for a later round, a node of no known tag is an error. -/
def Node.begin (fuel : Nat) (n : Node) : Except Error Begun :=
  match n with
  | .back .. => .ok .enclosing
  | _ =>
    match Collection.ofTag? n.tag with
    | some c => .ok (.later n c)
    | none =>
      if isScalarTag n.tag then (scalarValue fuel n.tag n).map fun _ => .scalar
      else undefinedTag n

/-- Begins the key and the value of each pair in order; a key that is a collection is refused
at once, before anything inside it is built. -/
def beginPairs (fuel : Nat) (start : Mark) (pairs : List (Node × Node)) :
    Except Error (List (Node × Collection)) :=
  pairs.foldlM (fun acc (k, v) => do
    let kb ← k.begin fuel
    if !kb.isHashable then
      constructError (some "while constructing a mapping") (some start) "found unhashable key" k.start
    let vb ← v.begin fuel
    return acc ++ vb.pending) []

/-- The single pair of each item of an ordered collection of pairs. -/
def singlePairs (c : Collection) (start : Mark) (items : List Node) :
    Except Error (List (Node × Node)) :=
  items.foldlM (fun acc item =>
    match item with
    | .mapping _ [p] _ => .ok (acc ++ [p])
    | .mapping _ ps istart =>
      constructError (some c.context) (some start)
        s!"expected a single mapping item, but found {ps.length} items" istart
    | .back _ true _ => .ok acc
    | other =>
      constructError (some c.context) (some start)
        s!"expected a mapping of length 1, but found {other.kindName}" other.start) []

/-- **Fills a collection** begun in an earlier round: its parts are begun in order, and the
collections among them are left for the next round. -/
def Node.fill (fuel : Nat) (n : Node) (c : Collection) : Except Error (List (Node × Collection)) :=
  match c, n with
  | .seq, .sequence _ items _ =>
    items.foldlM (fun acc i => return acc ++ (← i.begin fuel).pending) []
  | .seq, _ => kindError "sequence" n
  | .map, .mapping _ pairs start | .set, .mapping _ pairs start => do
    beginPairs fuel start (← flattenPairs fuel start pairs)
  | .map, _ | .set, _ => kindError "mapping" n
  | .omap, .sequence _ items start | .pairs, .sequence _ items start => do
    let pairs ← singlePairs c start items
    pairs.foldlM (fun acc (k, v) => do
      let kb ← k.begin fuel
      let vb ← v.begin fuel
      return acc ++ kb.pending ++ vb.pending) []
  | _, _ =>
    constructError (some c.context) (some n.start) s!"expected a sequence, but found {n.kindName}"
      n.start

/-- Fills the collections of one round after another; `fuel` bounds the rounds. -/
def fillRounds : Nat → List (Node × Collection) → Except Error Unit
  | 0, _ => .ok ()
  | _, [] => .ok ()
  | fuel + 1, pending => do
    let next ← pending.foldlM (fun acc (n, c) => return acc ++ (← n.fill fuel c)) []
    fillRounds fuel next

/-- **The first error of building a document's value**, in the order values are built: level by
level, each level in the order written. -/
def Node.firstError (fuel : Nat) (root : Node) : Except Error Unit := do
  fillRounds fuel (← root.begin fuel).pending

/-- The keys of dictionary entries. -/
def keysOf (entries : List (Value × Value)) : List Value := entries.map (·.1)

/-- **The value of a node**; `fuel` bounds the nesting.  A collection that holds itself becomes
a `cycle` named by where it starts. -/
def Node.toValue : Nat → Node → Except Error Value
  | 0, _ => .ok .null
  | fuel + 1, n =>
    match n with
    | .back _ _ start => .ok (.back start.index)
    | _ =>
      match Collection.ofTag? n.tag with
      | none => if isScalarTag n.tag then scalarValue fuel n.tag n else undefinedTag n
      | some c => do
        let entriesOf (pairs : List (Node × Node)) : Except Error (List (Value × Value)) :=
          pairs.foldlM (fun acc (k, v) => do
            let key ← Node.toValue fuel k
            let value ← Node.toValue fuel v
            return Value.putEntry acc key value) []
        let body ← match c, n with
          | .seq, .sequence _ items _ => do
            pure <| Value.list (← items.mapM (Node.toValue fuel))
          | .map, .mapping _ pairs start => do
            pure <| Value.dict (← entriesOf (← flattenPairs fuel start pairs))
          | .set, .mapping _ pairs start => do
            pure <| Value.set (Value.setOrder (keysOf (← entriesOf (← flattenPairs fuel start pairs))))
          | .omap, .sequence _ items start | .pairs, .sequence _ items start => do
            let pairs ← singlePairs c start items
            let tuples ← pairs.mapM fun (k, v) => do
              pure <| Value.tuple [← Node.toValue fuel k, ← Node.toValue fuel v]
            pure <| Value.list tuples
          | _, _ => kindError "collection" n
        let id := n.start.index
        pure (if body.refersTo id then .cycle id body else body)

/-- **Loads a YAML text** as a value. -/
def load (text : String) : Except Error Value :=
  match firstUnacceptable text with
  | some (c, i) => .error (.unacceptable (Text.shownCode c) i)
  | none =>
    let fuel := 4 * text.length + 16
    match ((Compose.singleDocument fuel).run []).run (Parser.start text) with
    | .error e => .error e
    | .ok ((none, _), _) => .ok .null
    | .ok ((some doc, _), _) => do
      doc.firstError fuel
      doc.toValue fuel

/-- The fault kind of a refused scalar. -/
def Refusal.faultKind : Refusal → FaultKind
  | .badMoment _ | .badNumber _ | .beyondUnicode => .value
  | .notATimestamp => .attribute
  | .unknownTruth _ => .key
  | .emptyNumber => .index
  | .pairsAsText => .type

/-- The fault of a YAML error met reading `text`; a refused scalar is a fault of its value. -/
def Error.toFault (text : String) (e : Error) : Fault :=
  match e with
  | .refused r => ⟨r.faultKind, r.message⟩
  | _ => ⟨.yaml e.className, e.message (bufferOf text)⟩

end ApiAudit.Yaml
