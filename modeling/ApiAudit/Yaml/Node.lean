import ApiAudit.Yaml.Event.Parse
import ApiAudit.Yaml.Tag

/-!
# Yaml/Node — the node tree of a YAML document

A document's events build a tree of **nodes**: scalars, sequences and mappings (a mapping keeps
its pairs in the order written), each with its tag and the mark where it starts.

* A node without a tag, or with the non-specific tag `!`, gets one: a plain scalar the tag its
  text implies (`Yaml/Tag`), any other scalar `str`, a sequence `seq`, a mapping `map`.
* An **anchor** names a node; an **alias** stands for the node its anchor named before it.  An
  alias to an unknown anchor is an error, and so is an anchor named twice in one document.
* An alias inside the very sequence or mapping its anchor names makes that node hold itself:
  the alias is a `back` node, which keeps the tag, the kind and the start of the node it
  stands for (its start tells it apart from the other nodes around it).

`singleDocument` reads the stream's one document; a stream without one reads as `none`, and a
second document is an error.
-/

namespace ApiAudit.Yaml

/-- A node of a document. -/
inductive Node where
  | scalar (tag : String) (value : String) (start : Mark)
  | sequence (tag : String) (items : List Node) (start : Mark)
  | mapping (tag : String) (pairs : List (Node × Node)) (start : Mark)
  /-- The sequence or mapping (`isMapping`) starting at `start` that holds this node. -/
  | back (tag : String) (isMapping : Bool) (start : Mark)
  deriving Repr, Inhabited

namespace Node

/-- Where a node starts. -/
def start : Node → Mark
  | .scalar _ _ m => m
  | .sequence _ _ m => m
  | .mapping _ _ m => m
  | .back _ _ m => m

/-- A node's tag. -/
def tag : Node → String
  | .scalar t _ _ => t
  | .sequence t _ _ => t
  | .mapping t _ _ => t
  | .back t _ _ => t

/-- The node with another tag. -/
def retag (t : String) : Node → Node
  | .scalar _ v m => .scalar t v m
  | .sequence _ items m => .sequence t items m
  | .mapping _ pairs m => .mapping t pairs m
  | .back _ isMapping m => .back t isMapping m

/-- The name of a node's kind, as errors show it. -/
def kindName : Node → String
  | .scalar .. => "scalar"
  | .sequence .. => "sequence"
  | .mapping .. => "mapping"
  | .back _ isMapping _ => if isMapping then "mapping" else "sequence"

/-- The empty null scalar at a mark. -/
def empty (m : Mark) : Node := .scalar (Tag.standard "null") "" m

end Node

/-- The tag of a scalar: the one written, or the one its text and style give. -/
def scalarTag (tag : Option String) (plainImplicit : Bool) (value : String) : String :=
  let resolved := if plainImplicit then Tag.implied value else Tag.standard "str"
  match tag with
  | some t => if t == "!" then resolved else t
  | none => resolved

/-- The tag of a collection: the one written, or the standard one of its kind. -/
def collectionTag (tag : Option String) (kind : String) : String :=
  match tag with
  | some t => if t == "!" then Tag.standard kind else t
  | none => Tag.standard kind

/-- An anchor of the document so far: its name, where its node starts, its node's tag and kind,
and the node once it is complete. -/
structure Anchored where
  name : String
  start : Mark
  tag : String
  isMapping : Bool
  node : Option Node

/-- Building nodes: parsing, with the anchors of the current document. -/
abbrev Compose := StateT (List Anchored) Parse

namespace Compose

/-- The next event, without taking it. -/
def peekEvent : Compose Event := StateT.lift Parse.peekEvent

/-- Takes the next event. -/
def nextEvent : Compose Event := StateT.lift Parse.nextEvent

/-- Fails with a composing error. -/
def fail {α : Type} (context : Option String) (contextMark : Option Mark) (problem : String)
    (problemMark : Mark) : Compose α :=
  throw (.marked .composer context contextMark problem problemMark)

/-- Records that an anchor names a node starting at a mark, with its tag and kind. -/
def openAnchor (anchor : Option String) (m : Mark) (tag : String) (isMapping : Bool) :
    Compose Unit :=
  match anchor with
  | some a => modify fun as => as ++ [⟨a, m, tag, isMapping, none⟩]
  | none => pure ()

/-- Records the complete node an anchor names. -/
def closeAnchor (anchor : Option String) (n : Node) : Compose Unit :=
  match anchor with
  | some a => modify fun as => as.map fun x => if x.name == a then { x with node := some n } else x
  | none => pure ()

mutual

/-- **Builds a node** from the next events; `fuel` bounds the nesting and the entries. -/
def node : Nat → Compose Node
  | 0 => do pure (Node.empty (← peekEvent).start)
  | fuel + 1 => do
    let e ← nextEvent
    match e.kind with
    | .alias name =>
      match (← get).find? (·.name == name) with
      | some a => pure (a.node.getD (Node.back a.tag a.isMapping a.start))
      | none => fail none none s!"found undefined alias {Text.quote name}" e.start
    | kind =>
      if let some a := kind.anchor? then
        if let some first := (← get).find? (·.name == a) then
          fail (some s!"found duplicate anchor {Text.quote a}; first occurrence") (some first.start)
            "second occurrence" e.start
      match kind with
      | .scalar anchor tag plainImplicit _ value =>
        let n := Node.scalar (scalarTag tag plainImplicit value) value e.start
        openAnchor anchor e.start n.tag false
        closeAnchor anchor n
        pure n
      | .sequenceStart anchor tag _ =>
        let t := collectionTag tag "seq"
        openAnchor anchor e.start t false
        let items ← entries fuel []
        let _ ← nextEvent
        let n := Node.sequence t items e.start
        closeAnchor anchor n
        pure n
      | .mappingStart anchor tag _ =>
        let t := collectionTag tag "map"
        openAnchor anchor e.start t true
        let pairs ← pairsOf fuel []
        let _ ← nextEvent
        let n := Node.mapping t pairs e.start
        closeAnchor anchor n
        pure n
      | _ => pure (Node.empty e.start)

/-- Builds the entries of a sequence up to its end. -/
def entries : Nat → List Node → Compose (List Node)
  | 0, acc => pure acc.reverse
  | fuel + 1, acc => do
    if (← peekEvent).kind.isSequenceEnd then pure acc.reverse
    else
      let n ← node fuel
      entries fuel (n :: acc)

/-- Builds the pairs of a mapping up to its end. -/
def pairsOf : Nat → List (Node × Node) → Compose (List (Node × Node))
  | 0, acc => pure acc.reverse
  | fuel + 1, acc => do
    if (← peekEvent).kind.isMappingEnd then pure acc.reverse
    else
      let k ← node fuel
      let v ← node fuel
      pairsOf fuel ((k, v) :: acc)

end

/-- Builds one document: its start, its node, its end.  Anchors do not outlive it. -/
def document (fuel : Nat) : Compose Node := do
  let _ ← nextEvent
  let n ← node fuel
  let _ ← nextEvent
  set ([] : List Anchored)
  pure n

/-- **The single document of a stream**, or `none` for a stream without documents. -/
def singleDocument (fuel : Nat) : Compose (Option Node) := do
  let _ ← nextEvent
  if (← peekEvent).kind.isStreamEnd then
    let _ ← nextEvent
    return none
  let doc ← document fuel
  if !(← peekEvent).kind.isStreamEnd then
    let e ← nextEvent
    fail (some "expected a single document in the stream") (some doc.start)
      "but found another document" e.start
  let _ ← nextEvent
  return some doc

end Compose

end ApiAudit.Yaml
