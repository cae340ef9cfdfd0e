import TensorGraph.Yaml.Scalar

/-!
# Yaml/Node — the tree of a document

A node knows the line it starts on and the tag it is given, if any.  An alias stands for a node that
carries an anchor; it refers to it by number and knows its tag.  Aliases are numbered themselves, in
the order of the text.
-/

namespace TensorGraph.Yaml

/-- A scalar: its line, its explicit tag, its text, and whether it is quoted or in a block. -/
structure Scalar where
  line : Nat
  tag? : Option String
  text : String
  quoted : Bool
  deriving DecidableEq, Repr

namespace Scalar

/-- A scalar without tag and quotes. -/
def plain (line : Nat) (text : String) : Scalar := ⟨line, none, text, false⟩

/-- The tag of a scalar: the explicit one, or else that of its reading.  A plain `<<` asks for a
merge. -/
def tag [Resolution] (s : Scalar) : String :=
  match s.tag? with
  | some t => t
  | none =>
    if s.quoted then "!!str"
    else if s.text = "<<" then "!!merge"
    else (Resolution.plain true s.text).tag

/-- The reading of a scalar. -/
def meaning [Resolution] (s : Scalar) : Except Unreadable Meaning :=
  match s.tag? with
  | some t => taggedMeaning t s.text
  | none =>
    if s.quoted || s.text == "<<" then .ok (.text s.text)
    else .ok (Resolution.plain true s.text)

end Scalar

/-- A node of a document. -/
inductive Node where
  | scalar (s : Scalar)
  | sequence (line : Nat) (tag? : Option String) (items : List Node)
  | mapping (line : Nat) (tag? : Option String) (entries : List (Node × Node))
  | reference (line : Nat) (anchor : String) (target : Nat) (tag : String) (number : Nat)
  deriving Repr

instance : Inhabited Node := ⟨.scalar (.plain 0 "")⟩

namespace Node

/-- The kinds of nodes. -/
inductive Kind where
  | scalar | sequence | mapping | reference
  deriving DecidableEq, Repr

def kind : Node → Kind
  | scalar _ => .scalar
  | sequence .. => .sequence
  | mapping .. => .mapping
  | reference .. => .reference

def line : Node → Nat
  | scalar s => s.line
  | sequence line _ _ => line
  | mapping line _ _ => line
  | reference line _ _ _ _ => line

/-- The tag of a node; an alias has that of the node it stands for. -/
def tag [Resolution] : Node → String
  | scalar s => s.tag
  | sequence _ t _ => t.getD "!!seq"
  | mapping _ t _ => t.getD "!!map"
  | reference _ _ _ t _ => t

/-- The tag written before a node. -/
def explicitTag? : Node → Option String
  | scalar s => s.tag?
  | sequence _ t _ => t
  | mapping _ t _ => t
  | reference .. => none

/-- The text of a scalar, the anchor of an alias, and nothing for a collection. -/
def text : Node → String
  | scalar s => s.text
  | reference _ anchor _ _ _ => anchor
  | _ => ""

/-- A node without its explicit tag. -/
def untagged : Node → Node
  | scalar s => scalar { s with tag? := none }
  | sequence line _ items => sequence line none items
  | mapping line _ entries => mapping line none entries
  | n => n

/-- Whether a node is the key that asks for a merge. -/
def isMerge [Resolution] : Node → Bool
  | scalar s => s.text == "<<" && s.tag == "!!merge"
  | _ => false

end Node

/-- A document: its root, the nodes that carry an anchor, by number, and a bound on the number of
its nodes. -/
structure Document where
  root : Node
  anchored : List (Nat × Node)
  bound : Nat

/-- The node an alias stands for. -/
def Document.target? (d : Document) (n : Nat) : Option Node := d.anchored.lookup n

end TensorGraph.Yaml
