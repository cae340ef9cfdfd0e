import TensorGraph.Attribute
import TensorGraph.GraphFile.InputType

/-!
# GraphFile/AttributeValue — the attributes of nodes

The type of an attribute is that of its value: an integer, a number with a fraction, a text, or a
list of these.  A list with one number that is no integer is a list of such numbers, and an empty
list is one of integers.  The tag `!tensor` makes a number, or nested lists of numbers, a constant
tensor.  How scalars are read and how nodes are decoded are parameters (`Yaml.Resolution`,
`Decoding`).
-/

namespace TensorGraph.GraphFile

open Yaml (Decoder)

/-- Why a value is no attribute. -/
inductive ValueFault where
  | decode (line : Nat) (cause : Yaml.DecodeFault)
  | unsupported (line : Nat) (text tag : String)
  | nestedList (line : Nat)
  | unsupportedItem (line : Nat) (text tag : String)
  | mixedList (line : Nat)
  | notNumber (line : Nat) (text : String)
  | decodeTensor (line : Nat) (cause : Yaml.DecodeFault)
  | tensor (line : Nat) (cause : TensorFault)
  deriving DecidableEq, Repr

def ValueFault.message : ValueFault → String
  | decode line cause => "line " ++ toString line ++ ": " ++ cause.message
  | unsupported line text tag =>
    "line " ++ toString line ++ ": unsupported attribute value " ++ Text.quote text ++ " (tag " ++
      tag ++ ")"
  | nestedList line => "line " ++ toString line ++ ": lists of lists are not supported"
  | unsupportedItem line text tag =>
    "line " ++ toString line ++ ": unsupported list entry " ++ Text.quote text ++ " (tag " ++ tag ++
      ")"
  | mixedList line => "line " ++ toString line ++ ": list mixes strings and numbers"
  | notNumber line text =>
    "line " ++ toString line ++ ": tensor values must be numbers, got " ++ Text.quote text
  | decodeTensor line cause => "line " ++ toString line ++ ": invalid tensor: " ++ cause.message
  | tensor line cause => "line " ++ toString line ++ ": " ++ cause.message

/-! ## Decoding -/

/-- What scalars are decoded as. -/
inductive Target : Type → Type where
  | text : Target String
  | int : Target Int64
  | single : Target Number.Single

namespace Target

variable {α : Type}

/-- The name of the type. -/
def name : Target α → String
  | text => "string"
  | int => "int64"
  | single => "float32"

/-- The value in place of a null. -/
def zero : Target α → α
  | text => ""
  | int => 0
  | single => ⟨0⟩

/-- What is taken from the reading of a scalar. -/
def take : Target α → Yaml.Scalar → Yaml.Meaning → Option α
  | text => Decoder.takeText
  | int => Decoder.takeInt
  | single => Decoder.takeSingle

/-- A list in a list that is a null is kept as an empty list. -/
def keepNull : (k : Nat) → Option (Nested α k) → Option (Nested α k)
  | 0, value? => value?
  | _ + 1, items? => some (items?.getD [])

/-- Decodes lists nested `k` deep. -/
def decoder (target : Target α) : (k : Nat) → Yaml.Node → Decoder (Option (Nested α k))
  | 0 => Decoder.scalar target.name target.take
  | k + 1 => Decoder.list (nestedTypeText ⟨target.name⟩ (k + 1)) fun n => do
    return keepNull k (← target.decoder k n)

/-- The value of depth `k` in place of a null. -/
def empty (target : Target α) : (k : Nat) → Nested α k
  | 0 => target.zero
  | _ + 1 => []

end Target

/-- How nodes are decoded, as lists nested `depth` deep. -/
class Decoding where
  decode {α : Type} (target : Target α) (depth : Nat) (n : Yaml.Node) :
    Except Yaml.DecodeFault (Nested α depth)

instance : Decoding where
  decode target depth n := do
    return (← n.decode (target.decoder depth)).getD (target.empty depth)

/-- The value of a node, or the fault of this file. -/
def decodeAs [Decoding] {α : Type} (fault : Nat → Yaml.DecodeFault → ValueFault)
    (target : Target α) (depth : Nat) (n : Yaml.Node) : Except ValueFault (Nested α depth) :=
  (Decoding.decode target depth n).mapError (fault n.line)

/-! ## Lists -/

/-- The kinds of list items. -/
inductive ItemKind where
  | int | float | text
  deriving DecidableEq, Repr

/-- The kind of a list item, by its tag. -/
def itemKind [Yaml.Resolution] : Yaml.Node → Except ValueFault ItemKind
  | .scalar s =>
    if s.tag = "!!int" then .ok .int
    else if s.tag = "!!float" then .ok .float
    else if s.tag = "!!str" then .ok .text
    else .error (.unsupportedItem s.line s.text s.tag)
  | n => .error (.nestedList n.line)

/-- The value of a list; `n` is the list and `items` are its items. -/
def readList [Yaml.Resolution] [Decoding] (n : Yaml.Node) (items : List Yaml.Node) :
    Except ValueFault AttrValue := do
  let kinds ← items.mapM itemKind
  if kinds.contains .text then
    if kinds.contains .int || kinds.contains .float then throw (.mixedList n.line)
    return .strings (← decodeAs .decode .text 1 n)
  if kinds.contains .float then return .floats (← decodeAs .decode .single 1 n)
  return .ints (← decodeAs .decode .int 1 n)

/-! ## Tensors -/

/-- The tag of constant tensors. -/
def tensorTag : String := "!tensor"

/-- The tag of a scalar in a tensor; the tag of tensors itself says nothing about it. -/
def numberTag [Yaml.Resolution] (s : Yaml.Scalar) : String :=
  if s.tag? = some tensorTag then Yaml.Scalar.tag { s with tag? := none } else s.tag

/-- Whether a tensor holds a number that is no integer; everything in it has to be a number. -/
def hasFloats [Yaml.Resolution] : Yaml.Node → Except ValueFault Bool
  | .scalar s =>
    if numberTag s = "!!int" then .ok false
    else if numberTag s = "!!float" then .ok true
    else .error (.notNumber s.line s.text)
  | .sequence _ _ items => do
    let found ← items.attach.mapM fun ⟨item, _⟩ => hasFloats item
    return found.contains true
  | .mapping line _ _ => .error (.notNumber line "")
  | .reference line anchor _ _ _ => .error (.notNumber line anchor)

/-- The number of nested lists along the first items. -/
def nestingDepth : Yaml.Node → Nat
  | .sequence _ _ (item :: _) => nestingDepth item + 1
  | _ => 0

/-- The literal that a node writes. -/
def readLiteral [Yaml.Resolution] [Decoding] (n : Yaml.Node) : Except ValueFault Literal := do
  let depth := nestingDepth n
  if ← hasFloats n then
    let value ← decodeAs .decodeTensor .single depth n.untagged
    return ⟨⟨"float32"⟩, depth, mapNested .single depth value⟩
  else
    let value ← decodeAs .decodeTensor .int depth n.untagged
    return ⟨⟨"int64"⟩, depth, mapNested .int depth value⟩

/-- The constant tensor that a node writes. -/
def readTensor [Yaml.Resolution] [Decoding] (n : Yaml.Node) : Except ValueFault AttrValue := do
  let literal ← readLiteral n
  match Tensor.ofLiteral literal with
  | .ok t => return .tensor (some t)
  | .error e => throw (.tensor n.line e)

/-! ## Attributes -/

/-- The value of an attribute. -/
def readValue [Yaml.Resolution] [Decoding] (n : Yaml.Node) : Except ValueFault AttrValue := do
  if n.explicitTag? = some tensorTag then return ← readTensor n
  match n with
  | .scalar s =>
    if s.tag = "!!int" then return .int (← decodeAs .decode .int 0 n)
    else if s.tag = "!!float" then return .float (← decodeAs .decode .single 0 n)
    else if s.tag = "!!str" then return .string s.text
    else throw (.unsupported n.line n.text n.tag)
  | .sequence _ _ items => readList n items
  | n => throw (.unsupported n.line n.text n.tag)

/-- Why a node has no attributes. -/
inductive AttributesFault where
  | notMapping (line : Nat)
  | value (name : String) (cause : ValueFault)
  deriving DecidableEq, Repr

def AttributesFault.message : AttributesFault → String
  | notMapping line =>
    "line " ++ toString line ++ ": attributes must be a mapping of names to values"
  | value name cause => "attribute " ++ Text.quote name ++ ": " ++ cause.message

/-- One attribute, named by the text of its key. -/
def readAttribute [Yaml.Resolution] [Decoding] (entry : Yaml.Node × Yaml.Node) :
    Except AttributesFault Attribute :=
  match readValue entry.2 with
  | .ok value => .ok ⟨entry.1.text, value⟩
  | .error e => .error (.value entry.1.text e)

/-- The attributes of a node. -/
def readAttributes [Yaml.Resolution] [Decoding] (attributes? : Option Yaml.Node) :
    Except AttributesFault (List Attribute) :=
  if isAbsent attributes? then .ok []
  else match attributes? with
    | some (.mapping _ _ entries) => entries.mapM readAttribute
    | some n => .error (.notMapping n.line)
    | none => .ok []

end TensorGraph.GraphFile
