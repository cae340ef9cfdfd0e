import TensorGraph.Tensor.Shape
import TensorGraph.Text.Basic

/-!
# Tensor/ValueType — the type of a value in a graph

A value is a tensor, a sequence or a map, or its type is not set yet.  A tensor may lack an element
type, and it may lack a shape: a tensor of unknown rank differs from a scalar, whose shape has no
axes.
-/

namespace TensorGraph

/-- The kinds of values; a code outside the list is kept as it is. -/
inductive TypeKind where
  | notSet | tensor | sequence | map
  | other (code : Int)
  deriving DecidableEq, Repr, Inhabited

namespace TypeKind

/-- The listed kinds with their names, in the order of their codes. -/
def listed : List (TypeKind × String) :=
  [(notSet, "NotSet"), (tensor, "Tensor"), (sequence, "Sequence"), (map, "Map")]

/-- The kind with a code. -/
def ofCode (code : Int) : TypeKind :=
  if code < 0 then other code
  else match listed[code.toNat]? with
    | some (k, _) => k
    | none => other code

def name : TypeKind → String
  | other code => "TypeKind(" ++ toString code ++ ")"
  | k => (listed.lookup k).getD ""

end TypeKind

/-- The type of a value: its kind, its element type, and its dimensions if it has a shape. -/
structure ValueType where
  kind : TypeKind
  dtype : DType
  dims? : Option (List Dim)
  deriving DecidableEq, Repr

/-- The type about which nothing is set. -/
def ValueType.unset : ValueType := ⟨.notSet, .invalid, none⟩

instance : Inhabited ValueType := ⟨ValueType.unset⟩

namespace ValueType

/-- A tensor of known element type and unknown shape. -/
def tensor (dtype : DType) : ValueType := ⟨.tensor, dtype, none⟩

/-- A tensor of known shape. -/
def ofShape (s : Shape) : ValueType := ⟨.tensor, s.dtype, some s.dims⟩

def isTensor (t : ValueType) : Bool := t.kind == .tensor

/-- The shape of a tensor, without axes where none is known. -/
def shape (t : ValueType) : Shape := ⟨t.dtype, t.dims?.getD []⟩

/-- The number of axes, if the shape is known. -/
def rank? (t : ValueType) : Option Nat := t.dims?.map List.length

/-- Sets the element type, which makes the value a tensor. -/
def withElem (t : ValueType) (dtype : DType) : ValueType :=
  { t with kind := .tensor, dtype := dtype }

/-- Sets the dimensions, which makes the value a tensor. -/
def withDims (t : ValueType) (dims : List Dim) : ValueType :=
  { t with kind := .tensor, dims? := some dims }

/-- The element type as it is written for a tensor. -/
def elemText [DType.ElementNames] (t : ValueType) : String :=
  if t.dtype = .invalid then "tensor(?)" else t.dtype.tensorText

/-- The text of a type, such as `tensor(float)[batch 3]`. -/
def text [DType.ElementNames] (t : ValueType) : String :=
  match t.kind with
  | .notSet => "<not set>"
  | .tensor =>
    match t.dims? with
    | none => t.elemText
    | some dims => t.elemText ++ dimsText dims
  | k => Text.lowercase k.name

/-- The number of elements of a tensor of static shape, as `shown` shows numbers, or a question
mark. -/
def elementsTextBy (shown : Nat → String) (t : ValueType) : String :=
  match t.kind, t.dims? with
  | .tensor, some dims =>
    match (Shape.mk t.dtype dims).size? with
    | some n => shown n
    | none => "?"
  | _, _ => "?"

/-- The number of elements with its digits grouped, or a question mark. -/
def elementsText (t : ValueType) : String := t.elementsTextBy Text.grouped

end ValueType

end TensorGraph
