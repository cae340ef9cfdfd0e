import TensorGraph.Tensor.Shape
import TensorGraph.Number.Single

/-!
# Tensor/Literal — nested lists of scalars and the shapes they have

A literal of depth `k` is a list of literals of depth `k - 1`, down to scalars at depth zero.  It
has a shape when its scalars have an element type and the lists are rectangular: no list is empty,
and all lists of one level have the same length.  Which scalars have an element type is a parameter
(`ScalarElements`).
-/

namespace TensorGraph

/-- Lists of lists of … of `α`, nested `k` deep. -/
abbrev Nested (α : Type) : Nat → Type
  | 0 => α
  | k + 1 => List (Nested α k)

/-- Applies a function to everything at the bottom. -/
def mapNested {α β : Type} (f : α → β) : (k : Nat) → Nested α k → Nested β k
  | 0, a => f a
  | k + 1, items => List.map (mapNested f k) items

/-- The type of the scalars of a literal, by its name. -/
structure ScalarType where
  name : String
  deriving DecidableEq, Repr, Inhabited

/-- Which element type a scalar type has, if it has one; the element types of scalars are given from
outside. -/
class ScalarElements where
  dtype? : ScalarType → Option DType

/-- The element type of a scalar type, if it has one. -/
def ScalarType.dtype? [ScalarElements] (t : ScalarType) : Option DType := ScalarElements.dtype? t

/-- Scalar types with an element type. -/
def scalarElements : List (String × DType) := [
  ("bool", .bool),
  ("int", .int64), ("int8", .int8), ("int16", .int16), ("int32", .int32), ("int64", .int64),
  ("time.Duration", .int64),
  ("uint8", .uint8), ("uint16", .uint16), ("uint32", .uint32), ("uint64", .uint64),
  ("float32", .float32), ("float64", .float64),
  ("complex64", .complex64), ("complex128", .complex128),
  ("float16.Float16", .float16), ("bfloat16.BFloat16", .bfloat16)]

/-- Scalar types have the element types that the table gives to their names. -/
instance : ScalarElements where
  dtype? t := scalarElements.lookup t.name

/-- One scalar of a literal; scalars of types other than the two that files can hold are opaque. -/
inductive Scalar where
  | int (value : Int64)
  | single (value : Number.Single)
  | hidden
  deriving DecidableEq, Repr, Inhabited

/-- The zero of a scalar type. -/
def ScalarType.zero (t : ScalarType) : Scalar :=
  if t.name = "int64" ∨ t.name = "time.Duration" then .int 0
  else if t.name = "float32" then .single ⟨0⟩
  else .hidden

/-- A nested list of scalars with the type of its scalars. -/
structure Literal where
  scalar : ScalarType
  depth : Nat
  value : Nested Scalar depth

/-- The text of the type of a literal: one pair of brackets for each level. -/
def nestedTypeText (t : ScalarType) : Nat → String
  | 0 => t.name
  | k + 1 => "[]" ++ nestedTypeText t k

/-- The text of a literal's type. -/
def Literal.typeText (l : Literal) : String := nestedTypeText l.scalar l.depth

/-- Why a literal has no shape. -/
inductive LiteralFault where
  | noElementType (type : String)
  | emptyList (type : String)
  | irregular (first : List Nat) (index : Nat) (dims : List Nat)
  deriving DecidableEq, Repr

/-- Sizes between brackets. -/
def sizesText (dims : List Nat) : String := "[" ++ " ".intercalate (dims.map toString) ++ "]"

def LiteralFault.message : LiteralFault → String
  | noElementType type => "Go type " ++ type ++ " has no corresponding dtype"
  | emptyList type => "empty slice " ++ type ++ ", the inner dimensions are undefined"
  | irregular first index dims =>
    "irregular sub-slices: element #0 has dimensions " ++ sizesText first ++ ", element #" ++
      toString index ++ " has " ++ sizesText dims

/-- Checks that the elements from position `index` on have the dimensions of the first; an
element's own fault comes before a difference. -/
def sameDimsFrom {α : Type} (dimsOf : α → Except LiteralFault (List Nat)) (first : List Nat)
    (index : Nat) : List α → Except LiteralFault Unit
  | [] => .ok ()
  | x :: xs => do
    let dims ← dimsOf x
    if dims = first then sameDimsFrom dimsOf first (index + 1) xs
    else throw (.irregular first index dims)

/-- The dimensions of a nested list whose scalars have the type `t`. -/
def nestedDims [ScalarElements] {α : Type} (t : ScalarType) :
    (k : Nat) → Nested α k → Except LiteralFault (List Nat)
  | 0, _ => match t.dtype? with
    | some _ => .ok []
    | none => .error (.noElementType t.name)
  | k + 1, [] => .error (.emptyList (nestedTypeText t (k + 1)))
  | k + 1, x :: xs => do
    let inner ← nestedDims t k x
    sameDimsFrom (nestedDims t k) inner 1 xs
    return (xs.length + 1) :: inner

/-- Why a value has no shape: there is none, or its type and the fault found in it. -/
inductive ShapeFault where
  | noValue
  | fault (type : String) (cause : LiteralFault)
  deriving DecidableEq, Repr

def ShapeFault.message : ShapeFault → String
  | noValue => "cannot derive a shape from a nil value"
  | fault type cause => "shape of " ++ type ++ ": " ++ cause.message

/-- The shape of a literal. -/
def Literal.shape [ScalarElements] (l : Literal) : Except ShapeFault Shape :=
  match nestedDims l.scalar l.depth l.value with
  | .ok dims => .ok ⟨l.scalar.dtype?.getD .invalid, dims.map Dim.static⟩
  | .error e => .error (.fault l.typeText e)

/-- The shape of a literal that may be missing. -/
def shapeOf [ScalarElements] : Option Literal → Except ShapeFault Shape
  | none => .error .noValue
  | some l => l.shape

/-- A constant tensor: a literal with the shape it has. -/
structure Tensor where
  literal : Literal
  shape : Shape

/-- A value that is no tensor. -/
structure TensorFault where
  type : String
  cause : ShapeFault
  deriving DecidableEq, Repr

def TensorFault.message (e : TensorFault) : String :=
  "while creating tensor from " ++ e.type ++ ": " ++ e.cause.message

/-- The constant tensor given by a literal. -/
def Tensor.ofLiteral [ScalarElements] (l : Literal) : Except TensorFault Tensor :=
  match l.shape with
  | .ok s => .ok ⟨l, s⟩
  | .error e => .error ⟨l.typeText, e⟩

/-- The constant tensor given by a literal that may be missing. -/
def Tensor.ofLiteral? [ScalarElements] : Option Literal → Except TensorFault Tensor
  | none => .error ⟨"<nil>", .noValue⟩
  | some l => Tensor.ofLiteral l

end TensorGraph
