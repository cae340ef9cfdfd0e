import TensorGraph.Number.Binary
import TensorGraph.Tensor.DType
import TensorGraph.Tensor.Dim

/-!
# Tensor/Shape — element type and dimensions together
-/

namespace TensorGraph

/-- The element type and the dimensions of a tensor. -/
structure Shape where
  dtype : DType
  dims : List Dim
  deriving DecidableEq, Repr, Inhabited

/-- The greatest element count that is reported. -/
def maxElements : Nat := Number.twoTo 63 - 1

namespace Shape

/-- The shape with an unknown element type and no axes. -/
def invalid : Shape := ⟨.invalid, []⟩

/-- A shape is valid when its element type is known. -/
def ok (s : Shape) : Bool := s.dtype != .invalid

/-- The number of axes. -/
def rank (s : Shape) : Nat := s.dims.length

def isStatic (s : Shape) : Bool := s.dims.all Dim.isStatic

/-- The element type in parentheses, then the dimensions unless there are none. -/
def text (s : Shape) : String :=
  let head := "(" ++ s.dtype.name ++ ")"
  if s.dims.isEmpty then head else head ++ dimsText s.dims

/-- Product of the dimensions from left to right, starting from `acc`; none as soon as a dimension
is not static or the product would leave the range of element counts. -/
def sizeFrom (acc : Nat) : List Dim → Option Nat
  | [] => some acc
  | d :: ds =>
    match d.size? with
    | none => none
    | some n => if n ≠ 0 ∧ maxElements / n < acc then none else sizeFrom (acc * n) ds

/-- The number of elements, as far as it is known and in range. -/
def size? (s : Shape) : Option Nat := sizeFrom 1 s.dims

/-- An axis that a shape does not have. -/
structure NoSuchAxis where
  axis : Int
  shape : Shape
  deriving DecidableEq, Repr

def NoSuchAxis.message (e : NoSuchAxis) : String :=
  "Shape.Dim(" ++ toString e.axis ++ ") out-of-bounds for rank " ++ toString e.shape.rank ++
    " (shape=" ++ e.shape.text ++ ")"

/-- The rank as a 64-bit word. -/
def rankWord (s : Shape) : Int64 := Int64.ofNat s.rank

/-- The position of an axis among 64-bit words, where addition wraps around.  A negative axis counts
from the end, and the position is tested once it is made. -/
def countedPosition? (axis rank : Int64) : Option Int64 :=
  let position := if axis < 0 then axis + rank else axis
  if position < 0 ∨ rank ≤ position then none else some position

/-- The dimension of an axis given as a 64-bit word. -/
def dimWord (s : Shape) (axis : Int64) : Except NoSuchAxis Dim :=
  ((countedPosition? axis s.rankWord).bind fun p => s.dims[p.toInt.toNat]?).elim
    (.error ⟨axis.toInt, s⟩) .ok

/-- The dimension of an axis, an integer in the range of words; a negative axis counts from the
end. -/
def dim (s : Shape) (axis : Int) : Except NoSuchAxis Dim := s.dimWord (.ofInt axis)

/-- Whether two shapes have the same dimensions, whatever their element types. -/
def sameDims (s t : Shape) : Bool := s.dims == t.dims

end Shape

end TensorGraph
