import TensorGraph.Inference.Context
import TensorGraph.KeySet

/-!
# Inference/Reduce — shapes of reductions over axes

A reduction removes the dimensions at the reduced axes, or keeps them as ones.  Axes count from the
end when negative.  The list form reduces any number of axes, all of them when the list is empty;
the index form reduces one axis and yields positions.
-/

namespace TensorGraph

/-- The position of an axis in a tensor of the given rank.  The definition is the same over the
integers and over 64-bit words, where negation and addition wrap around. -/
def adjustAxis {α : Type} [OfNat α 0] [Neg α] [Add α] [LT α] [DecidableLT α] [LE α] [DecidableLE α]
    (axis rank : α) : Option α :=
  if axis < -rank ∨ rank ≤ axis then none
  else some (if axis < 0 then axis + rank else axis)

/-- The position of an axis among 64-bit words. -/
def adjustAxisWord (axis rank : Int64) : Except AxisFault Int64 :=
  match adjustAxis axis rank with
  | some a => .ok a
  | none => .error ⟨axis.toInt, rank.toInt⟩

/-- The position of an axis of a tensor with `rank` dimensions. -/
def axisPosition? (axis : Int) (rank : Nat) : Option Nat :=
  (adjustAxis axis (rank : Int)).map Int.toNat

/-- What becomes of the dimension of an axis: it stays, or it is reduced to a one or removed. -/
def reducedDim (reduced keep : Bool) (d : Dim) : List Dim :=
  if reduced then (if keep then [.static 1] else []) else [d]

/-- The dimensions left when the positions picked by `reduced` are reduced; `position` is that of
the first dimension. -/
def reduceDimsFrom (reduced : Nat → Bool) (keep : Bool) (position : Nat) : List Dim → List Dim
  | [] => []
  | d :: ds =>
    reducedDim (reduced position) keep d ++ reduceDimsFrom reduced keep (position + 1) ds

/-- The dimensions left when the positions picked by `reduced` are reduced. -/
def reduceDims (reduced : Nat → Bool) (keep : Bool) (dims : List Dim) : List Dim :=
  reduceDimsFrom reduced keep 0 dims

/-- The positions of a list of axes, the first wrong one being reported with its place. -/
def axisPositionsFrom (operand : Shape) (place : Nat) : List Int → Except Violation (List Nat)
  | [] => .ok []
  | axis :: axes =>
    match axisPosition? axis operand.rank with
    | none => .error (.axisOfList place axis operand)
    | some p => do
      let ps ← axisPositionsFrom operand (place + 1) axes
      return p :: ps

/-- The shape of a reduction over a list of axes.  The empty list stands for all axes, and reduced
axes are kept exactly when `keepDims` is one. -/
def reduceShape (operand : Shape) (axes : List Int) (keepDims : Int64) :
    Except Violation Shape := do
  let positions := KeySet.ofList (← axisPositionsFrom operand 0 axes)
  let reduced := fun p => axes.isEmpty || positions.contains p
  return ⟨operand.dtype, reduceDims reduced (keepDims == 1) operand.dims⟩

/-- The element type of positions. -/
def indexDType : DType := .int64

/-- The shape of an index reduction along one axis. -/
def argReduceShape (operand : Shape) (axis : Int) (keepDims : Int64) : Except Violation Shape :=
  match axisPosition? axis operand.rank with
  | none => .error (.axisOfIndex axis operand)
  | some p => .ok ⟨indexDType, reduceDims (· == p) (keepDims == 1) operand.dims⟩

/-- The part of a reduction that sets the output shape, once the input shape is known. -/
def inferReducedShape : Action Violation InferenceContext Unit := do
  let c ← get
  match c.input? 0 with
  | some input =>
    if c.hasInputShapes 1 then do
      let keepDims ← Action.ofExcept (c.intOr "keepdims" 1)
      let axes ← Action.ofExcept (c.intsOrEmpty "axes")
      let shape ← Action.ofExcept (reduceShape input.shape (axes.map Int64.toInt) keepDims)
      let output ← Action.ofExcept (c.slot 0)
      set (c.setOutput 0 (output.withDims shape.dims))
    else return ()
  | none => return ()

/-- Inference for reductions over a list of axes: the element type of the input goes to the
output, and the shape follows once the input shape is known. -/
def inferReduce : InferenceFn :=
  InferenceFn.andThen (.ofStep (copyElem 0 0)) (.ofStep inferReducedShape)

/-- The part of an index reduction that sets the element type. -/
def inferIndexElem : Action Violation InferenceContext Unit := do
  let c ← get
  let output ← Action.ofExcept (c.slot 0)
  if output.kind = .notSet ∨ output.kind = .tensor then
    set (c.setOutput 0 (output.withElem indexDType))
  else return ()

/-- The part of an index reduction that sets the output shape, once the input shape is known. -/
def inferIndexShape : Action Violation InferenceContext Unit := do
  let c ← get
  match c.input? 0 with
  | some input =>
    if c.hasInputShapes 1 then do
      let axis ← Action.ofExcept (c.intOr "axis" 0)
      let keepDims ← Action.ofExcept (c.intOr "keepdims" 1)
      let shape ← Action.ofExcept (argReduceShape input.shape axis.toInt keepDims)
      let output ← Action.ofExcept (c.slot 0)
      set (c.setOutput 0 (output.withDims shape.dims))
    else return ()
  | none => return ()

/-- Inference for index reductions: the output holds positions whatever the input holds, and the
shape follows once the input shape is known. -/
def inferArgReduce : InferenceFn :=
  InferenceFn.andThen (.ofStep inferIndexElem) (.ofStep inferIndexShape)

end TensorGraph
