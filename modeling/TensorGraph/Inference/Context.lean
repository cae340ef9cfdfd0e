import TensorGraph.Attribute
import TensorGraph.Tensor.ValueType

/-!
# Inference/Context — what an inference function reads and what it leaves behind

An inference function sees a node through its context: attributes, input types and output slots.
It answers with the slots it leaves, and with a failure if the node breaks its contract.  Slots
that were set before a failure stay set.  Missing information is never a failure.
-/

namespace TensorGraph

/-- Steps on a state that may fail; what a step wrote before it fails stays written. -/
abbrev Action (ε σ : Type) := EStateM ε σ

namespace Action

variable {ε σ α : Type}

/-- What is found without a look at the state, or the failure to find it. -/
def ofExcept : Except ε α → Action ε σ α
  | .ok x => pure x
  | .error e => throw e

/-- What an action answers. -/
def answer (a : Action ε σ α) (s : σ) : Except ε α :=
  match a s with
  | .ok x _ => .ok x
  | .error e _ => .error e

/-- The state an action leaves, whether it succeeds or fails. -/
def left (a : Action ε σ α) (s : σ) : σ :=
  match a s with
  | .ok _ s' => s'
  | .error _ s' => s'

/-- The state after an action that succeeds. -/
def result (a : Action ε σ α) (s : σ) : Except ε σ :=
  match a s with
  | .ok _ s' => .ok s'
  | .error e _ => .error e

end Action

/-- The ways a node can break the contract of its operator. -/
inductive Violation where
  | inputNotTensor (index : Int) (type : String)
  | outputNotTensor (index : Int) (type : String)
  | outputBeyond (count : Nat) (index : Int)
  | outputMissing (index : Int)
  | attributeNotInt (name : String) (type : AttrType)
  | attributeNotInts (name : String) (type : AttrType)
  | axisOfList (position : Nat) (axis : Int) (operand : Shape)
  | axisOfIndex (axis : Int) (operand : Shape)
  deriving DecidableEq, Repr

/-- An axis that a tensor of the given rank does not have. -/
structure AxisFault where
  axis : Int
  rank : Int
  deriving DecidableEq, Repr

def AxisFault.message (e : AxisFault) : String :=
  "axis " ++ toString e.axis ++ " is out of range for the rank " ++ toString e.rank

def Violation.message : Violation → String
  | inputNotTensor i t => "input #" ++ toString i ++ " expected to have tensor type, got " ++ t
  | outputNotTensor i t => "output #" ++ toString i ++ " expected to have tensor type, got " ++ t
  | outputBeyond n i =>
    "node has " ++ toString n ++ " outputs, output #" ++ toString i ++ " is missing"
  | outputMissing i => "output #" ++ toString i ++ " is missing"
  | attributeNotInt name t =>
    "attribute " ++ Text.quote name ++ " must be an integer, got " ++ t.name
  | attributeNotInts name t =>
    "attribute " ++ Text.quote name ++ " must be a list of integers, got " ++ t.name
  | axisOfList i axis s =>
    "invalid value for axes[" ++ toString i ++ "]=" ++ toString axis ++ " for reduction of " ++
      s.text ++ ": " ++ (AxisFault.mk axis s.rank).message
  | axisOfIndex axis s =>
    "invalid axis=" ++ toString axis ++ " for index-reduction of " ++ s.text ++ ": " ++
      (AxisFault.mk axis s.rank).message

/-- Why inference stopped: the contract of the operator is broken, or the function itself gave
up with a message. -/
inductive InferenceFailure where
  | violation (v : Violation)
  | refused (message : String)
  deriving DecidableEq, Repr

namespace InferenceFailure

def isViolation : InferenceFailure → Bool
  | violation _ => true
  | refused _ => false

def message : InferenceFailure → String
  | violation v => "shape inference: " ++ v.message
  | refused m => m

end InferenceFailure

/-- Output types in the making; a slot may be missing. -/
abbrev Slots := List (Option ValueType)

/-- The view of a node that inference works on.  Of attributes with the same name the last one
counts; a missing input has no type. -/
structure InferenceContext where
  attributes : List Attribute
  inputs : List (Option ValueType)
  outputs : Slots

/-- Element of a list at an index that may lie outside it. -/
def entryAt {α : Type} (xs : List (Option α)) (index : Int) : Option α :=
  if index < 0 then none else (xs[index.toNat]?).join

namespace InferenceContext

/-- The attribute with a name. -/
def attribute? (c : InferenceContext) (name : String) : Option Attribute :=
  c.attributes.reverse.find? (·.name == name)

/-- The type of an input. -/
def input? (c : InferenceContext) (index : Int) : Option ValueType := entryAt c.inputs index

/-- The type in an output slot. -/
def output? (c : InferenceContext) (index : Int) : Option ValueType := entryAt c.outputs index

/-- Overwrites an output slot that is there; a missing one stays missing. -/
def setOutput (c : InferenceContext) (index : Int) (type : ValueType) : InferenceContext :=
  match c.output? index with
  | some _ => { c with outputs := c.outputs.set index.toNat (some type) }
  | none => c

/-- The slot an inference function means to fill. -/
def slot (c : InferenceContext) (index : Int) : Except Violation ValueType :=
  if (c.outputs.length : Int) ≤ index then .error (.outputBeyond c.outputs.length index)
  else match c.output? index with
    | some t => .ok t
    | none => .error (.outputMissing index)

/-- Whether the first `n` inputs are tensors of known shape. -/
def hasInputShapes (c : InferenceContext) (n : Int) : Bool :=
  if (c.inputs.length : Int) < n then false
  else (c.inputs.take n.toNat).all fun
    | some t => t.isTensor && t.dims?.isSome
    | none => false

/-- An integer attribute, or the default where it is not set. -/
def intOr (c : InferenceContext) (name : String) (default : Int64) : Except Violation Int64 :=
  match c.attribute? name with
  | none => .ok default
  | some a =>
    match a.value with
    | .int i => .ok i
    | v => .error (.attributeNotInt name v.type)

/-- A list-of-integers attribute, empty where it is not set. -/
def intsOrEmpty (c : InferenceContext) (name : String) : Except Violation (List Int64) :=
  match c.attribute? name with
  | none => .ok []
  | some a =>
    match a.value with
    | .ints is => .ok is
    | v => .error (.attributeNotInts name v.type)

end InferenceContext

/-- What an inference function leaves: the output slots, and a failure if there is one. -/
structure Outcome where
  slots : Slots
  failure : Option InferenceFailure

/-- A function from the view of a node to its outcome. -/
abbrev InferenceFn := InferenceContext → Outcome

/-- Slots written in place: each slot takes its new type, a missing slot stays missing, and no slot
is added or removed. -/
def overwriteSlots : Slots → Slots → Slots
  | some t :: old, new :: news => some (new.getD t) :: overwriteSlots old news
  | none :: old, _ :: news => none :: overwriteSlots old news
  | old, [] => old
  | [], _ => []

namespace Outcome

def ok (c : InferenceContext) : Outcome := ⟨c.outputs, none⟩

/-- The outcome of a step: the slots it leaves, whether it succeeds or fails. -/
def ofStep : EStateM.Result Violation InferenceContext Unit → Outcome
  | .ok _ c => ok c
  | .error v c => ⟨c.outputs, some (.violation v)⟩

end Outcome

namespace InferenceFn

/-- Runs a function on a node; it can write the slots that are there, and nothing else. -/
def run (f : InferenceFn) (c : InferenceContext) : Outcome :=
  let o := f c
  ⟨overwriteSlots c.outputs o.slots, o.failure⟩

/-- Runs a second function on what the first one leaves, unless that is a failure. -/
def andThen (f g : InferenceFn) : InferenceFn := fun c =>
  let o := f c
  match o.failure with
  | none => g { c with outputs := o.slots }
  | some _ => o

/-- Changes nothing. -/
def idle : InferenceFn := Outcome.ok

/-- Refuses with a message. -/
def refuse (message : String) : InferenceFn := fun c => ⟨c.outputs, some (.refused message)⟩

/-- Puts a type into an output slot that is there. -/
def assign (index : Int) (type : ValueType) : InferenceFn := fun c => .ok (c.setOutput index type)

/-- Runs functions in order up to the first failure. -/
def sequence (fns : List InferenceFn) : InferenceFn := fns.foldr andThen idle

/-- A function that takes one step. -/
def ofStep (step : Action Violation InferenceContext Unit) : InferenceFn :=
  fun c => .ofStep (step c)

end InferenceFn

/-- Copies the element type of an input to an output.  An input that is missing, not set or of
unknown element type leaves the output alone; an input or output that is not a tensor is a
violation. -/
def copyElem (input output : Int) : Action Violation InferenceContext Unit := do
  let c ← get
  if (c.inputs.length : Int) ≤ input then return ()
  else match c.input? input with
    | none => return ()
    | some t =>
      if t.kind = .notSet then return ()
      else if !t.isTensor then throw (.inputNotTensor input t.text)
      else do
        let o ← Action.ofExcept (c.slot output)
        if o.kind ≠ .notSet ∧ o.kind ≠ .tensor then throw (.outputNotTensor output o.text)
        else if t.dtype = .invalid then return ()
        else set (c.setOutput output (o.withElem t.dtype))

/-- What becomes of a view as the element type of an input is copied to an output. -/
def propagateElem (c : InferenceContext) (input output : Int) :
    EStateM.Result Violation InferenceContext Unit :=
  copyElem input output c

end TensorGraph
