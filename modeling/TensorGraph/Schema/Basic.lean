import TensorGraph.Inference.Context

/-!
# Schema/Basic — the contract of an operator

A schema declares the attributes, inputs, outputs and type variables of an operator, and may carry
a function that infers the types of its outputs.
-/

namespace TensorGraph

/-- A declared attribute.  An attribute that is neither required nor has a default may be absent,
and is then reported as absent. -/
structure AttributeSpec where
  name : String
  description : String
  type : AttrType
  required : Bool
  default? : Option Attribute

/-- A declared input or output.  Its type text is the name of a type variable, or a concrete tensor
type, whose element type is then in `dtype`. -/
structure Parameter where
  name : String
  description : String
  typeText : String
  dtype : DType
  deriving DecidableEq, Repr, Inhabited

/-- Whether the type of a parameter is given by a type variable. -/
def Parameter.isVariable (p : Parameter) : Bool := p.dtype == .invalid

/-- A type variable and the element types it can take.  All parameters with the same variable have
the same element type. -/
structure TypeConstraint where
  name : String
  allowed : List DType
  description : String
  deriving DecidableEq, Repr, Inhabited

namespace TypeConstraint

def allows (c : TypeConstraint) (t : DType) : Bool := c.allowed.contains t

def allowedTexts (c : TypeConstraint) : List String := c.allowed.map DType.tensorText

def text (c : TypeConstraint) : String :=
  c.name ++ " in (" ++ ", ".intercalate c.allowedTexts ++ ")"

end TypeConstraint

/-- All integer and floating-point element types. -/
def allNumericTypes : List DType :=
  [.uint8, .uint16, .uint32, .uint64, .int8, .int16, .int32, .int64, .float16, .float32, .float64]

/-- The numeric element types of at least 32 bits, and the 16-bit floating-point type. -/
def highPrecisionTypes : List DType :=
  [.uint32, .uint64, .int32, .int64, .float16, .float32, .float64]

/-- The contract of an operator. -/
structure OpSchema where
  name : String
  domain : String
  since : Int
  doc : String
  attributes : List AttributeSpec
  inputs : List Parameter
  outputs : List Parameter
  constraints : List TypeConstraint
  inference? : Option InferenceFn

namespace OpSchema

/-- The declaration of an attribute. -/
def attribute? (s : OpSchema) (name : String) : Option AttributeSpec :=
  s.attributes.find? (·.name == name)

/-- The type variable with a name. -/
def constraint? (s : OpSchema) (name : String) : Option TypeConstraint :=
  s.constraints.find? (·.name == name)

/-- Runs the inference function; without one nothing happens. -/
def infer (s : OpSchema) : InferenceFn := InferenceFn.run (s.inference?.getD InferenceFn.idle)

/-- Name and version, after the domain unless that is the default one. -/
def text (s : OpSchema) : String :=
  (if s.domain = "" then "" else s.domain ++ "::") ++ s.name ++ "-" ++ toString s.since

end OpSchema

end TensorGraph
