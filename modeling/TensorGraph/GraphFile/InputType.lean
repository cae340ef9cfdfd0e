import TensorGraph.GraphFile.Entry
import TensorGraph.Tensor.ValueType
import TensorGraph.Text.Basic

/-!
# GraphFile/InputType — the types of graph inputs

An input has an element type and may have a shape: a list of sizes, names, and question marks for
dimensions that are not known.  Without a shape the rank is unknown; the empty list is a scalar.
-/

namespace TensorGraph.GraphFile

/-- An entry of a shape that is no dimension. -/
inductive DimFault where
  | notScalar (line : Nat)
  | invalid (line : Nat) (text : String)
  | invalidSymbol (line : Nat) (text : String)
  | negative (cause : Dim.Negative)
  deriving DecidableEq, Repr

def DimFault.message : DimFault → String
  | notScalar line => "line " ++ toString line ++ ": invalid dimension"
  | invalid line text => "line " ++ toString line ++ ": invalid dimension " ++ Text.quote text
  | invalidSymbol line text =>
    "line " ++ toString line ++ ": invalid symbolic dimension " ++ Text.quote text
  | negative cause => cause.message

/-- Reads a dimension.  Sizes are decimal numerals. -/
def readDim [Yaml.Resolution] : Yaml.Node → Except DimFault Dim
  | .scalar s =>
    if s.tag = "!!int" then
      match Number.integerInBase 10 s.text.toList with
      | .ok i =>
        if i < 0 then .error (.invalid s.line s.text)
        else match Dim.ofInt i with
          | .ok d => .ok d
          | .error e => .error (.negative e)
      | .error _ => .error (.invalid s.line s.text)
    else if s.tag = "!!str" then
      if s.text = "?" ∨ s.text = "" then .ok .unknown
      else if Text.isIdentifier s.text then .ok (.symbolic s.text)
      else .error (.invalidSymbol s.line s.text)
    else .error (.invalid s.line s.text)
  | n => .error (.notScalar n.line)

/-- Why an input has no type. -/
inductive InputFault where
  | missingElement
  | element (cause : DType.UnknownElement)
  | shapeNotList (line : Nat)
  | dim (cause : DimFault)
  deriving DecidableEq, Repr

def InputFault.message : InputFault → String
  | missingElement => "missing dtype"
  | element cause => cause.message
  | shapeNotList line => "line " ++ toString line ++ ": shape must be a list"
  | dim cause => cause.message

/-- Whether a node says nothing: it is missing or a null. -/
def isAbsent [Yaml.Resolution] : Option Yaml.Node → Bool
  | none => true
  | some (.scalar s) => s.tag == "!!null"
  | some _ => false

/-- The type with the dimensions that a shape lists. -/
def withShape [Yaml.Resolution] (t : ValueType) (shape? : Option Yaml.Node) :
    Except InputFault ValueType :=
  if isAbsent shape? then .ok t
  else match shape? with
    | some (.sequence _ _ items) =>
      match items.mapM readDim with
      | .ok dims => .ok (t.withDims dims)
      | .error e => .error (.dim e)
    | some n => .error (.shapeNotList n.line)
    | none => .ok t

/-- The type of an input. -/
def InputEntry.type [Yaml.Resolution] (e : InputEntry) : Except InputFault ValueType :=
  if e.dtype = "" then .error .missingElement
  else match DType.ofElementName e.dtype with
    | .error cause => .error (.element cause)
    | .ok dtype => withShape (.tensor dtype) e.shape?

end TensorGraph.GraphFile
