import TensorGraph.Text.Basic
import TensorGraph.Text.Case
import TensorGraph.Text.Quoted

/-!
# Tensor/DType — element types, their names, and the tensor type syntax

Every element type has a name and a code; fifteen of them also have a name in type texts such as
`tensor(float)`, and how the others are called there is a parameter (`DType.ElementNames`).  Codes
outside the list are kept, so that a foreign element type can be reported.
-/

namespace TensorGraph

/-- The element type of a tensor; `invalid` stands for one that is not known. -/
inductive DType where
  | invalid | bool
  | int8 | int16 | int32 | int64
  | uint8 | uint16 | uint32 | uint64
  | float16 | float32 | float64 | bfloat16
  | complex64 | complex128
  | f8e5m2 | f8e4m3fn | f8e4m3b11fnuz | f8e5m2fnuz | f8e4m3fnuz
  | s4 | u4 | token | s2 | u2
  | f8e4m3 | f8e3m4 | f8e8m0fnu | f4e2m1fn
  | other (code : Int)
  deriving DecidableEq, Repr, Inhabited

namespace DType

/-- The listed element types with their names, in the order of their codes. -/
def listed : List (DType × String) := [
  (invalid, "InvalidDType"), (bool, "Bool"),
  (int8, "Int8"), (int16, "Int16"), (int32, "Int32"), (int64, "Int64"),
  (uint8, "Uint8"), (uint16, "Uint16"), (uint32, "Uint32"), (uint64, "Uint64"),
  (float16, "Float16"), (float32, "Float32"), (float64, "Float64"), (bfloat16, "BFloat16"),
  (complex64, "Complex64"), (complex128, "Complex128"),
  (f8e5m2, "F8E5M2"), (f8e4m3fn, "F8E4M3FN"), (f8e4m3b11fnuz, "F8E4M3B11FNUZ"),
  (f8e5m2fnuz, "F8E5M2FNUZ"), (f8e4m3fnuz, "F8E4M3FNUZ"),
  (s4, "S4"), (u4, "U4"), (token, "TOKEN"), (s2, "S2"), (u2, "U2"),
  (f8e4m3, "F8E4M3"), (f8e3m4, "F8E3M4"), (f8e8m0fnu, "F8E8M0FNU"), (f4e2m1fn, "F4E2M1FN")]

/-- The element type with a code. -/
def ofCode (code : Int) : DType :=
  if code < 0 then other code
  else match listed[code.toNat]? with
    | some (t, _) => t
    | none => other code

/-- The name in the list, or the code. -/
def listedName : DType → String
  | other code => "DType(" ++ toString code ++ ")"
  | t => (listed.lookup t).getD ""

/-- The listed element type with a name. -/
def ofName? (s : String) : Option DType := (listed.find? (·.2 == s)).map (·.1)

/-- The names that type texts are read with, and the element types they name. -/
def namedElements : List (DType × String) := [
  (float64, "double"), (float32, "float"), (float16, "float16"), (bfloat16, "bfloat16"),
  (int64, "int64"), (int32, "int32"), (int16, "int16"), (int8, "int8"),
  (uint64, "uint64"), (uint32, "uint32"), (uint16, "uint16"), (uint8, "uint8"),
  (bool, "bool"), (complex64, "complex64"), (complex128, "complex128")]

/-- How element types are called where type texts have no name for them. -/
class ElementNames where
  name : DType → String

instance : ElementNames := ⟨listedName⟩

/-- The name of an element type. -/
def name [ElementNames] (t : DType) : String := ElementNames.name t

/-- The name of an element type in type texts. -/
def elementName [ElementNames] : DType → String
  | float64 => "double"
  | float32 => "float"
  | float16 => "float16"
  | bfloat16 => "bfloat16"
  | int64 => "int64"
  | int32 => "int32"
  | int16 => "int16"
  | int8 => "int8"
  | uint64 => "uint64"
  | uint32 => "uint32"
  | uint16 => "uint16"
  | uint8 => "uint8"
  | bool => "bool"
  | complex64 => "complex64"
  | complex128 => "complex128"
  | t => "unknown_dtype<" ++ t.name ++ ">"

/-- The type text of a tensor with these elements, such as `tensor(float)`. -/
def tensorText [ElementNames] (t : DType) : String := "tensor(" ++ t.elementName ++ ")"

/-- An element name that names no element type. -/
structure UnknownElement where
  name : String
  deriving DecidableEq, Repr

def UnknownElement.message (e : UnknownElement) : String :=
  "unknown ONNX element type " ++ Text.quote e.name

/-- Reads an element name; case and surrounding white space do not matter. -/
def ofElementName (s : String) : Except UnknownElement DType :=
  let key := Text.lowercase (Text.trim s)
  match namedElements.find? (·.2 == key) with
  | some (t, _) => .ok t
  | none => .error ⟨s⟩

end DType

/-- A text of the form `tensor(…)` whose inside names no element type. -/
structure TensorTextFault where
  text : String
  cause : DType.UnknownElement
  deriving DecidableEq, Repr

def TensorTextFault.message (e : TensorTextFault) : String :=
  "invalid tensor type " ++ Text.quote e.text ++ ": " ++ e.cause.message

/-- The characters between `tensor(` and a closing parenthesis at the very end. -/
def tensorTextInner? (s : String) : Option String :=
  let cs := s.toList
  let opening := "tensor(".toList
  if opening.isPrefixOf cs then
    match (cs.drop opening.length).reverse with
    | ')' :: inner => some (String.ofList inner.reverse)
    | _ => none
  else none

/-- Reads a concrete tensor type text.  The answer is none when the text does not have the form
`tensor(…)` at all. -/
def parseTensorText (s : String) : Option (Except TensorTextFault DType) :=
  (tensorTextInner? s).map fun inner =>
    match DType.ofElementName inner with
    | .ok t => .ok t
    | .error e => .error ⟨s, e⟩

end TensorGraph
