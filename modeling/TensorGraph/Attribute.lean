import TensorGraph.Tensor.Literal
import TensorGraph.Text.Quoted

/-!
# Attribute — named constants that configure a node
-/

namespace TensorGraph

/-- The types of attribute values; a code outside the list is kept as it is. -/
inductive AttrType where
  | undefined | float | int | string | tensor | floats | ints | strings
  | other (code : Int)
  deriving DecidableEq, Repr, Inhabited

namespace AttrType

/-- The listed types with their names, in the order of their codes. -/
def listed : List (AttrType × String) := [
  (undefined, "Undefined"), (float, "Float"), (int, "Int"), (string, "String"),
  (tensor, "Tensor"), (floats, "Floats"), (ints, "Ints"), (strings, "Strings")]

/-- The type with a code. -/
def ofCode (code : Int) : AttrType :=
  if code < 0 then other code
  else match listed[code.toNat]? with
    | some (t, _) => t
    | none => other code

def name : AttrType → String
  | other code => "AttrType(" ++ toString code ++ ")"
  | t => (listed.lookup t).getD ""

/-- Whether an attribute can be declared with this type. -/
def isDeclarable : AttrType → Bool
  | undefined => false
  | other _ => false
  | _ => true

end AttrType

/-- A type that no value has: the undefined one, or a code outside the list. -/
structure BareType where
  type : AttrType
  bare : type.isDeclarable = false

/-- A type as one that no value has; a type that has values stands for the undefined one. -/
def BareType.ofType (t : AttrType) : BareType :=
  if h : t.isDeclarable = false then ⟨t, h⟩ else ⟨.undefined, rfl⟩

theorem BareType.type_ne (b : BareType) {t : AttrType} (h : t.isDeclarable = true) : b.type ≠ t := by
  rintro rfl
  cases h.symm.trans b.bare

instance : Coe AttrType BareType := ⟨BareType.ofType⟩

/-- The value of an attribute.  A value without a usable type carries only that type. -/
inductive AttrValue where
  | untyped (type : BareType)
  | float (value : Number.Single)
  | int (value : Int64)
  | string (value : String)
  | tensor (value : Option Tensor)
  | floats (values : List Number.Single)
  | ints (values : List Int64)
  | strings (values : List String)

namespace AttrValue

def type : AttrValue → AttrType
  | untyped t => t.type
  | float _ => .float
  | int _ => .int
  | string _ => .string
  | tensor _ => .tensor
  | floats _ => .floats
  | ints _ => .ints
  | strings _ => .strings

/-- The values of type `int` are the integers. -/
theorem type_eq_int_iff {v : AttrValue} : v.type = .int ↔ ∃ i, v = .int i := by
  cases v with
  | untyped b => exact iff_of_false (b.type_ne rfl) (by simp)
  | _ => simp [type]

/-- The values of type `ints` are the lists of integers. -/
theorem type_eq_ints_iff {v : AttrValue} : v.type = .ints ↔ ∃ is, v = .ints is := by
  cases v with
  | untyped b => exact iff_of_false (b.type_ne rfl) (by simp)
  | _ => simp [type]

/-- Texts between brackets, separated by spaces. -/
def listText (parts : List String) : String := "[" ++ " ".intercalate parts ++ "]"

/-- The text of a value: strings are quoted, strings in a list are not, and a tensor shows its
shape. -/
def text : AttrValue → String
  | untyped _ => "<undefined>"
  | float x => x.text
  | int i => toString i.toInt
  | string s => Text.quote s
  | tensor none => "<nil tensor>"
  | tensor (some t) => t.shape.text
  | floats xs => listText (xs.map Number.Single.text)
  | ints is => listText (is.map fun i => toString i.toInt)
  | strings ss => "[" ++ ", ".intercalate ss ++ "]"

/-- The integers of a list of integers; no other value has any. -/
def intList : AttrValue → List Int64
  | ints is => is
  | _ => []

end AttrValue

/-- A value with the name it is given by. -/
structure Attribute where
  name : String
  value : AttrValue

namespace Attribute

def type (a : Attribute) : AttrType := a.value.type

def rename (a : Attribute) (name : String) : Attribute := { a with name := name }

def text (a : Attribute) : String := a.name ++ "=" ++ a.value.text

end Attribute

end TensorGraph
