/-!
# Tensor/Dim — the dimension of one axis

A dimension is static, named by a symbol, or unknown.  Inference never needs the value of a
dimension that is not static: it copies such dimensions as they are.
-/

namespace TensorGraph

/-- The size of a tensor along one axis. -/
inductive Dim where
  | static (size : Nat)
  | symbolic (name : String)
  | unknown
  deriving DecidableEq, Repr, Inhabited

namespace Dim

/-- A dimension with a name; the empty name says nothing. -/
def named (name : String) : Dim := if name = "" then unknown else symbolic name

/-- A size that no dimension has. -/
structure Negative where
  size : Int
  deriving DecidableEq, Repr

def Negative.message (e : Negative) : String :=
  "shapes.Static(" ++ toString e.size ++ "): dimension cannot be negative"

/-- A static dimension of the given size, which must not be negative. -/
def ofInt (size : Int) : Except Negative Dim :=
  if size < 0 then .error ⟨size⟩ else .ok (static size.toNat)

def isStatic : Dim → Bool
  | static _ => true
  | _ => false

def isSymbolic : Dim → Bool
  | symbolic _ => true
  | _ => false

def isUnknown : Dim → Bool
  | unknown => true
  | _ => false

/-- The size of a static dimension. -/
def size? : Dim → Option Nat
  | static n => some n
  | _ => none

/-- The name of a symbolic dimension. -/
def symbol? : Dim → Option String
  | symbolic s => some s
  | _ => none

/-- A size, a name, or a question mark. -/
def text : Dim → String
  | static n => toString n
  | symbolic s => s
  | unknown => "?"

end Dim

/-- Dimensions between brackets. -/
def dimsText (dims : List Dim) : String := "[" ++ " ".intercalate (dims.map Dim.text) ++ "]"

end TensorGraph
