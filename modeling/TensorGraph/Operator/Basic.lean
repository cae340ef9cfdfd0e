import TensorGraph.Text.Case
import TensorGraph.Text.Quoted

/-!
# Operator/Basic — the operators with standard schemas
-/

namespace TensorGraph

/-- The operators, between two markers that no operator has. -/
inductive Operator where
  | invalid
  | reduceMax | reduceMin | reduceSum | reduceSumSquare | reduceMean | reduceProd
  | reduceLogSum | reduceLogSumExp | reduceL1 | reduceL2
  | argMax | argMin
  | last
  | other (code : Int)
  deriving DecidableEq, Repr, Inhabited

namespace Operator

/-- The listed values with their names, in the order of their codes. -/
def listed : List (Operator × String) := [
  (invalid, "Invalid"), (reduceMax, "ReduceMax"), (reduceMin, "ReduceMin"),
  (reduceSum, "ReduceSum"), (reduceSumSquare, "ReduceSumSquare"), (reduceMean, "ReduceMean"),
  (reduceProd, "ReduceProd"), (reduceLogSum, "ReduceLogSum"),
  (reduceLogSumExp, "ReduceLogSumExp"), (reduceL1, "ReduceL1"), (reduceL2, "ReduceL2"),
  (argMax, "ArgMax"), (argMin, "ArgMin"), (last, "Last")]

/-- The operator with a code. -/
def ofCode (code : Int) : Operator :=
  if code < 0 then other code
  else match listed[code.toNat]? with
    | some (op, _) => op
    | none => other code

/-- The name of an operator. -/
def name : Operator → String
  | other code => "OpType(" ++ toString code ++ ")"
  | op => (listed.lookup op).getD ""

/-- The name of an operator in snake case. -/
def snakeName (op : Operator) : String := Text.snakeCase op.name

/-- The operators that reduce over a list of axes. -/
def reductions : List Operator :=
  [reduceMax, reduceMin, reduceSum, reduceSumSquare, reduceMean, reduceProd, reduceLogSum,
   reduceLogSumExp, reduceL1, reduceL2]

/-- The operators that yield positions along one axis. -/
def indexReductions : List Operator := [argMax, argMin]

/-- The operators that have a standard schema, in the order of their codes. -/
def all : List Operator := reductions ++ indexReductions

/-- A name that no operator has. -/
structure Unknown where
  name : String
  deriving DecidableEq, Repr

def Unknown.message (e : Unknown) : String := "unknown operator " ++ Text.quote e.name

end Operator

/-- A name that a list of values does not have. -/
structure NotListed where
  enumeration : String
  name : String
  deriving DecidableEq, Repr

def NotListed.message (e : NotListed) : String :=
  e.name ++ " does not belong to " ++ e.enumeration ++ " values"

/-- Whether a text spells a name: as it is, or all in lower case. -/
def spells (s name : String) : Bool := s == name || s == Text.lowercase name

/-- Finds a value by name in a list of named values, first by the text as written, then by its
lower-case form. -/
def findListed {α : Type} (enumeration : String) (listed : List (α × String)) (s : String) :
    Except NotListed α :=
  match (listed.find? (spells s ·.2)).or (listed.find? (spells (Text.lowercase s) ·.2)) with
  | some (a, _) => .ok a
  | none => .error ⟨enumeration, s⟩

namespace Operator

/-- The listed operator with a name, markers included. -/
def ofListedName (s : String) : Except NotListed Operator := findListed "OpType" listed s

/-- The operator with a name: in snake case, or as it is named in any case. -/
def ofName (s : String) : Except Unknown Operator :=
  match all.find? (·.snakeName == s) with
  | some op => .ok op
  | none =>
    match ofListedName s with
    | .ok op => if op = invalid ∨ op = last then .error ⟨s⟩ else .ok op
    | .error _ => .error ⟨s⟩

end Operator

end TensorGraph
