import TensorGraph.Inference.Reduce
import TensorGraph.Operator.Basic
import TensorGraph.Schema.Draft

/-!
# Operator/Reduction — the schemas of the reductions

The operators of a family share one recipe, a list of declarations, and differ by name and
documentation only.
-/

namespace TensorGraph

/-- The version that introduced the reductions. -/
def reductionSince : Int := 1

/-- Documentation of a reduction over axes. -/
def reduceDoc (name : String) : String :=
  "\nComputes the " ++ name ++ " of the input tensor's element along the provided axes. " ++
  "The resulted\n" ++
  "tensor has the same rank as the input if keepdims equal 1. If keepdims equal 0, then\n" ++
  "the resulted tensor have the reduced dimension pruned.\n\n" ++
  "The above behavior is similar to numpy, with the exception that numpy default keepdims to\n" ++
  "False instead of True."

/-- Documentation of an index reduction. -/
def argReduceDoc (name : String) : String :=
  "\nComputes the indices of the " ++ name ++
  " elements of the input tensor's element along the\n" ++
  "provided axis. The resulted tensor has the same rank as the input if keepdims equal 1.\n" ++
  "If keepdims equal 0, then the resulted tensor have the reduced dimension pruned.\n" ++
  "The type of the output tensor is integer."

def axesDescription : String :=
  "A list of integers, along which to reduce. The default is to reduce over " ++
  "all the dimensions of the input tensor."

def axisDescription : String := "The axis in which to compute the arg indices. Default is 0."

def keepDimsDescription : String :=
  "Keep the reduced dimension or not, default 1 mean keep reduced dimension."

def dataDescription : String := "An input tensor."

def reducedDescription : String := "Reduced output tensor."

def indicesDescription : String := "Reduced output tensor with integer data type."

def reduceTypesDescription : String :=
  "Constrain input and output types to high-precision numeric tensors."

def argReduceTypesDescription : String :=
  "Constrain input and output types to all numeric tensors."

/-- The declarations of a reduction over axes. -/
def reduceRecipe (name : String) : List Declaration := [
  .doc (reduceDoc name),
  .attribute "axes" axesDescription .ints false,
  .attributeDefault "keepdims" keepDimsDescription ⟨"keepdims", .int 1⟩,
  .parameter .input 0 "data" dataDescription "T",
  .parameter .output 0 "reduced" reducedDescription "T",
  .constraint "T" highPrecisionTypes reduceTypesDescription,
  .inference (some inferReduce)]

/-- The declarations of an index reduction. -/
def argReduceRecipe (name : String) : List Declaration := [
  .doc (argReduceDoc name),
  .attributeDefault "axis" axisDescription ⟨"axis", .int 0⟩,
  .attributeDefault "keepdims" keepDimsDescription ⟨"keepdims", .int 1⟩,
  .parameter .input 0 "data" dataDescription "T",
  .parameter .output 0 "reduced" indicesDescription "tensor(int64)",
  .constraint "T" allNumericTypes argReduceTypesDescription,
  .inference (some inferArgReduce)]

/-- What a reduction computes, as the documentation says it. -/
def Operator.docName : Operator → String
  | reduceMax => "max"
  | reduceMin => "min"
  | reduceSum => "sum"
  | reduceSumSquare => "sum square"
  | reduceMean => "mean"
  | reduceProd => "product"
  | reduceLogSum => "log sum"
  | reduceLogSumExp => "log sum exponent"
  | reduceL1 => "L1 norm"
  | reduceL2 => "L2 norm"
  | argMax => "max"
  | argMin => "min"
  | _ => ""

/-- Why an operator has no standard schema. -/
inductive StandardFault where
  | notReduction (op : Operator)
  | build (cause : BuildFault)
  deriving DecidableEq, Repr

def StandardFault.message : StandardFault → String
  | notReduction op => op.name ++ " is not a reduction operator"
  | build e => e.message

/-- The declarations of an operator with a standard schema. -/
def Operator.recipe? (op : Operator) : Option (List Declaration) :=
  if reductions.contains op then some (reduceRecipe op.docName)
  else if indexReductions.contains op then some (argReduceRecipe op.docName)
  else none

/-- The standard schema of an operator. -/
def Operator.schema (op : Operator) : Except StandardFault OpSchema :=
  match op.recipe? with
  | none => .error (.notReduction op)
  | some recipe =>
    match ((Draft.new op.name).declareAll (.since reductionSince :: recipe)).build with
    | .ok s => .ok s
    | .error e => .error (.build e)

end TensorGraph
