import TensorGraph.Attribute
import TensorGraph.Tensor.ValueType

/-!
# Graph/Basic — nodes and graphs
-/

namespace TensorGraph

/-- One operation of a graph.  An empty input name stands for an input that is not given. -/
structure Node where
  name : String
  op : String
  domain : String
  inputs : List String
  outputs : List String
  attributes : List Attribute

/-- The operator, after its domain unless that is the default one, and after the quoted name of
the node if it has one. -/
def Node.text (n : Node) : String :=
  let op := if n.domain = "" then n.op else n.domain ++ "::" ++ n.op
  if n.name = "" then op else Text.quote n.name ++ " (" ++ op ++ ")"

/-- A named value with its type. -/
structure ValueInfo where
  name : String
  type : ValueType

def ValueInfo.text (v : ValueInfo) : String := v.name ++ ": " ++ v.type.text

/-- Nodes in the order of evaluation, fed by the inputs of the graph. -/
structure Graph where
  name : String
  opset : Int
  inputs : List ValueInfo
  nodes : List Node

/-- A line for the graph, for each input and for each node. -/
def Graph.text (g : Graph) : String :=
  let head := "graph " ++ Text.quote g.name ++ " (opset " ++ toString g.opset ++ "):\n"
  let inputs := g.inputs.map fun v => "\tinput " ++ v.text ++ "\n"
  let nodes := g.nodes.map fun n =>
    "\t" ++ ", ".intercalate n.outputs ++ " = " ++ n.text ++ "(" ++
      ", ".intercalate n.inputs ++ ")\n"
  head ++ "".intercalate inputs ++ "".intercalate nodes

end TensorGraph
