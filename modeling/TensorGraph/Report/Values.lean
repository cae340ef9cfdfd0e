import TensorGraph.Graph.Check
import TensorGraph.GraphFile.Basic
import TensorGraph.Report.Layout

/-!
# Report/Values — the types found in a graph
-/

namespace TensorGraph

namespace Report

/-- The values of a graph with what produces them: its inputs, and then the outputs of its nodes. -/
def producers (g : Graph) : List (String × String) :=
  g.inputs.map (fun v => (v.name, "<input>")) ++
    g.nodes.flatMap fun n => (n.outputs.filter (· ≠ "")).map fun output => (output, n.text)

/-- The row of a value. -/
def valueRow (typing : Typing) (value : String × String) : List String :=
  let t := (typing.lookup value.1).getD .unset
  [value.1, value.2, t.text, t.elementsText]

/-- The table of all values of a graph, a row for each. -/
def valuesTable (g : Graph) (typing : Typing) : Table :=
  ⟨["Value", "Producer", "Type", "Elements"], (producers g).map (valueRow typing)⟩

/-- The types of all values of a graph. -/
def values [Style] (g : Graph) (typing : Typing) : String :=
  Style.title ((if g.name = "" then "Graph" else g.name) ++ ": " ++ toString g.nodes.length ++
      " nodes checked") ++
    Style.table (valuesTable g typing)

end Report

/-- Why a file gives no report. -/
inductive CheckFault where
  | load (cause : GraphFile.LoadFault)
  | check (cause : GraphError)

namespace CheckFault

def message : CheckFault → String
  | load cause => cause.message
  | check cause => cause.message

/-- Whether the file holds a text that cannot be read. -/
def isSyntax : CheckFault → Bool
  | load cause => cause.isSyntax
  | check _ => false

/-- Whether the contract of an operator is broken in inference. -/
def isViolation : CheckFault → Bool
  | load _ => false
  | check cause => cause.isViolation

end CheckFault

/-- Checks the graph in a file and reports the types of its values. -/
def Checker.report [Report.Style] (c : Checker) (path : String)
    (contents : Except GraphFile.ReadFault String) : Except CheckFault String :=
  match GraphFile.load path contents with
  | .error e => .error (.load e)
  | .ok g =>
    match c.checkGraph g with
    | .error e => .error (.check e)
    | .ok typing => .ok (Report.values g typing)

end TensorGraph
