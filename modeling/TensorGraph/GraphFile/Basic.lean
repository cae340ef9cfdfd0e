import TensorGraph.Graph.Basic
import TensorGraph.GraphFile.AttributeValue
import TensorGraph.Yaml.Document

/-!
# GraphFile/Basic — graphs from files

The text of a graph file is read in three steps, each with faults of its own:

    text  →  document  →  entries  →  graph
-/

namespace TensorGraph

namespace GraphFile

/-- Why a text describes no graph. -/
inductive Fault where
  | empty
  | malformed (cause : Yaml.SyntaxFault)
  | decode (cause : Yaml.DecodeFault)
  | input (index : Nat) (name : String) (cause : InputFault)
  | noOperator (index : Nat) (name : String)
  | attributes (index : Nat) (name : String) (cause : AttributesFault)

def Fault.message : Fault → String
  | empty => "empty graph description"
  | malformed cause => "failed to parse graph description: " ++ cause.message
  | decode cause => "failed to parse graph description: " ++ cause.message
  | input index name cause =>
    "input #" ++ toString index ++ " (" ++ Text.quote name ++ "): " ++ cause.message
  | noOperator index name =>
    "node #" ++ toString index ++ " (" ++ Text.quote name ++ ") has no op"
  | attributes index name cause =>
    "node #" ++ toString index ++ " (" ++ Text.quote name ++ "): " ++ cause.message

/-- Whether the text itself cannot be read, whatever it was meant to describe. -/
def Fault.isSyntax : Fault → Bool
  | malformed _ => true
  | decode (.unreadable _) => true
  | _ => false

/-- The entries of a graph file. -/
def Entries.ofText (text : String) : Except Fault Entries :=
  match Yaml.Document.first? text with
  | .error e => .error (.malformed e)
  | .ok none => .error .empty
  | .ok (some d) =>
    match d.decode Entries.decode d.root with
    | .ok entries? => .ok (entries?.getD {})
    | .error e => .error (.decode e)

/-- The input at a position. -/
def InputEntry.value (e : InputEntry) (index : Nat) : Except Fault ValueInfo :=
  match e.type with
  | .ok type => .ok ⟨e.name, type⟩
  | .error cause => .error (.input index e.name cause)

/-- The node at a position. -/
def NodeEntry.node (e : NodeEntry) (index : Nat) : Except Fault Node :=
  if e.op = "" then .error (.noOperator index e.name)
  else match readAttributes e.attributes? with
    | .ok attributes => .ok ⟨e.name, e.op, e.domain, e.inputs, e.outputs, attributes⟩
    | .error cause => .error (.attributes index e.name cause)

/-- The graph that the entries describe. -/
def Entries.graph (e : Entries) : Except Fault Graph := do
  let inputs ← e.inputs.zipIdx.mapM fun (entry, index) => entry.value index
  let nodes ← e.nodes.zipIdx.mapM fun (entry, index) => entry.node index
  return ⟨e.name, e.opset.toInt, inputs, nodes⟩

end GraphFile

/-- The graph that a text describes. -/
def Graph.ofText (text : String) : Except GraphFile.Fault Graph := do
  (← GraphFile.Entries.ofText text).graph

namespace GraphFile

/-! ## Files -/

/-- Why a file cannot be read. -/
inductive ReadFault where
  | missing
  | notDirectory
  | directory
  | other (reason : String)
  deriving DecidableEq, Repr

def ReadFault.message (path : String) : ReadFault → String
  | missing => "open " ++ path ++ ": no such file or directory"
  | notDirectory => "open " ++ path ++ ": not a directory"
  | directory => "read " ++ path ++ ": is a directory"
  | other reason => "open " ++ path ++ ": " ++ reason

/-- Why a file gives no graph. -/
inductive LoadFault where
  | read (path : String) (cause : ReadFault)
  | parse (path : String) (cause : Fault)

def LoadFault.message : LoadFault → String
  | read path cause => "failed to read graph file " ++ Text.quote path ++ ": " ++ cause.message path
  | parse path cause => "graph file " ++ Text.quote path ++ ": " ++ cause.message

/-- Whether the file holds a text that cannot be read. -/
def LoadFault.isSyntax : LoadFault → Bool
  | parse _ cause => cause.isSyntax
  | read _ _ => false

/-- The graph in a file, given what reading the file gave. -/
def load (path : String) (contents : Except ReadFault String) : Except LoadFault Graph :=
  match contents with
  | .error e => .error (.read path e)
  | .ok text =>
    match Graph.ofText text with
    | .ok g => .ok g
    | .error e => .error (.parse path e)

end GraphFile

end TensorGraph
