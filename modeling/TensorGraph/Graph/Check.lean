import TensorGraph.Graph.Basic
import TensorGraph.Schema.Basic

/-!
# Graph/Check — nodes and graphs against the schemas of their operators

A node is checked in stages: attributes, inputs, number of outputs, inference, and the declared
types of the outputs.  Checking the inputs binds type variables to element types, and these
bindings complete the outputs.  A graph is checked node by node; every value gets its type where it
is defined.
-/

namespace TensorGraph

/-- Finds the schema of an operator for an opset: by domain, name and opset version. -/
abbrev SchemaLookup := String → String → Int → Option OpSchema

/-- The opset of graphs that name none, where no other is chosen for them. -/
def usualOpset : Int := 13

/-- What is checked against: a source of schemas, whether undeclared attributes are refused, and
the opset of graphs that name none. -/
structure Checker where
  lookup : SchemaLookup
  strict : Bool := true
  defaultOpset : Int := usualOpset

namespace Checker

/-- Sets the opset of graphs that name none; only a positive one counts. -/
def withDefaultOpset (c : Checker) (version : Int) : Checker :=
  if 0 < version then { c with defaultOpset := version } else c

def withStrict (c : Checker) (strict : Bool) : Checker := { c with strict := strict }

/-- The opset in effect where `version` is asked for. -/
def opset (c : Checker) (version : Int) : Int := if version ≤ 0 then c.defaultOpset else version

end Checker

/-- What is wrong with a node that has a schema. -/
inductive NodeFault where
  | attributeRepeated (name : String)
  | attributeUndeclared (name : String)
  | attributeType (name : String) (declared given : AttrType)
  | attributeMissing (name : String)
  | inputsBeyond (given declared : Nat)
  | inputMissing (index : Nat) (name : String)
  | inputNotTensor (index : Nat) (name : String) (type : ValueType)
  | inputType (index : Nat) (name : String) (declared : String) (type : ValueType)
  | inputNotAllowed (index : Nat) (name : String) (type : ValueType) (c : TypeConstraint)
  | inputBinding (index : Nat) (name : String) (dtype : DType) (typeVar : String) (bound : DType)
  | outputsBeyond (given declared : Nat)
  | inference (cause : InferenceFailure)
  | outputType (index : Nat) (name : String) (type : ValueType) (declared : String)

/-- The place of a parameter in messages about a node. -/
def nodePlace (word : String) (index : Nat) (name : String) : String :=
  word ++ " #" ++ toString index ++ " (" ++ Text.quote name ++ ")"

def NodeFault.message : NodeFault → String
  | attributeRepeated n => "attribute " ++ Text.quote n ++ " set more than once"
  | attributeUndeclared n => "attribute " ++ Text.quote n ++ " is not declared by the operator"
  | attributeType n declared given =>
    "attribute " ++ Text.quote n ++ " must be of type " ++ declared.name ++ ", got " ++ given.name
  | attributeMissing n => "required attribute " ++ Text.quote n ++ " is missing"
  | inputsBeyond given declared =>
    toString given ++ " inputs given, but the operator takes only " ++ toString declared
  | inputMissing i n => nodePlace "input" i n ++ " is missing"
  | inputNotTensor i n t => nodePlace "input" i n ++ " must be a tensor, got " ++ t.text
  | inputType i n declared t =>
    nodePlace "input" i n ++ " must be " ++ declared ++ ", got " ++ t.text
  | inputNotAllowed i n t c =>
    nodePlace "input" i n ++ " has type " ++ t.text ++ ", not allowed by the type constraint " ++
      c.text
  | inputBinding i n dtype typeVar bound =>
    nodePlace "input" i n ++ " has element type " ++ dtype.name ++ ", but type " ++ typeVar ++
      " is already bound to " ++ bound.name
  | outputsBeyond given declared =>
    toString given ++ " outputs given, but the operator has only " ++ toString declared
  | inference e => e.message
  | outputType i n t declared =>
    nodePlace "output" i n ++ " was inferred as " ++ t.text ++ ", but the operator declares " ++
      declared

/-- Why a node is refused: its operator has no schema, or something is wrong by its schema. -/
inductive NodeError where
  | noSchema (node op domain : String) (opset : Int)
  | fault (node schema : String) (cause : NodeFault)

namespace NodeError

/-- Whether the contract of the operator is broken in inference. -/
def isViolation : NodeError → Bool
  | fault _ _ (.inference e) => e.isViolation
  | _ => false

def message : NodeError → String
  | noSchema node op domain opset =>
    "node " ++ node ++ ": no schema for operator " ++ Text.quote op ++ " in domain " ++
      Text.quote domain ++ " for opset " ++ toString opset
  | fault node schema cause =>
    "node " ++ node ++ " (schema " ++ schema ++ "): " ++ cause.message

end NodeError

/-- Checks attributes in order against their declarations; `seen` are the names before them. -/
def checkAttributesFrom (strict : Bool) (s : OpSchema) (seen : List String) :
    List Attribute → Except NodeFault Unit
  | [] => .ok ()
  | a :: as => do
    if seen.contains a.name then throw (.attributeRepeated a.name)
    match s.attribute? a.name with
    | none => if strict then throw (.attributeUndeclared a.name)
    | some spec => if a.type ≠ spec.type then throw (.attributeType a.name spec.type a.type)
    checkAttributesFrom strict s (a.name :: seen) as

/-- Checks that attributes are declared, of the declared type and set once, and that the required
ones are there. -/
def checkAttributes (strict : Bool) (s : OpSchema) (attributes : List Attribute) :
    Except NodeFault Unit := do
  checkAttributesFrom strict s [] attributes
  match s.attributes.find? fun spec => spec.required && !attributes.any (·.name == spec.name) with
  | some spec => throw (.attributeMissing spec.name)
  | none => return ()

/-- Type variables with the element types they stand for. -/
abbrev Bindings := List (String × DType)

/-- Checks one input against its parameter and binds its type variable. -/
def checkInput (s : OpSchema) (index : Nat) (p : Parameter) (input : Option ValueType)
    (bindings : Bindings) : Except NodeFault Bindings :=
  match input with
  | none => .error (.inputMissing index p.name)
  | some t =>
    if t.kind = .notSet then .ok bindings
    else if !t.isTensor then .error (.inputNotTensor index p.name t)
    else if t.dtype = .invalid then .ok bindings
    else if !p.isVariable then
      if t.dtype = p.dtype then .ok bindings else .error (.inputType index p.name p.typeText t)
    else
      let c := (s.constraint? p.typeText).getD ⟨"", [], ""⟩
      if !c.allows t.dtype then .error (.inputNotAllowed index p.name t c)
      else match bindings.lookup p.typeText with
        | none => .ok ((p.typeText, t.dtype) :: bindings)
        | some bound =>
          if bound = t.dtype then .ok bindings
          else .error (.inputBinding index p.name t.dtype p.typeText bound)

/-- Checks inputs in order against the parameters from position `index` on. -/
def checkInputsFrom (s : OpSchema) (index : Nat) (bindings : Bindings) :
    List Parameter → List (Option ValueType) → Except NodeFault Bindings
  | [], _ => .ok bindings
  | p :: ps, inputs => do
    let bindings ← checkInput s index p inputs.head?.join bindings
    checkInputsFrom s (index + 1) bindings ps inputs.tail

/-- Checks the inputs of a node, and answers with the element types bound to type variables. -/
def checkInputs (s : OpSchema) (inputs : List (Option ValueType)) : Except NodeFault Bindings :=
  if s.inputs.length < inputs.length then
    .error (.inputsBeyond inputs.length s.inputs.length)
  else checkInputsFrom s 0 [] s.inputs inputs

/-- The element type an output has to have: the declared one, or the one bound to its type
variable. -/
def expectedElem (bindings : Bindings) (p : Parameter) : DType :=
  if p.isVariable then (bindings.lookup p.typeText).getD .invalid else p.dtype

/-- Gives an output the element type it has to have, or checks the one that inference found. -/
def completeOutput (bindings : Bindings) (index : Nat) (p : Parameter) (t : ValueType) :
    Except NodeFault ValueType :=
  if t.kind ≠ .notSet ∧ !t.isTensor then .ok t
  else
    let expected := expectedElem bindings p
    if expected = .invalid then .ok t
    else if t.dtype = .invalid then .ok (t.withElem expected)
    else if t.dtype = expected then .ok t
    else .error (.outputType index p.name t p.typeText)

/-- Completes outputs in order, the first at position `index`; an output without a parameter stays
as it is. -/
def completeOutputsFrom (bindings : Bindings) (index : Nat) :
    List Parameter → List ValueType → Except NodeFault (List ValueType)
  | p :: ps, t :: ts => do
    let t ← completeOutput bindings index p t
    let ts ← completeOutputsFrom bindings (index + 1) ps ts
    return t :: ts
  | _, ts => .ok ts

/-- Completes the outputs of a node. -/
def completeOutputs (s : OpSchema) (bindings : Bindings) (outputs : List ValueType) :
    Except NodeFault (List ValueType) :=
  completeOutputsFrom bindings 0 s.outputs outputs

/-- The declared defaults of attributes that a node does not set. -/
def missingDefaults (s : OpSchema) (attributes : List Attribute) : List Attribute :=
  s.attributes.filterMap fun spec =>
    if attributes.any (·.name == spec.name) then none else spec.default?

/-- The view of a node that its inference works on: its attributes with the defaults of those not
set, its inputs, and an empty slot for each output it names, or for each declared output if it
names none. -/
def nodeContext (s : OpSchema) (n : Node) (inputs : List (Option ValueType)) :
    InferenceContext :=
  let count := if n.outputs.isEmpty then s.outputs.length else n.outputs.length
  { attributes := n.attributes ++ missingDefaults s n.attributes
    inputs := inputs
    outputs := List.replicate count (some .unset) }

/-- The types in output slots. -/
def slotTypes (slots : Slots) : List ValueType := slots.map (·.getD .unset)

/-- The stages of checking a node that come after its schema is found. -/
def checkAgainst (strict : Bool) (s : OpSchema) (n : Node) (inputs : List (Option ValueType)) :
    Except NodeFault (List ValueType) := do
  checkAttributes strict s n.attributes
  let bindings ← checkInputs s inputs
  if s.outputs.length < n.outputs.length then
    throw (.outputsBeyond n.outputs.length s.outputs.length)
  let outcome := s.infer (nodeContext s n inputs)
  if let some e := outcome.failure then throw (.inference e)
  completeOutputs s bindings (slotTypes outcome.slots)

/-- Checks a node whose inputs have the given types, and answers with the types of its outputs. -/
def Checker.checkNode (c : Checker) (n : Node) (inputs : List (Option ValueType))
    (version : Int) : Except NodeError (List ValueType) :=
  let opset := c.opset version
  match c.lookup n.domain n.op opset with
  | none => .error (.noSchema n.text n.op n.domain opset)
  | some s =>
    match checkAgainst c.strict s n inputs with
    | .ok types => .ok types
    | .error e => .error (.fault n.text s.text e)

/-- The values of a graph with their types, in the order of definition. -/
abbrev Typing := List (String × ValueType)

/-- Why a graph is refused. -/
inductive GraphFault where
  | inputUnnamed
  | inputRepeated (name : String)
  | undefined (index : Nat) (node name : String)
  | node (index : Nat) (cause : NodeError)
  | redefined (index : Nat) (node name : String)

/-- A fault with the graph it is in. -/
structure GraphError where
  graph : String
  fault : GraphFault

namespace GraphError

/-- Whether the contract of an operator is broken in inference. -/
def isViolation (e : GraphError) : Bool :=
  match e.fault with
  | .node _ cause => cause.isViolation
  | _ => false

def message (e : GraphError) : String :=
  let place := "graph " ++ Text.quote e.graph ++ ": "
  match e.fault with
  | .inputUnnamed => place ++ "graph input with empty name"
  | .inputRepeated n => place ++ "input " ++ Text.quote n ++ " defined more than once"
  | .undefined i node n =>
    place ++ "node #" ++ toString i ++ " " ++ node ++ " uses undefined value " ++ Text.quote n
  | .node i cause => place ++ "node #" ++ toString i ++ ": " ++ cause.message
  | .redefined i node n =>
    place ++ "node #" ++ toString i ++ " " ++ node ++ " redefines value " ++ Text.quote n

end GraphError

/-- Adds the inputs of a graph to what is typed. -/
def typeInputs (typing : Typing) : List ValueInfo → Except GraphFault Typing
  | [] => .ok typing
  | v :: vs =>
    if v.name = "" then .error .inputUnnamed
    else if (typing.lookup v.name).isSome then .error (.inputRepeated v.name)
    else typeInputs (typing ++ [(v.name, v.type)]) vs

/-- The types of the inputs of a node; an input that is not given has none. -/
def inputTypes (typing : Typing) (index : Nat) (n : Node) :
    List String → Except GraphFault (List (Option ValueType))
  | [] => .ok []
  | name :: names => do
    let t ← if name = "" then pure none
      else match typing.lookup name with
        | some t => pure (some t)
        | none => throw (.undefined index n.text name)
    let ts ← inputTypes typing index n names
    return t :: ts

/-- Adds the outputs of a node to what is typed; an output without a name is dropped. -/
def typeOutputs (typing : Typing) (index : Nat) (n : Node) :
    List String → List ValueType → Except GraphFault Typing
  | name :: names, t :: ts =>
    if name = "" then typeOutputs typing index n names ts
    else if (typing.lookup name).isSome then .error (.redefined index n.text name)
    else typeOutputs (typing ++ [(name, t)]) index n names ts
  | _, _ => .ok typing

/-- Checks nodes in order, the first at position `index`, and adds their outputs to what is
typed. -/
def Checker.typeNodes (c : Checker) (opset : Int) (typing : Typing) (index : Nat) :
    List Node → Except GraphFault Typing
  | [] => .ok typing
  | n :: ns => do
    let inputs ← inputTypes typing index n n.inputs
    let types ← match c.checkNode n inputs opset with
      | .ok types => pure types
      | .error e => throw (.node index e)
    let typing ← typeOutputs typing index n n.outputs types
    c.typeNodes opset typing (index + 1) ns

/-- Checks every node of a graph, and types its inputs and the outputs of its nodes. -/
def Checker.checkGraph (c : Checker) (g : Graph) : Except GraphError Typing :=
  let run := do
    let typing ← typeInputs [] g.inputs
    c.typeNodes (c.opset g.opset) typing 0 g.nodes
  match run with
  | .ok typing => .ok typing
  | .error e => .error ⟨g.name, e⟩

end TensorGraph
