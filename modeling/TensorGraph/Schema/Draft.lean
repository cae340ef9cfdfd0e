import TensorGraph.Schema.Basic
import TensorGraph.Text.Basic

/-!
# Schema/Draft — schemas under construction

A draft takes declarations one at a time.  Each slot — the documentation, an attribute name, an
input or output index, a type variable, the inference function — can be filled once.  A declaration
that is refused leaves the draft as it was, except that the first refusal is remembered and makes
every later attempt to build fail.
-/

namespace TensorGraph

/-- The two kinds of parameters. -/
inductive Side where
  | input | output
  deriving DecidableEq, Repr

def Side.word : Side → String
  | input => "input"
  | output => "output"

/-- One declaration about an operator. -/
inductive Declaration where
  | doc (text : String)
  | domain (domain : String)
  | since (version : Int)
  | attribute (name description : String) (type : AttrType) (required : Bool)
  | attributeDefault (name description : String) (value : Attribute)
  | parameter (side : Side) (index : Int) (name description typeText : String)
  | constraint (name : String) (allowed : List DType) (description : String)
  | inference (fn : Option InferenceFn)

/-- Why a declaration is refused. -/
inductive Refusal where
  | docRepeated
  | sinceTooSmall (version : Int)
  | attributeName (name : String)
  | attributeType (name : String) (type : AttrType)
  | attributeRepeated (name : String)
  | parameterIndex (side : Side) (index : Int)
  | parameterRepeated (side : Side) (index : Int)
  | parameterName (name : String) (side : Side) (index : Int)
  | parameterUntyped (side : Side) (index : Int) (name : String)
  | constraintName (name : String)
  | constraintEmpty (name : String)
  | constraintRepeated (name : String)
  | inferenceMissing
  | inferenceRepeated
  deriving DecidableEq, Repr

def Refusal.message : Refusal → String
  | docRepeated => "documentation set more than once"
  | sinceTooSmall v => "invalid since version " ++ toString v ++ ", it must be >= 1"
  | attributeName n => "invalid attribute name " ++ Text.quote n
  | attributeType n t => "attribute " ++ Text.quote n ++ " has invalid type " ++ t.name
  | attributeRepeated n => "attribute " ++ Text.quote n ++ " declared more than once"
  | parameterIndex s i => "invalid " ++ s.word ++ " index " ++ toString i
  | parameterRepeated s i => s.word ++ " #" ++ toString i ++ " declared more than once"
  | parameterName n s i =>
    "invalid name " ++ Text.quote n ++ " for " ++ s.word ++ " #" ++ toString i
  | parameterUntyped s i n =>
    "missing type for " ++ s.word ++ " #" ++ toString i ++ " (" ++ Text.quote n ++ ")"
  | constraintName n => "invalid type constraint name " ++ Text.quote n
  | constraintEmpty n => "type constraint " ++ Text.quote n ++ " allows no types"
  | constraintRepeated n => "type constraint " ++ Text.quote n ++ " declared more than once"
  | inferenceMissing => "nil inference function"
  | inferenceRepeated => "inference function set more than once"

/-- Why a draft does not make a schema. -/
inductive BuildFault where
  | refused (operator : String) (cause : Refusal)
  | operatorName (operator : String)
  | indexGap (operator : String) (side : Side) (index count : Nat)
  | parameterType (operator : String) (side : Side) (index : Nat) (name : String)
      (cause : TensorTextFault)
  | undeclared (operator : String) (side : Side) (index : Nat) (name typeText : String)
  deriving DecidableEq, Repr

/-- The place of a parameter in messages. -/
def parameterPlace (side : Side) (index : Nat) (name : String) : String :=
  side.word ++ " #" ++ toString index ++ " (" ++ Text.quote name ++ ")"

def BuildFault.message : BuildFault → String
  | refused op cause => "schema for operator " ++ Text.quote op ++ ": " ++ cause.message
  | operatorName op => "invalid operator name " ++ Text.quote op
  | indexGap op side index count =>
    "schema for operator " ++ Text.quote op ++ ": " ++ side.word ++
      " indices must be contiguous from 0, got index " ++ toString index ++ " for " ++
      toString count ++ " " ++ side.word ++ "s"
  | parameterType op side index name cause =>
    "schema for operator " ++ Text.quote op ++ ": " ++ parameterPlace side index name ++ ": " ++
      cause.message
  | undeclared op side index name typeText =>
    "schema for operator " ++ Text.quote op ++ ": " ++ parameterPlace side index name ++
      " refers to undeclared type constraint " ++ Text.quote typeText

/-- Parameters by index, in increasing order. -/
abbrev IndexedParameters := List (Nat × Parameter)

/-- Puts a parameter at its place. -/
def insertParameter (index : Nat) (p : Parameter) : IndexedParameters → IndexedParameters
  | [] => [(index, p)]
  | (i, q) :: rest =>
    if index < i then (index, p) :: (i, q) :: rest else (i, q) :: insertParameter index p rest

/-- A schema under construction. -/
structure Draft where
  name : String
  domain : String := ""
  since : Int := 1
  doc? : Option String := none
  attributes : List AttributeSpec := []
  inputs : IndexedParameters := []
  outputs : IndexedParameters := []
  constraints : List TypeConstraint := []
  inference? : Option InferenceFn := none
  refusal? : Option Refusal := none

namespace Draft

/-- The draft of an operator about which nothing is declared. -/
def new (name : String) : Draft := { name := name }

/-- The parameters of one side. -/
def parameters (d : Draft) : Side → IndexedParameters
  | .input => d.inputs
  | .output => d.outputs

/-- Adds an attribute whose name is an identifier not declared before and whose type is one of the
declarable ones. -/
def addAttribute (spec : AttributeSpec) : Action Refusal Draft Unit := do
  let d ← get
  if !Text.isIdentifier spec.name then throw (.attributeName spec.name)
  else if !spec.type.isDeclarable then throw (.attributeType spec.name spec.type)
  else if d.attributes.any (·.name == spec.name) then throw (.attributeRepeated spec.name)
  else set { d with attributes := d.attributes ++ [spec] }

/-- The draft with one more parameter. -/
def withParameter (d : Draft) (side : Side) (index : Nat) (p : Parameter) : Draft :=
  match side with
  | .input => { d with inputs := insertParameter index p d.inputs }
  | .output => { d with outputs := insertParameter index p d.outputs }

/-- Adds a parameter at a free index. -/
def addParameter (side : Side) (index : Int) (p : Parameter) : Action Refusal Draft Unit := do
  let d ← get
  if index < 0 then throw (.parameterIndex side index)
  else if (d.parameters side).any (·.1 == index.toNat) then throw (.parameterRepeated side index)
  else if !Text.isIdentifier p.name then throw (.parameterName p.name side index)
  else if p.typeText = "" then throw (.parameterUntyped side index p.name)
  else set (d.withParameter side index.toNat p)

/-- Adds a type variable that is not declared before and allows something. -/
def addConstraint (c : TypeConstraint) : Action Refusal Draft Unit := do
  let d ← get
  if !Text.isIdentifier c.name then throw (.constraintName c.name)
  else if c.allowed.isEmpty then throw (.constraintEmpty c.name)
  else if d.constraints.any (·.name == c.name) then throw (.constraintRepeated c.name)
  else set { d with constraints := d.constraints ++ [c] }

/-- What a declaration does to a draft. -/
def take : Declaration → Action Refusal Draft Unit
  | .doc text => do
    let d ← get
    if d.doc?.isSome then throw .docRepeated else set { d with doc? := some text }
  | .domain domain => do
    let d ← get
    set { d with domain := domain }
  | .since version => do
    let d ← get
    if version < 1 then throw (.sinceTooSmall version) else set { d with since := version }
  | .attribute name description type required =>
    addAttribute ⟨name, description, type, required, none⟩
  | .attributeDefault name description value =>
    addAttribute ⟨name, description, value.type, false, some (value.rename name)⟩
  | .parameter side index name description typeText =>
    addParameter side index ⟨name, description, typeText, .invalid⟩
  | .constraint name allowed description => addConstraint ⟨name, allowed, description⟩
  | .inference none => throw .inferenceMissing
  | .inference (some fn) => do
    let d ← get
    if d.inference?.isSome then throw .inferenceRepeated
    else set { d with inference? := some fn }

/-- The draft with one more declaration. -/
def accept (d : Draft) (decl : Declaration) : Except Refusal Draft := (take decl).result d

/-- Takes a declaration; a refused one is only remembered if it is the first. -/
def declare (d : Draft) (decl : Declaration) : Draft :=
  match take decl d with
  | .ok _ d' => d'
  | .error e d' => { d' with refusal? := d'.refusal?.or (some e) }

/-- Takes declarations in order. -/
def declareAll (d : Draft) (decls : List Declaration) : Draft := decls.foldl declare d

/-- A parameter with the element type its text names, where that is a concrete tensor type; any
other text has to be a declared type variable. -/
def resolveParameter (d : Draft) (side : Side) (index : Nat) (p : Parameter) :
    Except BuildFault Parameter :=
  match parseTensorText p.typeText with
  | some (.ok t) => .ok { p with dtype := t }
  | some (.error e) => .error (.parameterType d.name side index p.name e)
  | none =>
    if d.constraints.any (·.name == p.typeText) then .ok p
    else .error (.undeclared d.name side index p.name p.typeText)

/-- The parameters of one side in order, once their indices are known to leave no gap. -/
def resolveFrom (d : Draft) (side : Side) (count : Nat) :
    IndexedParameters → Except BuildFault (List Parameter)
  | [] => .ok []
  | (index, p) :: rest => do
    if count ≤ index then throw (.indexGap d.name side index count)
    let p ← d.resolveParameter side index p
    let ps ← d.resolveFrom side count rest
    return p :: ps

/-- The parameters of one side. -/
def resolve (d : Draft) (side : Side) : Except BuildFault (List Parameter) :=
  d.resolveFrom side (d.parameters side).length (d.parameters side)

/-- Makes the schema that a draft describes. -/
def make : Action BuildFault Draft OpSchema := do
  let d ← get
  match d.refusal? with
  | some e => throw (.refused d.name e)
  | none =>
    if !Text.isIdentifier d.name then throw (.operatorName d.name)
    else do
      let inputs ← Action.ofExcept (d.resolve .input)
      let outputs ← Action.ofExcept (d.resolve .output)
      return {
        name := d.name, domain := d.domain, since := d.since, doc := d.doc?.getD ""
        attributes := d.attributes, inputs := inputs, outputs := outputs
        constraints := d.constraints, inference? := d.inference? }

/-- The schema that a draft describes. -/
def build (d : Draft) : Except BuildFault OpSchema := make.answer d

end Draft

end TensorGraph
