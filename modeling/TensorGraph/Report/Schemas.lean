import TensorGraph.Registry
import TensorGraph.Report.Layout

/-!
# Report/Schemas — the list of schemas, and the page of one
-/

namespace TensorGraph

namespace Report

/-- Parameters with their types, in a row. -/
def parametersText (ps : List Parameter) : String :=
  ", ".intercalate (ps.map fun p => p.name ++ ": " ++ p.typeText)

/-- The domain of a schema; the default one has a name of its own here. -/
def domainText (domain : String) : String := if domain = "" then "ai.onnx" else domain

/-- The row of a schema in the list of schemas. -/
def schemaRow (s : OpSchema) : List String := [
  domainText s.domain, s.name, toString s.since, ", ".intercalate (s.attributes.map (·.name)),
  parametersText s.inputs, parametersText s.outputs]

/-- The list of all schemas. -/
def schemas [Style] (r : Registry) : String :=
  Style.title ("Operator schemas (" ++ toString r.size ++ ")") ++
    Style.table ⟨["Domain", "Name", "Since", "Attributes", "Inputs", "Outputs"],
      r.schemas.map schemaRow⟩

/-- The row of a declared attribute. -/
def attributeRow (a : AttributeSpec) : List String := [
  a.name, a.type.name, toString a.required, (a.default?.map (·.value.text)).getD "", a.description]

/-- A titled table of parameters. -/
def parameters [Style] (heading : String) (ps : List Parameter) : String :=
  Style.title heading ++ Style.table ⟨["#", "Name", "Type", "Description"],
    ps.zipIdx.map fun (p, i) => [toString i, p.name, p.typeText, p.description]⟩

/-- The table of the attributes; none if there are no attributes. -/
def attributes [Style] (specs : List AttributeSpec) : String :=
  if specs.isEmpty then ""
  else Style.title "Attributes" ++
    Style.table ⟨["Name", "Type", "Required", "Default", "Description"], specs.map attributeRow⟩

/-- The table of the type variables; none if there are no type variables. -/
def constraints [Style] (cs : List TypeConstraint) : String :=
  if cs.isEmpty then ""
  else Style.title "Type constraints" ++ Style.table ⟨["Name", "Allowed types", "Description"],
    cs.map fun c => [c.name, ", ".intercalate c.allowedTexts, c.description]⟩

/-- The versions of an operator; nothing if there is only one. -/
def versions [Style] (vs : List Int) : String :=
  if vs.length ≤ 1 then "" else Style.paragraph ("Versions: " ++ ", ".intercalate (vs.map toString))

/-- The page of a schema. -/
def schemaPage [Style] (s : OpSchema) (vs : List Int) : String :=
  Style.title s.text ++ versions vs ++ Style.paragraph (Text.trim s.doc) ++
    attributes s.attributes ++ parameters "Inputs" s.inputs ++ parameters "Outputs" s.outputs ++
    constraints s.constraints

end Report

/-- An operator without a schema for an opset. -/
structure NoDocumentation where
  name : String
  domain : String
  opset : Int
  deriving DecidableEq, Repr

def NoDocumentation.message (e : NoDocumentation) : String :=
  "no schema for operator " ++ Text.quote e.name ++ " in domain " ++ Text.quote e.domain ++
    " for opset " ++ toString e.opset

/-- The name that an operator is looked up by.  In the default domain the standard operators also
go by other spellings of their names. -/
def documentedName (domain name : String) : String :=
  if domain = "" then
    match Operator.ofName name with
    | .ok op => op.name
    | .error _ => name
  else name

/-- The page of the operator with a name. -/
def Registry.document [Report.Style] (r : Registry) (domain name : String) (opset : Int) :
    Except NoDocumentation String :=
  let name := documentedName domain name
  match r.schema? domain name opset with
  | some s => .ok (Report.schemaPage s (r.versions domain name))
  | none => .error ⟨name, domain, opset⟩

end TensorGraph
