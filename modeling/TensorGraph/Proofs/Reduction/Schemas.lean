import TensorGraph.Graph.Check
import TensorGraph.Proofs.Registry.History

/-!
# Proofs/Reduction/Schemas — the standard registry holds the two families of reductions

The twelve operators come in two families, reductions over a list of axes and index reductions
along one axis.  A schema of the standard registry is that of its family, but for name and
documentation (`Family.schema`), and the registry holds exactly those (`Registry.standard_eq`).
-/

namespace TensorGraph

/-- The two families of reductions: over a list of axes, and along one axis to positions. -/
inductive Family where
  | axes | index
  deriving DecidableEq, Repr

namespace Family

/-- The attribute that picks what is reduced. -/
def axisSpec : Family → AttributeSpec
  | axes => ⟨"axes", axesDescription, .ints, false, none⟩
  | index => ⟨"axis", axisDescription, .int, false, some ⟨"axis", .int 0⟩⟩

def keepDimsSpec : AttributeSpec :=
  ⟨"keepdims", keepDimsDescription, .int, false, some ⟨"keepdims", .int 1⟩⟩

/-- The element types a reduction takes. -/
def constraint : Family → TypeConstraint
  | axes => ⟨"T", highPrecisionTypes, reduceTypesDescription⟩
  | index => ⟨"T", allNumericTypes, argReduceTypesDescription⟩

def input : Parameter := ⟨"data", dataDescription, "T", .invalid⟩

def output : Family → Parameter
  | axes => ⟨"reduced", reducedDescription, "T", .invalid⟩
  | index => ⟨"reduced", indicesDescription, "tensor(int64)", .int64⟩

def infer : Family → InferenceFn
  | axes => inferReduce
  | index => inferArgReduce

/-- The schema that the operators of a family share, for a name and a documentation. -/
def schema (F : Family) (name doc : String) : OpSchema where
  name := name
  domain := ""
  since := reductionSince
  doc := doc
  attributes := [F.axisSpec, keepDimsSpec]
  inputs := [input]
  outputs := [F.output]
  constraints := [F.constraint]
  inference? := some F.infer

end Family

namespace Operator

/-- The family of an operator with a standard schema. -/
def family (op : Operator) : Family := if op ∈ reductions then .axes else .index

def standardDoc (op : Operator) : String :=
  match op.family with
  | .axes => reduceDoc op.docName
  | .index => argReduceDoc op.docName

def standardSchema (op : Operator) : OpSchema := op.family.schema op.name op.standardDoc

theorem schema_eq_standardSchema : ∀ op ∈ all, op.schema = .ok op.standardSchema := by
  simp only [all, reductions, indexReductions, List.cons_append, List.nil_append,
    List.forall_mem_cons]
  exact ⟨rfl, rfl, rfl, rfl, rfl, rfl, rfl, rfl, rfl, rfl, rfl, rfl, nofun⟩

end Operator

/-! ## The standard registry -/

/-- Operators that are new to a registry get an entry each, in order. -/
theorem registerOperators_of_new {ops : List Operator}
    (hschema : ∀ op ∈ ops, op.schema = .ok op.standardSchema)
    (hnodup : (ops.map Operator.name).Nodup) {r : Registry} (hopen : r.frozen = false)
    (hnew : ∀ o ∈ r.operators, ∀ op ∈ ops, o.operator ≠ ("", op.name)) :
    registerOperators Registry.register r ops =
      ({ r with operators := r.operators ++ ops.map fun op => .single op.standardSchema },
        none) := by
  induction ops generalizing r with
  | nil => simp [registerOperators]
  | cons op ops ih =>
    rw [List.map_cons, List.nodup_cons] at hnodup
    have hregister : r.register op.standardSchema =
        .ok { r with operators := r.operators ++ [.single op.standardSchema] } :=
      Registry.register_of_new hopen fun o ho => hnew o ho op List.mem_cons_self
    have hrest := ih (fun op' hop' => hschema op' (.tail op hop')) hnodup.2
      (r := { r with operators := r.operators ++ [.single op.standardSchema] }) hopen ?_
    · rw [registerOperators, hschema op List.mem_cons_self]
      simp only [hregister, hrest, List.append_assoc, List.singleton_append, List.map_cons]
    · intro o ho op' hop'
      obtain ho | ho := List.mem_append.mp ho
      · exact hnew o ho op' (.tail op hop')
      · -- the entry that was just added is of an operator with another name
        obtain rfl := List.mem_singleton.mp ho
        intro heq
        have hname : op.name = op'.name := congrArg Prod.snd heq
        exact hnodup.1 (hname ▸ List.mem_map_of_mem hop')

/-- The schemas of all operators, each by its name. -/
def standardRegistry : Registry :=
  ⟨Operator.all.map fun op => .single op.standardSchema, true⟩

/-- **The standard registry is made, and holds the schemas of all operators by name.** -/
theorem Registry.standard_eq : Registry.standard = .ok standardRegistry := by
  rw [standard, registerReductions,
    registerOperators_of_new Operator.schema_eq_standardSchema (by decide) rfl (by simp [empty])]
  rfl

/-- A checker over the standard registry, with any options. -/
def Checker.IsStandard (c : Checker) : Prop :=
  ∃ r, Registry.standard = .ok r ∧ c.lookup = r.schema?

/-- **A standard checker finds an operator by its name**, in the default domain only. -/
theorem Checker.IsStandard.exists_operator {c : Checker} (hc : c.IsStandard)
    {domain name : String} {opset : Int} {s : OpSchema} (h : c.lookup domain name opset = some s) :
    ∃ op ∈ Operator.all, s = op.standardSchema ∧ op.name = name ∧ domain = "" := by
  obtain ⟨r, hr, hlookup⟩ := hc
  obtain rfl : r = standardRegistry := Except.ok.inj (hr.symm.trans Registry.standard_eq)
  have hversion : s ∈ standardRegistry.versionsOf domain name :=
    List.mem_reverse.mp (List.mem_of_find?_eq_some (hlookup ▸ h))
  obtain ⟨hdomain, hname⟩ := OpSchema.isFor_iff.mp (Registry.isFor_of_mem_versionsOf hversion)
  obtain ⟨o, ho, hs⟩ := Registry.exists_of_mem_versionsOf hversion
  obtain ⟨op, hop, rfl⟩ := List.mem_map.mp ho
  obtain rfl := List.mem_singleton.mp hs
  exact ⟨op, hop, rfl, hname, hdomain.symm⟩

/-- **A standard checker finds only schemas of the two families.** -/
theorem Checker.IsStandard.exists_family {c : Checker} (hc : c.IsStandard) {domain name : String}
    {opset : Int} {s : OpSchema} (h : c.lookup domain name opset = some s) :
    ∃ (F : Family) (op doc : String), s = F.schema op doc := by
  obtain ⟨op, -, rfl, -⟩ := hc.exists_operator h
  exact ⟨op.family, op.name, op.standardDoc, rfl⟩

/-- The checker over the standard registry with the usual options. -/
def standardChecker : Checker :=
  { lookup := standardRegistry.schema? }

theorem isStandard_standardChecker : standardChecker.IsStandard :=
  ⟨_, Registry.standard_eq, rfl⟩

/-- A chain of two reductions: the mean over the middle axis, and then where it is greatest along
the last one. -/
def poolingGraph (logits : ValueType) : Graph where
  name := "pooling"
  opset := 13
  inputs := [⟨"logits", logits⟩]
  nodes := [
    ⟨"pool", "ReduceMean", "", ["logits"], ["pooled"],
      [⟨"axes", .ints [1]⟩, ⟨"keepdims", .int 0⟩]⟩,
    ⟨"best", "ArgMax", "", ["pooled"], ["class"], [⟨"axis", .int (-1)⟩]⟩]

end TensorGraph
