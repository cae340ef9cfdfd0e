import TensorGraph.Proofs.Graph.Refusals
import TensorGraph.Proofs.Reduction.Acceptance

/-!
# Proofs/Reduction/Violations — a reduction breaks its contract only by an axis out of range

    ReduceSum   axes = [0, 5, -7]     float [2, 3]    ──▸  axes[1] = 5 is out of range at rank 2
    ArgMax                            float []        ──▸  axis = 0 is out of range at rank 0
    ReduceSum   axes = [0, 5, -7]     float, no shape ──▸  accepted

By the time a reduction is inferred, its attributes have their types, its one input is a tensor or
not set, and its one output slot is there and empty.  So of all that inference tests, only the axes
are left to fail (`Family.reduce_eq_error_iff`), and that needs a shape to test them against
(`Checker.IsStandard.inference_fault_iff`).
-/

namespace TensorGraph

/-! ## The first axis that is not there -/

/-- The first axis of a list that a tensor with `rank` dimensions lacks, with its place; `place` is
that of the first axis. -/
def firstLacking (rank : Nat) (axes : List Int) (place : Nat) : Option (Int × Nat) :=
  (axes.zipIdx place).find? fun (axis, _) => ¬ IsAxis rank axis

theorem firstLacking_cons_of_isAxis {rank : Nat} {axis : Int} (h : IsAxis rank axis)
    (axes : List Int) (place : Nat) :
    firstLacking rank (axis :: axes) place = firstLacking rank axes (place + 1) := by
  simp [firstLacking, h]

theorem firstLacking_cons_of_not {rank : Nat} {axis : Int} (h : ¬ IsAxis rank axis)
    (axes : List Int) (place : Nat) :
    firstLacking rank (axis :: axes) place = some (axis, place) := by
  simp [firstLacking, h]

/-- There is a first axis that is lacking exactly if there is one. -/
theorem exists_firstLacking_iff {rank : Nat} {axes : List Int} :
    (∃ axis place, firstLacking rank axes 0 = some (axis, place)) ↔
      ∃ axis ∈ axes, ¬ IsAxis rank axis := by
  have hmem (axis : Int) : axis ∈ axes ↔ ∃ place, (axis, place) ∈ axes.zipIdx := by
    conv_lhs => rw [← List.zipIdx_map_fst 0 axes]
    simp only [List.mem_map, Prod.exists]
    simp
  rw [← Prod.exists (p := fun found => firstLacking rank axes 0 = some found),
    ← Option.isSome_iff_exists, firstLacking, List.find?_isSome]
  simp [hmem]

/-- **A list of axes is not read exactly if one is lacking**, and the first such is reported. -/
theorem axisPositionsFrom_eq_error_iff {operand : Shape} {v : Violation} :
    ∀ {axes : List Int} {place : Nat},
      axisPositionsFrom operand place axes = .error v ↔
        ∃ axis i, firstLacking operand.rank axes place = some (axis, i) ∧
          v = .axisOfList i axis operand
  | [], place => by simp [axisPositionsFrom, firstLacking]
  | axis :: axes, place => by
    rw [axisPositionsFrom]
    by_cases haxis : IsAxis operand.rank axis
    · rw [axisPosition?_of_isAxis haxis, firstLacking_cons_of_isAxis haxis,
        ← axisPositionsFrom_eq_error_iff]
      simp [bind_eq_error_iff, pure, Except.pure]
    · rw [axisPosition?_eq_none_iff.mpr haxis, firstLacking_cons_of_not haxis]
      simp [@eq_comm _ v]

/-! ## What a family reads of a node -/

/-- The axis of an index reduction; the first one where a node does not set it. -/
def Node.axis (n : Node) : Int := (n.intSetting "axis" 0).toInt

namespace Family

/-- The axes that a node of a family reduces. -/
def axesOf : Family → Node → List Int
  | axes, n => n.axes
  | index, n => [n.axis]

/-- How a family reports an axis that the operand lacks. -/
def violation (operand : Shape) (axis : Int) (place : Nat) : Family → Violation
  | axes => .axisOfList place axis operand
  | index => .axisOfIndex axis operand

section

variable {F : Family} {name doc : String} {strict : Bool} {n : Node}

/-- A checked reduction over axes is that of the axes it names. -/
theorem reduce_axes_eq (h : checkAttributes strict (axes.schema name doc) n.attributes = .ok ())
    (operand : Shape) :
    axes.reduce (axes.settings n.attributes) operand
      = reduceShape operand n.axes (n.intSetting "keepdims" 1) := by
  have hnames := (checkAttributes_eq_ok_iff.mp h).1
  have hkeep := intOr_settings .axes "keepdims" rfl hnames
    (type_of_checkAttributes h keepDimsSpec rfl)
  obtain ⟨is, his, haxes⟩ := intsOrEmpty_axes hnames
    (type_of_checkAttributes h axes.axisSpec rfl)
  rw [reduce, hkeep, ok_bind, his, ok_bind, haxes]

/-- A checked index reduction is that along its axis. -/
theorem reduce_index_eq (h : checkAttributes strict (index.schema name doc) n.attributes = .ok ())
    (operand : Shape) :
    index.reduce (index.settings n.attributes) operand
      = argReduceShape operand n.axis (n.intSetting "keepdims" 1) := by
  have hnames := (checkAttributes_eq_ok_iff.mp h).1
  have hkeep := intOr_settings .index "keepdims" rfl hnames
    (type_of_checkAttributes h keepDimsSpec rfl)
  have haxis := intOr_settings .index "axis" rfl hnames
    (type_of_checkAttributes h index.axisSpec rfl)
  rw [reduce, haxis, ok_bind, hkeep, ok_bind, Node.axis]

/-- **The shape of a checked reduction is refused exactly if an axis is lacking.** -/
theorem reduce_eq_error_iff (h : checkAttributes strict (F.schema name doc) n.attributes = .ok ())
    {operand : Shape} {v : Violation} :
    F.reduce (F.settings n.attributes) operand = .error v ↔
      ∃ axis place, firstLacking operand.rank (F.axesOf n) 0 = some (axis, place) ∧
        v = F.violation operand axis place := by
  cases F with
  | axes =>
    rw [reduce_axes_eq h, reduceShape, bind_eq_error_iff, axisPositionsFrom_eq_error_iff]
    simp [pure, Except.pure, axesOf, violation]
  | index =>
    rw [reduce_index_eq h, argReduceShape, axesOf]
    by_cases haxis : IsAxis operand.rank n.axis
    · rw [axisPosition?_of_isAxis haxis, firstLacking_cons_of_isAxis haxis]
      simp [firstLacking]
    · rw [axisPosition?_eq_none_iff.mpr haxis, firstLacking_cons_of_not haxis]
      simp [violation, @eq_comm _ v]

theorem typeOf_eq_error_iff {attributes : List Attribute} {t : ValueType} {v : Violation} :
    F.typeOf attributes t = .error v ↔
      ∃ operand, t.shape? = some operand ∧ F.reduce attributes operand = .error v := by
  rw [typeOf]
  cases t.shape? with
  | none => simp
  | some operand => simp [bind_eq_error_iff, pure, Except.pure]

/-- **A checked reduction fails in inference exactly if** the shape of its input is known and lacks
an axis. -/
theorem failure_eq_some_iff (h : checkAttributes strict (F.schema name doc) n.attributes = .ok ())
    (houtputs : n.outputs.length ≤ 1) {t : ValueType} (ht : F.Accepts t)
    {cause : InferenceFailure} :
    ((F.schema name doc).infer (nodeContext (F.schema name doc) n [some t])).failure
        = some cause ↔
      ∃ operand axis place, t.shape? = some operand ∧
        firstLacking operand.rank (F.axesOf n) 0 = some (axis, place) ∧
        cause = .violation (F.violation operand axis place) := by
  rw [infer_reduction houtputs ht]
  cases htype : F.typeOf (F.settings n.attributes) t with
  | ok out =>
    -- a type was found, so no shape is refused
    have hno (v : Violation) : F.typeOf (F.settings n.attributes) t ≠ .error v := by simp [htype]
    simp only [ne_eq, typeOf_eq_error_iff, reduce_eq_error_iff h] at hno
    constructor
    · rintro ⟨⟩
    · rintro ⟨operand, axis, place, hshape, hlacking, rfl⟩
      exact absurd ⟨operand, hshape, axis, place, hlacking, rfl⟩ (hno _)
  | error v =>
    obtain ⟨operand, hshape, hreduce⟩ := typeOf_eq_error_iff.mp htype
    obtain ⟨axis, place, hlacking, rfl⟩ := (reduce_eq_error_iff h).mp hreduce
    simp [outcomeOf, hshape, hlacking, @eq_comm _ cause]

end

end Family

/-! ## Nodes over the standard registry -/

namespace Node

/-- The family of the operator of a node, by its name. -/
def family (n : Node) : Family :=
  if n.op ∈ Operator.indexReductions.map Operator.name then .index else .axes

/-- The axes that a node reduces: the list of a reduction over axes, or the one axis of an index
reduction. -/
def reducedAxes (n : Node) : List Int := n.family.axesOf n

end Node

theorem Operator.family_eq_of_name : ∀ op ∈ Operator.all,
    op.family = if op.name ∈ Operator.indexReductions.map Operator.name then .index else .axes := by
  decide

/-- A standard checker finds for a node the schema of its family. -/
theorem Checker.IsStandard.schema_eq {c : Checker} (hc : c.IsStandard) {n : Node} {opset : Int}
    {s : OpSchema} (h : c.lookup n.domain n.op opset = some s) :
    ∃ doc, s = n.family.schema n.op doc := by
  obtain ⟨op, hop, rfl, hname, -⟩ := hc.exists_operator h
  refine ⟨op.standardDoc, ?_⟩
  rw [Operator.standardSchema, Operator.family_eq_of_name op hop, hname, Node.family]

/-- **A node over the standard registry is refused in inference exactly if** it gets that far, the
shape of its input is known, and the shape lacks an axis of the node; the first such is the
cause. -/
theorem Checker.IsStandard.inference_fault_iff {c : Checker} (hc : c.IsStandard) {n : Node}
    {inputs : List (Option ValueType)} {version : Int} {node schema : String}
    {cause : InferenceFailure} :
    c.checkNode n inputs version = .error (.fault node schema (.inference cause)) ↔
      ∃ s t operand axis place, c.Reaches n inputs version s ∧ n.text = node ∧ s.text = schema ∧
        inputs = [some t] ∧ t.shape? = some operand ∧
        firstLacking operand.rank n.reducedAxes 0 = some (axis, place) ∧
        cause = .violation (n.family.violation operand axis place) := by
  rw [checkNode_eq_inference_iff]
  constructor
  · rintro ⟨s, hreaches, hnode, hschema, hfailure⟩
    obtain ⟨doc, rfl⟩ := hc.schema_eq hreaches.found
    obtain ⟨_, hinputs⟩ := hreaches.inputs
    obtain ⟨t, rfl, ht, -⟩ := checkInputs_reduction.mp hinputs
    obtain ⟨operand, axis, place, hlacking⟩ :=
      (Family.failure_eq_some_iff hreaches.attributes hreaches.outputCount ht).mp hfailure
    exact ⟨_, t, operand, axis, place, hreaches, hnode, hschema, rfl, hlacking⟩
  · rintro ⟨s, t, operand, axis, place, hreaches, hnode, hschema, rfl, hlacking⟩
    refine ⟨s, hreaches, hnode, hschema, ?_⟩
    obtain ⟨doc, rfl⟩ := hc.schema_eq hreaches.found
    obtain ⟨_, hinputs⟩ := hreaches.inputs
    obtain ⟨_, ⟨⟩, ht, -⟩ := checkInputs_reduction.mp hinputs
    exact (Family.failure_eq_some_iff hreaches.attributes hreaches.outputCount ht).mpr
      ⟨operand, axis, place, hlacking⟩

theorem NodeError.isViolation_iff {e : NodeError} :
    e.isViolation = true ↔ ∃ node schema v, e = .fault node schema (.inference (.violation v)) := by
  constructor
  · intro h
    unfold isViolation at h
    split at h
    · rename_i node schema cause
      cases cause with
      | violation v => exact ⟨node, schema, v, rfl⟩
      | refused => cases h
    · cases h
  · rintro ⟨node, schema, v, rfl⟩
    rfl

/-- **Only an axis out of range breaks the contract of a standard operator** — a node is refused in
inference exactly if it gets that far and its input is a tensor whose known dimensions lack one of
its axes; and whenever inference refuses a node, the first such axis is what it reports. -/
theorem Checker.IsStandard.violation_iff_axis_lacking {c : Checker} (hc : c.IsStandard) (n : Node)
    (inputs : List (Option ValueType)) (version : Int) :
    ((∃ e, c.checkNode n inputs version = .error e ∧ e.isViolation = true) ↔
      ∃ s t dims, c.Reaches n inputs version s ∧ inputs = [some t] ∧
        t.kind = .tensor ∧ t.dims? = some dims ∧
        ∃ axis ∈ n.reducedAxes, ¬ IsAxis dims.length axis) ∧
    ∀ node schema cause,
      c.checkNode n inputs version = .error (.fault node schema (.inference cause)) →
      ∃ t axis place, inputs = [some t] ∧
        firstLacking t.shape.rank n.reducedAxes 0 = some (axis, place) ∧
        cause = .violation (n.family.violation t.shape axis place) := by
  refine ⟨⟨?_, ?_⟩, ?_⟩
  · rintro ⟨e, he, hviolation⟩
    obtain ⟨node, schema, v, rfl⟩ := NodeError.isViolation_iff.mp hviolation
    obtain ⟨s, t, operand, axis, place, hreaches, -, -, hinputs, hshape, hlacking, -⟩ :=
      hc.inference_fault_iff.mp he
    obtain ⟨hkind, hdims, -⟩ := ValueType.shape?_eq_some_iff.mp hshape
    exact ⟨s, t, operand.dims, hreaches, hinputs, hkind, hdims,
      exists_firstLacking_iff.mp ⟨axis, place, hlacking⟩⟩
  · rintro ⟨s, t, dims, hreaches, hinputs, hkind, hdims, hlacking⟩
    have hshape : t.shape? = some ⟨t.dtype, dims⟩ :=
      ValueType.shape?_eq_some_iff.mpr ⟨hkind, hdims, rfl⟩
    obtain ⟨axis, place, hfirst⟩ := exists_firstLacking_iff.mpr hlacking
    exact ⟨_, hc.inference_fault_iff.mpr
      ⟨s, t, _, axis, place, hreaches, rfl, rfl, hinputs, hshape, hfirst, rfl⟩, rfl⟩
  · intro node schema cause h
    obtain ⟨s, t, operand, axis, place, -, -, -, hinputs, hshape, hfirst, hcause⟩ :=
      hc.inference_fault_iff.mp h
    rw [← shape_of_shape? hshape] at hfirst hcause
    exact ⟨t, axis, place, hinputs, hfirst, hcause⟩

/-- The position of the greatest element, with an attribute that index reductions do not declare
and so do not read. -/
def argMaxNode : Node where
  name := "best"
  op := "ArgMax"
  domain := ""
  inputs := ["x"]
  outputs := ["y"]
  attributes := [⟨"axes", .string "last"⟩]

/-- An index reduction that names no axis takes the first one, which a scalar lacks and a vector
has. -/
theorem Checker.IsStandard.violation_iff_axis_lacking_scalar :
    let c := standardChecker.withStrict false
    let tensor (dims : List Dim) : ValueType := ⟨.tensor, .float32, some dims⟩
    c.IsStandard ∧
      (∃ e, c.checkNode argMaxNode [some (tensor [])] 0 = .error e ∧ e.isViolation = true) ∧
      ¬ ∃ e, c.checkNode argMaxNode [some (tensor [.unknown])] 0 = .error e ∧
        e.isViolation = true := by
  intro c tensor
  have hc : c.IsStandard := isStandard_standardChecker
  have haxes : argMaxNode.reducedAxes = [0] := rfl
  refine ⟨hc, ?_, ?_⟩
  · have hreaches : c.Reaches argMaxNode [some (tensor [])] 0 Operator.argMax.standardSchema :=
      ⟨rfl, rfl, ⟨_, rfl⟩, by decide⟩
    exact (violation_iff_axis_lacking hc _ _ _).1.mpr
      ⟨_, tensor [], [], hreaches, rfl, rfl, rfl, 0, by simp [haxes], by decide⟩
  · intro h
    obtain ⟨_, _, dims, -, ⟨⟩, -, hdims, axis, haxis, hlacking⟩ :=
      (violation_iff_axis_lacking hc _ _ _).1.mp h
    obtain rfl : axis = 0 := by simpa [haxes] using haxis
    obtain rfl := Option.some.inj hdims
    exact hlacking (by decide)

end TensorGraph
