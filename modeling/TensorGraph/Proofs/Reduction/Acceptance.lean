import TensorGraph.Proofs.Graph.Attributes
import TensorGraph.Proofs.Reduction.Axes
import TensorGraph.Proofs.Reduction.Contract

/-!
# Proofs/Reduction/Acceptance — which nodes are reductions over axes, and what they yield

    ReduceSum   axes = [0, -1]   keepdims = 0     float [2, 3, 5]  ──▸  float [3]
    ReduceSum   axes = [0, -1]                    float [2, 3, 5]  ──▸  float [1, 3, 1]
    ReduceSum   axes = [3]                        float [2, 3, 5]  ──▸  refused

`ReductionContract` lists what a node over the standard registry has to keep, without a schema: the
attributes it may set, its one input, its one output, and that its axes exist.
`Node.reducedType` is the type of its output.  Neither knows the operator, so the ten operators
that reduce over axes accept the same nodes and yield the same types
(`Checker.Over.checkNode_iff_contract`).
-/

namespace TensorGraph

/-! ## Checkers that options make -/

/-- The checkers over a source of schemas: the usual one, and those that options make of it. -/
inductive Checker.Over (lookup : SchemaLookup) : Checker → Prop
  | usual : Over lookup { lookup := lookup }
  | withStrict {c : Checker} (strict : Bool) (h : Over lookup c) :
      Over lookup (c.withStrict strict)
  | withDefaultOpset {c : Checker} (version : Int) (h : Over lookup c) :
      Over lookup (c.withDefaultOpset version)

namespace Checker.Over

variable {lookup : SchemaLookup} {c : Checker}

theorem lookup_eq (h : Over lookup c) : c.lookup = lookup := by
  induction h with
  | usual => rfl
  | withStrict strict _ ih => exact ih
  | withDefaultOpset version _ ih =>
    rw [Checker.withDefaultOpset]
    split <;> exact ih

theorem defaultOpset_pos (h : Over lookup c) : 0 < c.defaultOpset := by
  induction h with
  | usual => exact (by decide : 0 < usualOpset)
  | withStrict strict _ ih => exact ih
  | withDefaultOpset version _ ih =>
    rw [Checker.withDefaultOpset]
    split
    · assumption
    · exact ih

/-- **The opset in effect is positive**, whichever is asked for. -/
theorem opset_pos (h : Over lookup c) (version : Int) : 0 < c.opset version := by
  rw [Checker.opset]
  split
  · exact h.defaultOpset_pos
  · omega

end Checker.Over

/-! ## The schemas of reductions over axes -/

theorem Operator.family_of_mem {op : Operator} (h : op ∈ Operator.reductions) : op.family = .axes :=
  if_pos h

theorem Operator.versionsOf_standard {op : Operator} (h : op ∈ Operator.reductions) :
    standardRegistry.versionsOf "" op.name = [op.standardSchema] := by
  simp only [Operator.reductions, List.mem_cons, List.not_mem_nil, or_false] at h
  rcases h with rfl | rfl | rfl | rfl | rfl | rfl | rfl | rfl | rfl | rfl <;> rfl

/-- **A reduction is found for every positive opset.** -/
theorem Operator.schema?_standard {op : Operator} (h : op ∈ Operator.reductions) {opset : Int}
    (hopset : 0 < opset) :
    standardRegistry.schema? "" op.name opset
      = some (Family.axes.schema op.name op.standardDoc) := by
  have hsince : reductionSince ≤ opset := hopset
  rw [Registry.schema?, versionsOf_standard h, standardSchema, family_of_mem h]
  simp [Family.schema, hsince]

/-! ## What a node asks for -/

namespace Node

/-- An attribute as a node sets it. -/
def setting? (n : Node) (name : String) : Option AttrValue :=
  (n.attributes.find? (·.name == name)).map (·.value)

/-- An integer as a node sets it, or the default. -/
def intSetting (n : Node) (name : String) (default : Int64) : Int64 :=
  match n.setting? name with
  | some (.int i) => i
  | _ => default

/-- The axes a node names; none where it does not set them. -/
def axes (n : Node) : List Int :=
  match n.setting? "axes" with
  | some (.ints is) => is.map Int64.toInt
  | _ => []

/-- Whether a node keeps reduced dimensions as ones, which it does unless it sets another value
than one. -/
def keepsDims (n : Node) : Bool :=
  match n.setting? "keepdims" with
  | some (.int i) => i == 1
  | _ => true

/-- The type of the output of a reduction over axes. -/
def reducedType (n : Node) (t : ValueType) : ValueType :=
  if t.kind = .notSet ∨ t.dtype = .invalid ∧ t.dims? = none then .unset
  else ⟨.tensor, t.dtype, t.dims?.map (reducedDims n.axes n.keepsDims)⟩

end Node

/-- What a node has to keep as a reduction over axes of an input `t`. -/
structure ReductionContract (strict : Bool) (n : Node) (inputs : List (Option ValueType))
    (t : ValueType) : Prop where
  names : (n.attributes.map (·.name)).Nodup
  axesType : ∀ a ∈ n.attributes, a.name = "axes" → a.type = .ints
  keepDimsType : ∀ a ∈ n.attributes, a.name = "keepdims" → a.type = .int
  declared : strict = true → ∀ a ∈ n.attributes, a.name = "axes" ∨ a.name = "keepdims"
  input : inputs = [some t]
  accepts : t.kind = .notSet ∨
    t.kind = .tensor ∧ (t.dtype = .invalid ∨ t.dtype ∈ highPrecisionTypes)
  outputs : n.outputs.length ≤ 1
  inRange : t.kind = .tensor → ∀ dims, t.dims? = some dims →
    ∀ a ∈ n.axes, IsAxis dims.length a

/-! ## Attributes -/

section

variable {name doc : String} {strict : Bool}

theorem Family.attributesNamed (F : Family) : (F.schema name doc).AttributesNamed := by
  have hspecs : (F.schema name doc).attributes = [F.axisSpec, Family.keepDimsSpec] := rfl
  refine ⟨?_, fun spec hspec v hv => ?_⟩
  · cases F <;> simp [hspecs, Family.axisSpec, Family.keepDimsSpec]
  · rw [hspecs, List.mem_pair] at hspec
    rcases hspec with rfl | rfl
    · cases F with
      | axes => cases hv
      | index => cases hv; rfl
    · cases hv
      rfl

/-- What the schema of a reduction over axes asks of one attribute. -/
theorem takes_axes_iff {a : Attribute} :
    (Family.axes.schema name doc).Takes strict a ↔
      (a.name = "axes" → a.type = .ints) ∧ (a.name = "keepdims" → a.type = .int) ∧
        (strict = true → a.name = "axes" ∨ a.name = "keepdims") := by
  by_cases haxes : a.name = "axes"
  · have hspec : (Family.axes.schema name doc).attribute? a.name = some Family.axes.axisSpec := by
      rw [haxes]
      rfl
    rw [OpSchema.takes_iff_of_some hspec]
    simp [haxes, Family.axisSpec]
  by_cases hkeep : a.name = "keepdims"
  · have hspec : (Family.axes.schema name doc).attribute? a.name = some Family.keepDimsSpec := by
      rw [hkeep]
      rfl
    rw [OpSchema.takes_iff_of_some hspec]
    simp [hkeep, Family.keepDimsSpec]
  · have hspec : (Family.axes.schema name doc).attribute? a.name = none := by
      simp [OpSchema.attribute?, Family.schema, Family.axisSpec, Family.keepDimsSpec,
        Ne.symm haxes, Ne.symm hkeep]
    rw [OpSchema.takes_iff_of_none hspec]
    simp [haxes, hkeep]

/-- **The attributes of a reduction over axes** are `axes` and `keepdims`, each of its type and set
at most once; none is required. -/
theorem checkAttributes_axes_iff {as : List Attribute} :
    checkAttributes strict (Family.axes.schema name doc) as = .ok () ↔
      (as.map (·.name)).Nodup ∧ (∀ a ∈ as, a.name = "axes" → a.type = .ints) ∧
        (∀ a ∈ as, a.name = "keepdims" → a.type = .int) ∧
          (strict = true → ∀ a ∈ as, a.name = "axes" ∨ a.name = "keepdims") := by
  have hrequired : ∀ spec ∈ (Family.axes.schema name doc).attributes,
      spec.required = true → ∃ a ∈ as, a.name = spec.name := by
    intro spec hspec hrequired
    rcases List.mem_pair.mp hspec with rfl | rfl <;> cases hrequired
  simp only [checkAttributes_eq_ok_iff, takes_axes_iff, forall_and, and_iff_left hrequired]
  refine and_congr_right fun _ => and_congr_right fun _ => and_congr_right fun _ => ?_
  exact ⟨fun h hstrict a ha => h a ha hstrict, fun h a ha hstrict => h hstrict a ha⟩

end

section

variable {n : Node}

/-- Inference reads the axes that a node names. -/
theorem intsOrEmpty_axes (hnames : (n.attributes.map (·.name)).Nodup)
    (htype : ∀ a ∈ n.attributes, a.name = "axes" → a.type = .ints) :
    ∃ is, InferenceContext.intsOrEmpty ⟨Family.axes.settings n.attributes, [], []⟩ "axes"
        = .ok is ∧ is.map Int64.toInt = n.axes := by
  rw [InferenceContext.intsOrEmpty, attribute?_of_settings Family.axes.attributesNamed hnames rfl,
    Node.axes, Node.setting?]
  cases hfound : n.attributes.find? (·.name == "axes") with
  | none => exact ⟨[], rfl, rfl⟩
  | some a =>
    obtain ⟨ha, hname⟩ := (find?_key_eq_some_iff hnames).mp hfound
    obtain ⟨is, his⟩ := AttrValue.type_eq_ints_iff.mp (htype a ha hname)
    exact ⟨is, by simp [his], by simp [his]⟩

/-- Inference reads an integer as a node sets it, or its declared default. -/
theorem intOr_settings (F : Family) (name : String) {default : Int64}
    (hdefault : ((F.schema "" "").attribute? name).bind (·.default?) = some ⟨name, .int default⟩)
    (hnames : (n.attributes.map (·.name)).Nodup)
    (htype : ∀ a ∈ n.attributes, a.name = name → a.type = .int) :
    InferenceContext.intOr ⟨F.settings n.attributes, [], []⟩ name default
      = .ok (n.intSetting name default) := by
  rw [InferenceContext.intOr, attribute?_of_settings F.attributesNamed hnames rfl, hdefault,
    Node.intSetting, Node.setting?]
  cases hfound : n.attributes.find? (·.name == name) with
  | none => rfl
  | some a =>
    obtain ⟨ha, hname⟩ := (find?_key_eq_some_iff hnames).mp hfound
    obtain ⟨i, hi⟩ := AttrValue.type_eq_int_iff.mp (htype a ha hname)
    simp [hi]

theorem Node.keepsDims_eq (n : Node) : n.keepsDims = (n.intSetting "keepdims" 1 == 1) := by
  rw [keepsDims, intSetting]
  split <;> rfl

end

/-! ## Types -/

theorem ValueType.shape?_eq_none_iff {t : ValueType} :
    t.shape? = none ↔ (t.kind = .tensor → t.dims? = none) := by
  by_cases ht : t.kind = .tensor <;> simp [shape?, isTensor, ht]

/-- Without a shape the output has the element type of the input at most. -/
theorem Node.reducedType_of_shape?_none (n : Node) {t : ValueType}
    (ht : t.kind = .notSet ∨ t.kind = .tensor) (h : t.shape? = none) :
    n.reducedType t = Family.axes.base t := by
  rcases ht with ht | ht
  · simp [reducedType, Family.base, ht]
  · have hdims := ValueType.shape?_eq_none_iff.mp h ht
    by_cases hdtype : t.dtype = .invalid
    · simp [reducedType, Family.base, ht, hdtype, hdims]
    · simp [reducedType, Family.base, ht, hdtype, hdims, ValueType.tensor]

/-- With a shape the output has a shape too. -/
theorem Node.reducedType_of_shape?_some (n : Node) {t : ValueType} {operand : Shape}
    (h : t.shape? = some operand) :
    n.reducedType t
      = (Family.axes.base t).withDims (reducedDims n.axes n.keepsDims operand.dims) := by
  obtain ⟨hkind, hdims, -⟩ := ValueType.shape?_eq_some_iff.mp h
  by_cases hdtype : t.dtype = .invalid
  · simp [reducedType, Family.base, hkind, hdtype, hdims, ValueType.withDims, ValueType.unset]
  · simp [reducedType, Family.base, hkind, hdtype, hdims, ValueType.withDims, ValueType.tensor]

section

variable {n : Node} (hnames : (n.attributes.map (·.name)).Nodup)
  (haxes : ∀ a ∈ n.attributes, a.name = "axes" → a.type = .ints)
  (hkeep : ∀ a ∈ n.attributes, a.name = "keepdims" → a.type = .int)

include hnames haxes hkeep

/-- **A known shape is reduced exactly if it has the axes that the node names.** -/
theorem reduce_axes_eq_ok_iff {operand s : Shape} :
    Family.axes.reduce (Family.axes.settings n.attributes) operand = .ok s ↔
      (∀ a ∈ n.axes, IsAxis operand.rank a) ∧
        s = ⟨operand.dtype, reducedDims n.axes n.keepsDims operand.dims⟩ := by
  obtain ⟨is, his, hn⟩ := intsOrEmpty_axes hnames haxes
  have hi := intOr_settings .axes "keepdims" rfl hnames hkeep
  rw [← hn, n.keepsDims_eq, ← reduceShape_eq_ok_iff]
  simp only [Family.reduce, bind_eq_ok_iff, hi, his, Except.ok.injEq, exists_eq_left']

/-- **The output has a type exactly if the axes are in range**, and it is the reduced type. -/
theorem typeOf_axes_eq_ok_iff {t out : ValueType} (ht : t.kind = .notSet ∨ t.kind = .tensor) :
    Family.axes.typeOf (Family.axes.settings n.attributes) t = .ok out ↔
      (t.kind = .tensor → ∀ dims, t.dims? = some dims → ∀ a ∈ n.axes, IsAxis dims.length a) ∧
        out = n.reducedType t := by
  rw [Family.typeOf_eq_ok_iff]
  cases hshape : t.shape? with
  | none =>
    have hrange : t.kind = .tensor → ∀ dims, t.dims? = some dims →
        ∀ a ∈ n.axes, IsAxis dims.length a := by
      intro htensor dims hdims
      exact absurd ((ValueType.shape?_eq_none_iff.mp hshape htensor).symm.trans hdims) nofun
    rw [n.reducedType_of_shape?_none ht hshape, and_iff_right hrange]
    simp
  | some operand =>
    obtain ⟨hkind, hdims, -⟩ := ValueType.shape?_eq_some_iff.mp hshape
    rw [n.reducedType_of_shape?_some hshape]
    simp only [reduce_axes_eq_ok_iff hnames haxes hkeep, hkind, hdims]
    simp [Shape.rank]

end

/-! ## Nodes -/

theorem Family.accepts_axes_iff {t : ValueType} :
    Family.axes.Accepts t ↔
      t.kind = .notSet ∨
        t.kind = .tensor ∧ (t.dtype = .invalid ∨ t.dtype ∈ highPrecisionTypes) := by
  simp [Accepts, constraint, TypeConstraint.allows]

/-- **The schema of a reduction over axes accepts exactly the nodes that keep the contract.** -/
theorem checkAgainst_axes_iff {name doc : String} {strict : Bool} {n : Node}
    {inputs : List (Option ValueType)} {types : List ValueType} :
    checkAgainst strict (Family.axes.schema name doc) n inputs = .ok types ↔
      ∃ t, ReductionContract strict n inputs t ∧ types = [n.reducedType t] := by
  rw [checkAgainst_eq_ok_iff_contract, checkAttributes_axes_iff]
  constructor
  · rintro ⟨⟨hnames, haxes, hkeep, hdeclared⟩, houtputs, t, out, rfl, ht, htype, rfl⟩
    obtain ⟨hrange, rfl⟩ := (typeOf_axes_eq_ok_iff hnames haxes hkeep ht.kind).mp htype
    exact ⟨t, ⟨hnames, haxes, hkeep, hdeclared, rfl, Family.accepts_axes_iff.mp ht, houtputs,
      hrange⟩, rfl⟩
  · rintro ⟨t, h, rfl⟩
    have ht := Family.accepts_axes_iff.mpr h.accepts
    have htype := (typeOf_axes_eq_ok_iff h.names h.axesType h.keepDimsType ht.kind).mpr
      ⟨h.inRange, rfl⟩
    exact ⟨⟨h.names, h.axesType, h.keepDimsType, h.declared⟩, h.outputs, t, _, h.input, ht, htype,
      rfl⟩

/-- **The standard registry decides the contract of reductions**: with any options and for any
opset, a node of one of the ten operators is accepted exactly if it keeps the contract, and then
its output has the reduced type. -/
theorem Checker.Over.checkNode_iff_contract {r : Registry} (hr : Registry.standard = .ok r)
    {c : Checker} (hc : Checker.Over r.schema? c) {op : Operator} (hop : op ∈ Operator.reductions)
    {n : Node} (hdomain : n.domain = "") (hname : n.op = op.name)
    {inputs : List (Option ValueType)} {version : Int} {types : List ValueType} :
    c.checkNode n inputs version = .ok types ↔
      ∃ t, ReductionContract c.strict n inputs t ∧ types = [n.reducedType t] := by
  obtain rfl := Except.ok.inj (hr.symm.trans Registry.standard_eq)
  have hschema : c.lookup n.domain n.op (c.opset version)
      = some (Family.axes.schema op.name op.standardDoc) := by
    rw [hc.lookup_eq, hdomain, hname]
    exact Operator.schema?_standard hop (hc.opset_pos version)
  rw [Checker.checkNode_eq_ok_iff, ← checkAgainst_axes_iff]
  constructor
  · rintro ⟨s, hs, hagainst⟩
    obtain rfl := Option.some.inj (hschema.symm.trans hs)
    exact hagainst
  · intro hagainst
    exact ⟨_, hschema, hagainst⟩

/-- A sum over the first and the last axis, one of them named from both ends, with an attribute
that reductions do not declare. -/
def sumNode : Node where
  name := "total"
  op := "ReduceSum"
  domain := ""
  inputs := ["x"]
  outputs := ["y"]
  attributes := [⟨"axes", .ints [0, -1, -3]⟩, ⟨"note", .string "batch"⟩, ⟨"keepdims", .int 0⟩]

def sumInput : ValueType := ⟨.tensor, .float32, some [.symbolic "N", .static 3, .unknown]⟩

theorem Checker.Over.checkNode_iff_contract_sum :
    (standardChecker.withStrict false).checkNode sumNode [some sumInput] 0
        = .ok [⟨.tensor, .float32, some [.static 3]⟩] ∧
      ∀ types, standardChecker.checkNode sumNode [some sumInput] 0 ≠ .ok types := by
  have hop : Operator.reduceSum ∈ Operator.reductions := by decide
  refine ⟨?_, fun types h => ?_⟩
  · have haxes : sumNode.axes = [0, -1, -3] := rfl
    refine (checkNode_iff_contract Registry.standard_eq (.withStrict false .usual) hop rfl
      rfl).mpr ⟨sumInput, ?_, rfl⟩
    exact
      { names := by decide
        axesType := by simp [sumNode, Attribute.type, AttrValue.type]
        keepDimsType := by simp [sumNode, Attribute.type, AttrValue.type]
        declared := nofun
        input := rfl
        accepts := by decide
        outputs := by decide
        inRange := fun _ dims hdims => by
          obtain rfl := Option.some.inj hdims
          simp [haxes, IsAxis] }
  · obtain ⟨t, hcontract, -⟩ :=
      (checkNode_iff_contract Registry.standard_eq .usual hop rfl rfl).mp h
    simpa [sumNode] using hcontract.declared rfl

end TensorGraph
