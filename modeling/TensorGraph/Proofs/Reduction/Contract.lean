import TensorGraph.Proofs.Graph.Relate
import TensorGraph.Proofs.Reduction.Schemas

/-!
# Proofs/Reduction/Contract — what a reduction accepts, and with which type

    t ──element type──▸ base t ──dimensions──▸ typeOf t

A reduction takes one input `t` and gives one output.  Its element type is settled first and needs
no shape (`Family.base`); its dimensions follow if those of the input are known
(`Family.reduce`).  `checkAgainst_eq_ok_iff_contract` says that a node is accepted exactly when its
attributes and its number of outputs are right, its one input is a tensor of an allowed element
type as far as it is known, and its axes exist; and that its output then has type `typeOf t`.
-/

namespace TensorGraph

/-! ## The contract of a family -/

/-- The shape of a tensor, if it is known. -/
def ValueType.shape? (t : ValueType) : Option Shape :=
  if t.isTensor then t.dims?.map (Shape.mk t.dtype) else none

theorem ValueType.shape?_eq_some_iff {t : ValueType} {operand : Shape} :
    t.shape? = some operand ↔
      t.kind = .tensor ∧ t.dims? = some operand.dims ∧ t.dtype = operand.dtype := by
  obtain ⟨dtype, dims⟩ := operand
  by_cases ht : t.kind = .tensor
  · simp [shape?, isTensor, ht, and_comm]
  · simp [shape?, isTensor, ht]

namespace Family

/-- What a reduction takes: a value that is not set, or a tensor whose element type is not known or
allowed. -/
def Accepts (F : Family) (t : ValueType) : Prop :=
  t.kind = .notSet ∨ t.kind = .tensor ∧ (t.dtype = .invalid ∨ F.constraint.allows t.dtype)

/-- The output before its dimensions are known. -/
def base : Family → ValueType → ValueType
  | axes, t => if t.kind = .tensor ∧ t.dtype ≠ .invalid then .tensor t.dtype else .unset
  | index, _ => .tensor indexDType

/-- The shape of a reduction of a known shape, as the attributes ask for it. -/
def reduce (F : Family) (attributes : List Attribute) (operand : Shape) : Except Violation Shape :=
  let c : InferenceContext := ⟨attributes, [], []⟩
  match F with
  | axes => do
    let keepDims ← c.intOr "keepdims" 1
    let axes ← c.intsOrEmpty "axes"
    reduceShape operand (axes.map Int64.toInt) keepDims
  | index => do
    let axis ← c.intOr "axis" 0
    let keepDims ← c.intOr "keepdims" 1
    argReduceShape operand axis.toInt keepDims

/-- **The type of the output**, for attributes and an input that is taken. -/
def typeOf (F : Family) (attributes : List Attribute) (t : ValueType) :
    Except Violation ValueType :=
  match t.shape? with
  | none => .ok (F.base t)
  | some operand => do
    let s ← F.reduce attributes operand
    return (F.base t).withDims s.dims

/-- The attributes of a node with the defaults of those it does not set. -/
def settings (F : Family) (given : List Attribute) : List Attribute :=
  given ++ missingDefaults (F.schema "" "") given

theorem Accepts.kind {F : Family} {t : ValueType} (h : F.Accepts t) :
    t.kind = .notSet ∨ t.kind = .tensor := h.imp_right And.left

/-- The type of the output is the base type, with the dimensions of the reduced shape if there is
one. -/
theorem typeOf_eq_ok_iff {F : Family} {attributes : List Attribute} {t out : ValueType} :
    F.typeOf attributes t = .ok out ↔
      t.shape? = none ∧ out = F.base t ∨
      ∃ operand s, t.shape? = some operand ∧ F.reduce attributes operand = .ok s ∧
        out = (F.base t).withDims s.dims := by
  rw [typeOf]
  cases t.shape? with
  | none => simp [@eq_comm _ out]
  | some operand =>
    simp only [bind_eq_ok_iff, pure_eq_ok_iff, @eq_comm _ out]
    simp

theorem base_eq_unset_or_tensor (F : Family) (t : ValueType) :
    F.base t = .unset ∨ ∃ dtype, F.base t = .tensor dtype := by
  cases F with
  | index => exact .inr ⟨_, rfl⟩
  | axes =>
    rw [base]
    split
    · exact .inr ⟨_, rfl⟩
    · exact .inl rfl

theorem base_dims (F : Family) (t : ValueType) : (F.base t).dims? = none := by
  rcases F.base_eq_unset_or_tensor t with h | ⟨_, h⟩ <;> rw [h] <;> rfl

theorem dtype_of_typeOf {F : Family} {attributes : List Attribute} {t out : ValueType}
    (h : F.typeOf attributes t = .ok out) : out.dtype = (F.base t).dtype := by
  rcases typeOf_eq_ok_iff.mp h with ⟨-, rfl⟩ | ⟨_, _, -, -, rfl⟩ <;> rfl

end Family

/-! ## Inference with one input and one slot -/

/-- The step of inference that settles the element type. -/
def Family.inferElem : Family → Action Violation InferenceContext Unit
  | axes => copyElem 0 0
  | index => inferIndexElem

/-- The step of inference that settles the dimensions. -/
def Family.inferShape : Family → Action Violation InferenceContext Unit
  | axes => inferReducedShape
  | index => inferIndexShape

theorem Family.infer_eq (F : Family) :
    F.infer = InferenceFn.andThen (.ofStep F.inferElem) (.ofStep F.inferShape) := by
  cases F <;> rfl

/-! ### Each step tests before it writes -/

theorem isAtomic_copyElem (input output : Int) : (copyElem input output).IsAtomic := by
  refine Action.isAtomic_get_bind fun c => .ite (Action.isAtomic_pure _) ?_
  cases c.input? input with
  | none => exact Action.isAtomic_pure _
  | some t =>
    refine .ite (Action.isAtomic_pure _) (.ite (Action.isAtomic_throw _) ?_)
    exact Action.isAtomic_ofExcept_bind (fun _ =>
      .ite (Action.isAtomic_throw _) (.ite (Action.isAtomic_pure _) (Action.isAtomic_set _))) _

theorem Family.isAtomic_inferElem (F : Family) : F.inferElem.IsAtomic := by
  cases F with
  | axes => exact isAtomic_copyElem 0 0
  | index =>
    refine Action.isAtomic_get_bind fun c => Action.isAtomic_ofExcept_bind (fun _ => ?_) _
    exact .ite (Action.isAtomic_set _) (Action.isAtomic_pure _)

theorem Family.isAtomic_inferShape (F : Family) : F.inferShape.IsAtomic := by
  cases F <;>
  · refine Action.isAtomic_get_bind fun c => ?_
    cases c.input? 0 with
    | none => exact Action.isAtomic_pure _
    | some t =>
      -- both attributes, the reduced shape and the slot are found before the slot is written
      refine .ite (Action.isAtomic_ofExcept_bind (fun _ => Action.isAtomic_ofExcept_bind (fun _ =>
        Action.isAtomic_ofExcept_bind (fun _ => Action.isAtomic_ofExcept_bind (fun _ => ?_) _) _) _)
          _) (Action.isAtomic_pure _)
      exact Action.isAtomic_set _

/-! ### What each step comes to -/

theorem result_copyElem (c : InferenceContext) (input output : Int) :
    (copyElem input output).result c =
      if (c.inputs.length : Int) ≤ input then .ok c
      else match c.input? input with
        | none => .ok c
        | some t =>
          if t.kind = .notSet then .ok c
          else if !t.isTensor then .error (.inputNotTensor input t.text)
          else do
            let o ← c.slot output
            if o.kind ≠ .notSet ∧ o.kind ≠ .tensor then throw (.outputNotTensor output o.text)
            else if t.dtype = .invalid then return c
            else return c.setOutput output (o.withElem t.dtype) := by
  rw [copyElem, Action.result_get_bind, Action.result_ite]
  cases c.input? input with
  | none => rfl
  | some t =>
    simp only [Action.result_ite, Action.result_pure, Action.result_throw,
      Action.result_ofExcept_bind, Action.result_set]
    rfl

theorem result_inferIndexElem (c : InferenceContext) :
    inferIndexElem.result c = do
      let o ← c.slot 0
      if o.kind = .notSet ∨ o.kind = .tensor then return c.setOutput 0 (o.withElem indexDType)
      else return c := by
  simp only [inferIndexElem, Action.result_get_bind, Action.result_ofExcept_bind,
    Action.result_ite, Action.result_set, Action.result_pure]
  rfl

theorem result_inferReducedShape (c : InferenceContext) :
    inferReducedShape.result c = match c.input? 0 with
      | some input =>
        if c.hasInputShapes 1 then do
          let keepDims ← c.intOr "keepdims" 1
          let axes ← c.intsOrEmpty "axes"
          let shape ← reduceShape input.shape (axes.map Int64.toInt) keepDims
          let output ← c.slot 0
          return c.setOutput 0 (output.withDims shape.dims)
        else .ok c
      | none => .ok c := by
  rw [inferReducedShape, Action.result_get_bind]
  cases c.input? 0 with
  | none => rfl
  | some input =>
    simp only [Action.result_ite, Action.result_pure, Action.result_ofExcept_bind,
      Action.result_set]
    rfl

theorem result_inferIndexShape (c : InferenceContext) :
    inferIndexShape.result c = match c.input? 0 with
      | some input =>
        if c.hasInputShapes 1 then do
          let axis ← c.intOr "axis" 0
          let keepDims ← c.intOr "keepdims" 1
          let shape ← argReduceShape input.shape axis.toInt keepDims
          let output ← c.slot 0
          return c.setOutput 0 (output.withDims shape.dims)
        else .ok c
      | none => .ok c := by
  rw [inferIndexShape, Action.result_get_bind]
  cases c.input? 0 with
  | none => rfl
  | some input =>
    simp only [Action.result_ite, Action.result_pure, Action.result_ofExcept_bind,
      Action.result_set]
    rfl

/-- The outcome of a step that leaves the view as it was if it fails. -/
def Outcome.ofResult (c : InferenceContext) : Except Violation InferenceContext → Outcome
  | .ok c' => ok c'
  | .error v => ⟨c.outputs, some (.violation v)⟩

theorem InferenceFn.ofStep_of_isAtomic {step : Action Violation InferenceContext Unit}
    (h : step.IsAtomic) (c : InferenceContext) : ofStep step c = .ofResult c (step.result c) := by
  rw [ofStep, Action.result]
  cases hstep : step c with
  | ok _ c' => rfl
  | error v c' =>
    obtain rfl := h c v c' hstep
    rfl

/-- **Inference is two steps**, and either leaves the view as it was if it fails. -/
theorem Family.infer_apply (F : Family) (c : InferenceContext) :
    F.infer c = match F.inferElem.result c with
      | .ok c' => .ofResult { c with outputs := c'.outputs }
          (F.inferShape.result { c with outputs := c'.outputs })
      | .error v => ⟨c.outputs, some (.violation v)⟩ := by
  rw [infer_eq, InferenceFn.andThen, InferenceFn.ofStep_of_isAtomic F.isAtomic_inferElem]
  cases F.inferElem.result c with
  | error v => rfl
  | ok c' => exact InferenceFn.ofStep_of_isAtomic F.isAtomic_inferShape _

/-- The view of a node with one input and one output slot. -/
def singleContext (attributes : List Attribute) (t o : ValueType) : InferenceContext :=
  ⟨attributes, [some t], [some o]⟩

section

variable {attributes : List Attribute} {t o : ValueType}

theorem singleContext_input? : (singleContext attributes t o).input? 0 = some t := rfl

theorem singleContext_slot : (singleContext attributes t o).slot 0 = .ok o := rfl

theorem singleContext_hasInputShapes :
    (singleContext attributes t o).hasInputShapes 1 = t.shape?.isSome := by
  simp only [singleContext, InferenceContext.hasInputShapes, ValueType.shape?]
  by_cases ht : t.isTensor
  · simp [ht]
  · simp [ht]

theorem shape_of_shape? {operand : Shape} (h : t.shape? = some operand) : t.shape = operand := by
  obtain ⟨-, hdims, hdtype⟩ := ValueType.shape?_eq_some_iff.mp h
  rw [ValueType.shape, hdims, hdtype]
  rfl

theorem copyElem_single (h : t.kind = .notSet ∨ t.kind = .tensor) :
    (copyElem 0 0).result (singleContext attributes t .unset)
      = .ok (singleContext attributes t (Family.axes.base t)) := by
  have hlen : ¬ ((singleContext attributes t .unset).inputs.length : Int) ≤ 0 := by
    simp [singleContext]
  rw [result_copyElem, if_neg hlen, singleContext_input?]
  rcases h with h | h
  · simp [h, Family.base]
  · by_cases hd : t.dtype = .invalid
    · simp [h, hd, Family.base, ValueType.isTensor, singleContext_slot, bind, Except.bind,
        ValueType.unset, pure, Except.pure]
    · simp [h, hd, Family.base, ValueType.isTensor, singleContext_slot, bind, Except.bind,
        ValueType.unset, pure, Except.pure]
      rfl

/-- **The base type of an accepted input goes to the slot.** -/
theorem inferElem_single (F : Family) (h : t.kind = .notSet ∨ t.kind = .tensor) :
    F.inferElem.result (singleContext attributes t .unset)
      = .ok (singleContext attributes t (F.base t)) := by
  cases F with
  | axes => exact copyElem_single h
  | index => rfl

/-- The dimensions of a slot follow if those of the input are known. -/
def settleDims (F : Family) (attributes : List Attribute) (t o : ValueType) :
    Except Violation InferenceContext :=
  match t.shape? with
  | none => .ok (singleContext attributes t o)
  | some operand => do
    let s ← F.reduce attributes operand
    return singleContext attributes t (o.withDims s.dims)

/-- **Shape inference settles the dimensions of the slot.** -/
theorem inferShape_single (F : Family) :
    F.inferShape.result (singleContext attributes t o) = settleDims F attributes t o := by
  rw [settleDims]
  cases h : t.shape? with
  | none =>
    cases F <;>
      simp [Family.inferShape, result_inferReducedShape, result_inferIndexShape,
        singleContext_input?, singleContext_hasInputShapes, h]
  | some operand =>
    have hshape : t.shape = operand := shape_of_shape? h
    cases F <;>
      simp only [Family.inferShape, result_inferReducedShape, result_inferIndexShape,
        singleContext_input?, singleContext_hasInputShapes, h, Option.isSome_some, if_true, hshape,
        Family.reduce, bind_assoc] <;> rfl

/-- What inference leaves for a reduction whose output type is found, or not. -/
def outcomeOf (base : ValueType) : Except Violation ValueType → Outcome
  | .ok out => ⟨[some out], none⟩
  | .error v => ⟨[some base], some (.violation v)⟩

theorem ofResult_settleDims (F : Family) :
    Outcome.ofResult (singleContext attributes t (F.base t))
        (settleDims F attributes t (F.base t))
      = outcomeOf (F.base t) (F.typeOf attributes t) := by
  rw [settleDims, Family.typeOf]
  cases t.shape? with
  | none => rfl
  | some operand =>
    dsimp only
    cases F.reduce attributes operand <;> rfl

/-- **Inference settles the slot of a reduction as `typeOf` says**, or fails with its violation. -/
theorem infer_single (F : Family) (h : t.kind = .notSet ∨ t.kind = .tensor) :
    F.infer (singleContext attributes t .unset)
      = outcomeOf (F.base t) (F.typeOf attributes t) := by
  rw [← ofResult_settleDims, ← inferShape_single, F.infer_apply, inferElem_single F h]
  rfl

end

/-! ## The stages on a reduction -/

section

variable {F : Family} {name doc : String}

/-- The element type that an input binds to the type variable. -/
def Family.bindings (t : ValueType) : Bindings :=
  if t.kind = .tensor ∧ t.dtype ≠ .invalid then [("T", t.dtype)] else []

theorem Family.constraint?_schema :
    (F.schema name doc).constraint? "T" = some F.constraint := by cases F <;> rfl

theorem checkInput_reduction {t : ValueType} {bindings : Bindings} :
    checkInput (F.schema name doc) 0 Family.input (some t) [] = .ok bindings ↔
      F.Accepts t ∧ bindings = Family.bindings t := by
  have hvariable : Family.input.isVariable = true := rfl
  have htext : Family.input.typeText = "T" := rfl
  simp only [checkInput, hvariable, htext, Family.constraint?_schema, Option.getD_some,
    Bool.not_true, Bool.false_eq_true, if_false, List.lookup_nil]
  by_cases hset : t.kind = .notSet
  · simp [hset, Family.Accepts, Family.bindings, @eq_comm _ []]
  by_cases htensor : t.kind = .tensor
  · by_cases hknown : t.dtype = .invalid
    · simp [htensor, hknown, ValueType.isTensor, Family.Accepts, Family.bindings, @eq_comm _ []]
    by_cases hallows : F.constraint.allows t.dtype
    · simp [htensor, hknown, hallows, ValueType.isTensor, Family.Accepts, Family.bindings,
        @eq_comm _ [_]]
    · simp [htensor, hknown, hallows, ValueType.isTensor, Family.Accepts]
  · simp [hset, htensor, ValueType.isTensor, Family.Accepts]

/-- **The inputs of a reduction are one that it accepts**, and bind its element type. -/
theorem checkInputs_reduction {inputs : List (Option ValueType)} {bindings : Bindings} :
    checkInputs (F.schema name doc) inputs = .ok bindings ↔
      ∃ t, inputs = [some t] ∧ F.Accepts t ∧ bindings = Family.bindings t := by
  match inputs with
  | [] => simp [checkInputs, checkInputsFrom, checkInput, Family.schema, bind, Except.bind]
  | [none] => simp [checkInputs, checkInputsFrom, checkInput, Family.schema, bind, Except.bind]
  | [some t] =>
    have hinputs : (F.schema name doc).inputs = [Family.input] := rfl
    rw [checkInputs, hinputs, if_neg (by simp)]
    simp [checkInputsFrom, bind_eq_ok_iff, checkInput_reduction]
  | _ :: _ :: _ => simp [checkInputs, Family.schema]

/-- The element type an output has to have is that of the base type, where that is known. -/
theorem expectedElem_eq (F : Family) (t : ValueType) :
    expectedElem (Family.bindings t) F.output = (F.base t).dtype := by
  cases F with
  | axes =>
    rw [expectedElem, if_pos (show Family.axes.output.isVariable = true from rfl)]
    by_cases h : t.kind = .tensor ∧ t.dtype ≠ .invalid
    · simp [Family.bindings, Family.base, h]
      rfl
    · simp [Family.bindings, Family.base, h]
      rfl
  | index => rfl

theorem completeOutput_of_expected {bindings : Bindings} {index : Nat} {p : Parameter}
    {t : ValueType} (h : expectedElem bindings p = t.dtype) :
    completeOutput bindings index p t = .ok t := by
  simp only [completeOutput, h]
  split
  · rfl
  · split
    · rfl
    · rfl

/-- **A settled output needs no completion.** -/
theorem completeOutputs_reduction {t out : ValueType} {attributes : List Attribute}
    (h : F.typeOf attributes t = .ok out) :
    completeOutputs (F.schema name doc) (Family.bindings t) [out] = .ok [out] := by
  have hexpected : expectedElem (Family.bindings t) F.output = out.dtype :=
    (expectedElem_eq F t).trans (Family.dtype_of_typeOf h).symm
  have houtputs : (F.schema name doc).outputs = [F.output] := rfl
  rw [completeOutputs, houtputs, completeOutputsFrom, completeOutput_of_expected hexpected]
  rfl

/-- A reduction that names at most one output has one slot. -/
theorem nodeContext_reduction {n : Node} (h : n.outputs.length ≤ 1) (t : ValueType) :
    nodeContext (F.schema name doc) n [some t]
      = singleContext (F.settings n.attributes) t .unset := by
  have hcount : (if n.outputs.isEmpty then 1 else n.outputs.length) = 1 := by
    split
    · rfl
    · rename_i hne
      have hpos : n.outputs.length ≠ 0 := fun h0 => hne (by simp [List.length_eq_zero_iff.mp h0])
      omega
  have houtputs : (F.schema name doc).outputs.length = 1 := rfl
  rw [nodeContext, houtputs, hcount]
  rfl

/-- Inference on a node whose input is accepted leaves what `typeOf` says. -/
theorem infer_reduction {n : Node} (houtputs : n.outputs.length ≤ 1) {t : ValueType}
    (h : F.Accepts t) :
    (F.schema name doc).infer (nodeContext (F.schema name doc) n [some t])
      = outcomeOf (F.base t) (F.typeOf (F.settings n.attributes) t) := by
  have hrun : (F.schema name doc).infer = InferenceFn.run F.infer := rfl
  rw [nodeContext_reduction houtputs, hrun, InferenceFn.run, infer_single F h.kind]
  cases F.typeOf (F.settings n.attributes) t <;> rfl

/-- **A node is accepted by the schema of a reduction exactly when it keeps the contract**: its
attributes and the number of its outputs are right, it has one input, which the family accepts, and
the output has a type; and that type is the answer. -/
theorem checkAgainst_eq_ok_iff_contract {strict : Bool} {n : Node}
    {inputs : List (Option ValueType)} {types : List ValueType} :
    checkAgainst strict (F.schema name doc) n inputs = .ok types ↔
      checkAttributes strict (F.schema name doc) n.attributes = .ok () ∧ n.outputs.length ≤ 1 ∧
        ∃ t out, inputs = [some t] ∧ F.Accepts t ∧
          F.typeOf (F.settings n.attributes) t = .ok out ∧ types = [out] := by
  rw [checkAgainst_eq_ok_iff]
  refine and_congr_right fun _ => and_congr_right fun houtputs => ?_
  simp only [checkInputs_reduction]
  constructor
  · rintro ⟨hfailure, _, ⟨t, rfl, haccepts, rfl⟩, hcomplete⟩
    rw [infer_reduction houtputs haccepts] at hfailure hcomplete
    cases htype : F.typeOf (F.settings n.attributes) t with
    | error v => simp [htype, outcomeOf] at hfailure
    | ok out =>
      have hslots : slotTypes (outcomeOf (F.base t) (.ok out)).slots = [out] := rfl
      rw [htype, hslots, completeOutputs_reduction htype] at hcomplete
      exact ⟨t, out, rfl, haccepts, htype, (Except.ok.inj hcomplete).symm⟩
  · rintro ⟨t, out, rfl, haccepts, htype, rfl⟩
    rw [infer_reduction houtputs haccepts, htype]
    exact ⟨rfl, _, ⟨t, rfl, haccepts, rfl⟩, completeOutputs_reduction htype⟩

end

/-! ## Relations that reductions respect -/

/-- **A standard checker respects a relation of types that both families respect.** -/
theorem Checker.IsStandard.respects {c : Checker} (hc : c.IsStandard)
    {R : ValueType → ValueType → Prop}
    (hR : ∀ (F : Family) (attributes : List Attribute) (t t' out : ValueType), R t t' →
      F.Accepts t → F.typeOf attributes t = .ok out →
        F.Accepts t' ∧ ∃ out', F.typeOf attributes t' = .ok out' ∧ R out out') : c.Respects R := by
  intro n opset inputs inputs' types hinputs h
  obtain ⟨s, hlookup, hs⟩ := checkNode_eq_ok_iff.mp h
  obtain ⟨F, op, doc, rfl⟩ := hc.exists_family hlookup
  obtain ⟨hattributes, houtputs, t, out, rfl, haccepts, htype, rfl⟩ :=
    checkAgainst_eq_ok_iff_contract.mp hs
  obtain ⟨t', rfl, ht⟩ : ∃ t', inputs' = [some t'] ∧ R t t' := by
    obtain ⟨_, _, hhead, htail, rfl⟩ := List.forall₂_cons_left_iff.mp hinputs
    obtain ⟨t', rfl, ht⟩ := rel_some_left_iff.mp hhead
    exact ⟨t', by rw [List.forall₂_nil_left_iff.mp htail], ht⟩
  obtain ⟨haccepts', out', htype', hout⟩ := hR F _ t t' out ht haccepts htype
  exact ⟨[out'], checkNode_eq_ok_iff.mpr ⟨_, hlookup, checkAgainst_eq_ok_iff_contract.mpr
    ⟨hattributes, houtputs, t', out', rfl, haccepts', htype', rfl⟩⟩, .cons hout .nil⟩

end TensorGraph
