import TensorGraph.Proofs.Graph.Views
import TensorGraph.Proofs.Reduction.Contract

/-!
# Proofs/Reduction/Steps — the steps of a reduction, on any view of a node

    inferElem     element type of the slot      reads the input and the slot
    inferShape    dimensions of the slot        reads the operand, the axes and `keepdims`

Inference of a reduction takes two steps, and both write to the first slot or leave everything as it
is.  Here they run on any view of a node, with whatever is in its slots.  They read no attribute
but the two that the schema of the family declares (`Family.reads_infer`).
-/

namespace TensorGraph

namespace InferenceContext

variable {c : InferenceContext} {index : Int}

/-! ## Views with other attributes -/

/-- The same view, of a node that sets other attributes. -/
def withAttributes (c : InferenceContext) (as : List Attribute) : InferenceContext :=
  { c with attributes := as }

theorem setOutput_withAttributes (as : List Attribute) (t : ValueType) :
    (c.withAttributes as).setOutput index t = (c.setOutput index t).withAttributes as := by
  have houtput : (c.withAttributes as).output? index = c.output? index := rfl
  rw [setOutput, setOutput, houtput]
  cases c.output? index <;> rfl

/-! ## The operand -/

/-- The shape that a reduction works on: that of the first input, if it is known. -/
def operand? (c : InferenceContext) : Option Shape := (c.input? 0).bind ValueType.shape?

theorem hasInputShapes_one (c : InferenceContext) :
    c.hasInputShapes 1 = c.operand?.isSome := by
  obtain ⟨attributes, inputs, outputs⟩ := c
  match inputs with
  | [] => rfl
  | none :: rest => simp [hasInputShapes, operand?, input?, entryAt]
  | some t :: rest =>
    have hlen : ¬ ((some t :: rest).length : Int) < 1 := by
      rw [List.length_cons]
      omega
    rw [hasInputShapes, if_neg hlen]
    by_cases ht : t.isTensor
    · simp [operand?, input?, entryAt, ValueType.shape?, ht]
    · simp [operand?, input?, entryAt, ValueType.shape?, ht]

end InferenceContext

/-! ## Steps that read attributes by name -/

/-- A step that does the same on every view reads nothing but what the views share. -/
theorem InferenceFn.reads_ofStep {step : Action Violation InferenceContext Unit}
    (hatomic : step.IsAtomic) {names : Set String}
    (h : ∀ (c : InferenceContext) (as : List Attribute),
      (∀ name ∈ names, c.attribute? name = (c.withAttributes as).attribute? name) →
        step.result (c.withAttributes as) = (·.withAttributes as) <$> step.result c) :
    Reads (.ofStep step) names := by
  intro c c' halike
  obtain ⟨as, rfl⟩ : ∃ as, c' = c.withAttributes as :=
    ⟨c'.attributes, by rw [InferenceContext.withAttributes, halike.inputs, halike.outputs]⟩
  rw [ofStep_of_isAtomic hatomic, ofStep_of_isAtomic hatomic, h c as halike.attribute?]
  cases step.result c <;> rfl

theorem copyElem_withAttributes (c : InferenceContext) (as : List Attribute)
    (input output : Int) :
    (copyElem input output).result (c.withAttributes as)
      = (·.withAttributes as) <$> (copyElem input output).result c := by
  have hinput : (c.withAttributes as).input? input = c.input? input := rfl
  have hslot : (c.withAttributes as).slot output = c.slot output := rfl
  have hinputs : (c.withAttributes as).inputs = c.inputs := rfl
  simp only [result_copyElem, hinput, hslot, hinputs, InferenceContext.setOutput_withAttributes]
  split
  · rfl
  · cases c.input? input with
    | none => rfl
    | some t =>
      dsimp only
      split
      · rfl
      · split
        · rfl
        · cases c.slot output with
          | error v => rfl
          | ok o =>
            simp only [ok_bind]
            split
            · rfl
            · split <;> rfl

/-! ## The steps of a family -/

namespace Family

open InferenceContext

variable (F : Family)

/-- **The second step**, whatever is in the slots: the dimensions of the first slot follow if those
of the operand are known. -/
theorem inferShape_eq (c : InferenceContext) :
    F.inferShape.result c = match c.operand? with
      | none => .ok c
      | some operand => do
        let s ← F.reduce c.attributes operand
        let o ← c.slot 0
        return c.setOutput 0 (o.withDims s.dims) := by
  cases hinput : c.input? 0 with
  | none =>
    have hoperand : c.operand? = none := by rw [operand?, hinput, Option.bind_none]
    rw [hoperand]
    cases F <;> simp only [inferShape, result_inferReducedShape, result_inferIndexShape, hinput]
  | some t =>
    have hshapes := hasInputShapes_one c
    rw [operand?, hinput, Option.bind_some] at hshapes ⊢
    cases hshape : t.shape? with
    | none =>
      rw [hshape, Option.isSome_none] at hshapes
      cases F <;>
        simp [inferShape, result_inferReducedShape, result_inferIndexShape, hinput, hshapes]
    | some operand =>
      rw [hshape, Option.isSome_some] at hshapes
      cases F <;>
        simp only [inferShape, result_inferReducedShape, result_inferIndexShape, hinput, hshapes,
          if_true, shape_of_shape? hshape, reduce, bind_assoc] <;> rfl

/-! ## What a reduction reads -/

/-- The attributes that a family declares, by name. -/
def attributeNames : Set String := {F.axisSpec.name, keepDimsSpec.name}

/-- The reduced shape depends on the declared attributes only. -/
theorem reduce_congr {as as' : List Attribute}
    (h : ∀ name ∈ F.attributeNames,
      attribute? ⟨as, [], []⟩ name = attribute? ⟨as', [], []⟩ name) :
    F.reduce as = F.reduce as' := by
  have hkeep := h keepDimsSpec.name (.inr rfl)
  have haxis := h F.axisSpec.name (.inl rfl)
  funext operand
  cases F <;> simp only [axisSpec, keepDimsSpec] at hkeep haxis <;>
    simp only [reduce, intOr, intsOrEmpty, hkeep, haxis]

/-- The first step reads no attribute. -/
theorem inferElem_withAttributes (c : InferenceContext) (as : List Attribute) :
    F.inferElem.result (c.withAttributes as)
      = (·.withAttributes as) <$> F.inferElem.result c := by
  cases F with
  | axes => exact copyElem_withAttributes c as 0 0
  | index =>
    have hslot : (c.withAttributes as).slot 0 = c.slot 0 := rfl
    simp only [inferElem, result_inferIndexElem, hslot, setOutput_withAttributes]
    cases c.slot 0 with
    | error v => rfl
    | ok o =>
      simp only [ok_bind]
      split <;> rfl

/-- The second step reads the declared attributes only. -/
theorem inferShape_withAttributes (c : InferenceContext) {as : List Attribute}
    (h : F.reduce as = F.reduce c.attributes) :
    F.inferShape.result (c.withAttributes as)
      = (·.withAttributes as) <$> F.inferShape.result c := by
  have hoperand : (c.withAttributes as).operand? = c.operand? := rfl
  have hslot : (c.withAttributes as).slot 0 = c.slot 0 := rfl
  have hattributes : (c.withAttributes as).attributes = as := rfl
  simp only [inferShape_eq, hoperand, hslot, hattributes, h, setOutput_withAttributes]
  cases c.operand? with
  | none => rfl
  | some operand => simp only [map_bind, map_pure]

/-- **A reduction reads no attribute but those that its schema declares.** -/
theorem reads_infer : F.infer.Reads F.attributeNames := by
  rw [infer_eq]
  refine .andThen
    (InferenceFn.reads_ofStep F.isAtomic_inferElem fun c as _ => F.inferElem_withAttributes c as)
    (InferenceFn.reads_ofStep F.isAtomic_inferShape fun c as h =>
      F.inferShape_withAttributes c ?_)
  exact F.reduce_congr fun name hname => (h name hname).symm

end Family

end TensorGraph
