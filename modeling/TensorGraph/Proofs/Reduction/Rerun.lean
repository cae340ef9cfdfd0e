import TensorGraph.Proofs.Reduction.SingleAxis
import TensorGraph.Proofs.Reduction.Steps

/-!
# Proofs/Reduction/Rerun — an index reduction on what it left

    slot                  first run              second run
    not set               tensor(int64)[1 3]     tensor(int64)[1 3]
    tensor(float)         tensor(int64)[1 3]     tensor(int64)[1 3]
    sequence of floats    tensor(float)[1 3]     tensor(int64)[1 3]

Inference may find any type in a slot.  An index reduction sets the element type of the first slot
unless that holds something other than a tensor, and sets its dimensions once the reduced shape is
known, whatever it holds; dimensions make it a tensor.  So a slot of another kind becomes a tensor
of its old element type, which the next run corrects.  Everywhere else one run yields positions and
a second one changes nothing (`InferenceContext.index_settled_iff`).
-/

namespace TensorGraph

namespace InferenceContext

variable {c : InferenceContext} {index : Int} {o t u : ValueType}

/-! ## Writing to a slot -/

theorem output?_eq_some_iff :
    c.output? index = some o ↔ 0 ≤ index ∧ c.outputs[index.toNat]? = some (some o) := by
  rw [output?, entryAt]
  split
  · simp only [reduceCtorEq, false_iff, not_and]
    omega
  · rw [Option.join_eq_some_iff]
    exact ⟨fun h => ⟨by omega, h⟩, And.right⟩

theorem slot_of_output? (h : c.output? index = some o) : c.slot index = .ok o := by
  obtain ⟨hnonneg, hentry⟩ := output?_eq_some_iff.mp h
  obtain ⟨hlt, -⟩ := List.getElem?_eq_some_iff.mp hentry
  rw [slot, if_neg (by omega), h]

theorem exists_slot_eq_error (h : c.output? index = none) : ∃ v, c.slot index = .error v := by
  rw [slot]
  split
  · exact ⟨_, rfl⟩
  · exact ⟨_, by rw [h]⟩

theorem setOutput_of_output? (h : c.output? index = some o) (t : ValueType) :
    c.setOutput index t = { c with outputs := c.outputs.set index.toNat (some t) } := by
  rw [setOutput, h]

/-- A write reaches the slots only. -/
theorem setOutput_eq (c : InferenceContext) (index : Int) (t : ValueType) :
    { c with outputs := (c.setOutput index t).outputs } = c.setOutput index t := by
  rw [setOutput]
  split <;> rfl

theorem output?_setOutput (h : c.output? index = some o) (t : ValueType) :
    (c.setOutput index t).output? index = some t := by
  obtain ⟨hnonneg, hentry⟩ := output?_eq_some_iff.mp h
  obtain ⟨hlt, -⟩ := List.getElem?_eq_some_iff.mp hentry
  rw [setOutput_of_output? h, output?_eq_some_iff]
  exact ⟨hnonneg, List.getElem?_set_self hlt⟩

/-- What is in a slot is written there without effect. -/
theorem setOutput_self (h : c.output? index = some o) : c.setOutput index o = c := by
  obtain ⟨-, hentry⟩ := output?_eq_some_iff.mp h
  obtain ⟨hlt, hget⟩ := List.getElem?_eq_some_iff.mp hentry
  rw [setOutput_of_output? h, ← hget, List.set_getElem_self]

/-- The last write counts. -/
theorem setOutput_setOutput (h : c.output? index = some o) :
    (c.setOutput index t).setOutput index u = c.setOutput index u := by
  rw [setOutput_of_output? (output?_setOutput h t), setOutput_of_output? h, setOutput_of_output? h,
    List.set_set]

/-- A second run of a function, on the slots that the first one left, ends as the first. -/
def RerunsAlike (c : InferenceContext) (f : InferenceFn) : Prop :=
  f { c with outputs := (f c).slots } = f c

end InferenceContext

open InferenceContext

/-! ## The shape step -/

/-- Writes dimensions, if there are any. -/
def ValueType.reshaped (o : ValueType) : Option Shape → ValueType
  | none => o
  | some s => o.withDims s.dims

/-- The failure that a violation is. -/
def violation? : Except Violation (Option Shape) → Option InferenceFailure
  | .ok _ => none
  | .error v => some (.violation v)

namespace Family

variable {F : Family} {c : InferenceContext} {o : ValueType}

/-- The reduced shape, if that of the operand is known. -/
def reduced? (F : Family) (c : InferenceContext) : Except Violation (Option Shape) :=
  match c.operand? with
  | none => .ok none
  | some operand => some <$> F.reduce c.attributes operand

/-- No slot counts for the reduced shape. -/
theorem reduced?_setOutput (index : Int) (t : ValueType) :
    F.reduced? (c.setOutput index t) = F.reduced? c := by
  rw [← setOutput_eq]
  rfl

theorem reduced?_eq_ok_some_iff {s : Shape} :
    F.reduced? c = .ok (some s) ↔
      ∃ t operand, c.input? 0 = some t ∧ t.shape? = some operand ∧
        F.reduce c.attributes operand = .ok s := by
  have hoperand {operand : Shape} : c.operand? = some operand ↔
      ∃ t, c.input? 0 = some t ∧ t.shape? = some operand := Option.bind_eq_some_iff
  rw [reduced?]
  cases h : c.operand? with
  | none =>
    simp only [Except.ok.injEq, reduceCtorEq, false_iff]
    rintro ⟨t, operand, hinput, hshape, -⟩
    rw [hoperand.mpr ⟨t, hinput, hshape⟩] at h
    exact absurd h (Option.some_ne_none operand)
  | some operand =>
    obtain ⟨t, hinput, hshape⟩ := hoperand.mp h
    cases hreduce : F.reduce c.attributes operand <;>
      simp [hinput, hshape, hreduce, Functor.map, Except.map]

theorem inferShape_of_output? (h : c.output? 0 = some o) :
    F.inferShape.result c = (fun s => c.setOutput 0 (o.reshaped s)) <$> F.reduced? c := by
  rw [inferShape_eq, reduced?, slot_of_output? h]
  cases c.operand? with
  | none => exact congrArg Except.ok (setOutput_self h).symm
  | some operand =>
    dsimp only
    cases F.reduce c.attributes operand <;> rfl

theorem inferShape_setOutput (F : Family) (h : c.output? 0 = some o) (e : ValueType) :
    F.inferShape.result (c.setOutput 0 e)
      = (fun s => c.setOutput 0 (e.reshaped s)) <$> F.reduced? c := by
  rw [inferShape_of_output? (output?_setOutput h e), reduced?_setOutput]
  simp only [setOutput_setOutput h]

/-- **Both steps**, where the first one leaves `e` in the slot. -/
theorem infer_of_inferElem (F : Family) (h : c.output? 0 = some o) {e : ValueType}
    (helem : F.inferElem.result c = .ok (c.setOutput 0 e)) :
    F.infer c = ⟨(c.setOutput 0 (e.reshaped (F.reduced? c).toOption.join)).outputs,
      violation? (F.reduced? c)⟩ := by
  simp only [infer_apply, helem, setOutput_eq, F.inferShape_setOutput h]
  cases F.reduced? c <;> rfl

end Family

/-! ## An index reduction in closed form -/

/-- The first slot after the step that sets the element type. -/
def indexElem (o : ValueType) : ValueType :=
  if o.kind = .notSet ∨ o.kind = .tensor then o.withElem indexDType else o

/-- The first slot after an index reduction, which found the reduced shape or met a violation on
the way. -/
def indexSlot (o : ValueType) (reduced : Except Violation (Option Shape)) : ValueType :=
  (indexElem o).reshaped reduced.toOption.join

section

variable {c : InferenceContext} {o : ValueType}

theorem inferIndexElem_of_output? (h : c.output? 0 = some o) :
    inferIndexElem.result c = .ok (c.setOutput 0 (indexElem o)) := by
  rw [result_inferIndexElem, slot_of_output? h, ok_bind, indexElem]
  split
  · rfl
  · rw [setOutput_self h]
    rfl

/-- **One run**, on a view whose first slot is there. -/
theorem inferArgReduce_of_output? (h : c.output? 0 = some o) :
    inferArgReduce c = ⟨(c.setOutput 0 (indexSlot o (Family.index.reduced? c))).outputs,
      violation? (Family.index.reduced? c)⟩ :=
  Family.index.infer_of_inferElem h (inferIndexElem_of_output? h)

/-- **Two runs**, the second on what the first one left. -/
theorem inferArgReduce_rerun (h : c.output? 0 = some o) :
    let reduced := Family.index.reduced? c
    inferArgReduce { c with outputs := (inferArgReduce c).slots }
      = ⟨(c.setOutput 0 (indexSlot (indexSlot o reduced) reduced)).outputs,
        violation? reduced⟩ := by
  intro reduced
  rw [inferArgReduce_of_output? h, setOutput_eq,
    inferArgReduce_of_output? (output?_setOutput h _), setOutput_setOutput h,
    Family.reduced?_setOutput]

/-- Without its slot an index reduction fails and leaves everything as it is. -/
theorem inferArgReduce_of_output?_none (h : c.output? 0 = none) :
    ∃ v, inferArgReduce c = ⟨c.outputs, some (.violation v)⟩ := by
  obtain ⟨v, hv⟩ := exists_slot_eq_error h
  refine ⟨v, ?_⟩
  have helem : Family.index.inferElem.result c = .error v := by
    rw [Family.inferElem, result_inferIndexElem, hv]
    rfl
  exact (Family.index.infer_apply c).trans (by rw [helem])

end

/-! ## What a run makes of a slot -/

/-- A type that is a tensor only of positions. -/
def ValueType.OnlyPositions (t : ValueType) : Prop := t.kind = .tensor → t.dtype = .int64

section

variable {o : ValueType} {reduced : Except Violation (Option Shape)}

theorem ValueType.reshaped_reshaped (s : Option Shape) :
    (o.reshaped s).reshaped s = o.reshaped s := by
  cases s <;> rfl

theorem ValueType.reshaped_withElem (s : Option Shape) (dtype : DType) :
    (o.withElem dtype).reshaped s = (o.reshaped s).withElem dtype := by
  cases s <;> rfl

theorem ValueType.withElem_eq_self_iff {dtype : DType} (h : o.kind = .tensor) :
    o.withElem dtype = o ↔ o.dtype = dtype := by
  obtain ⟨kind, dtype', dims⟩ := o
  obtain rfl : kind = .tensor := h
  simp [withElem, @eq_comm _ dtype]

/-- A slot that is not set or a tensor holds positions after a run. -/
theorem indexSlot_of_tensor (h : o.kind = .notSet ∨ o.kind = .tensor) :
    indexSlot o reduced = (o.reshaped reduced.toOption.join).withElem .int64 := by
  rw [indexSlot, indexElem, if_pos h, ValueType.reshaped_withElem]
  rfl

/-- A slot of another kind keeps its element type. -/
theorem indexSlot_of_other (h : ¬ (o.kind = .notSet ∨ o.kind = .tensor)) :
    indexSlot o reduced = o.reshaped reduced.toOption.join := by
  rw [indexSlot, indexElem, if_neg h]

theorem onlyPositions_indexSlot_iff :
    (indexSlot o reduced).OnlyPositions ↔
      ¬ ((o.kind ≠ .notSet ∧ o.kind ≠ .tensor ∧ o.dtype ≠ .int64) ∧
        ∃ s, reduced = .ok (some s)) := by
  by_cases hkind : o.kind = .notSet ∨ o.kind = .tensor
  · rw [indexSlot_of_tensor hkind]
    refine iff_of_true (fun _ => rfl) ?_
    rintro ⟨⟨hnotSet, htensor, -⟩, -⟩
    exact hkind.elim hnotSet htensor
  · obtain ⟨hnotSet, htensor⟩ := not_or.mp hkind
    rw [indexSlot_of_other hkind]
    match reduced with
    | .error v => simp [ValueType.OnlyPositions, Except.toOption, ValueType.reshaped, htensor]
    | .ok none => simp [ValueType.OnlyPositions, Except.toOption, ValueType.reshaped, htensor]
    | .ok (some s) =>
      simp [ValueType.OnlyPositions, Except.toOption, ValueType.reshaped, ValueType.withDims,
        hnotSet, htensor]

theorem kind_indexSlot_ne_notSet : (indexSlot o reduced).kind ≠ .notSet := by
  by_cases hkind : o.kind = .notSet ∨ o.kind = .tensor
  · rw [indexSlot_of_tensor hkind]
    exact TypeKind.noConfusion
  · rw [indexSlot_of_other hkind]
    cases reduced.toOption.join with
    | none => exact fun hnotSet => hkind (.inl hnotSet)
    | some s => exact TypeKind.noConfusion

/-- **A second run changes a slot exactly if it corrects the element type of a tensor.** -/
theorem indexSlot_indexSlot_iff :
    indexSlot (indexSlot o reduced) reduced = indexSlot o reduced ↔
      (indexSlot o reduced).OnlyPositions := by
  have hdims : (indexSlot o reduced).reshaped reduced.toOption.join = indexSlot o reduced :=
    ValueType.reshaped_reshaped _
  by_cases hkind : (indexSlot o reduced).kind = .notSet ∨ (indexSlot o reduced).kind = .tensor
  · have htensor := hkind.resolve_left kind_indexSlot_ne_notSet
    rw [indexSlot_of_tensor hkind, hdims, ValueType.withElem_eq_self_iff htensor]
    exact ⟨fun hdtype _ => hdtype, fun honly => honly htensor⟩
  · rw [indexSlot_of_other hkind, hdims]
    exact iff_of_true rfl fun htensor => absurd (.inr htensor) hkind

end

/-! ## When one run is enough -/

namespace InferenceContext

/-- The first slot holds something that is neither open nor a tensor, and has another element type
than positions. -/
def HoldsOther (c : InferenceContext) : Prop :=
  ∃ o, c.output? 0 = some o ∧ o.kind ≠ .notSet ∧ o.kind ≠ .tensor ∧ o.dtype ≠ .int64

/-- An index reduction gets to the reduced shape: the first input is a tensor of known dimensions,
and the attributes name an axis of it. -/
def HasIndexShape (c : InferenceContext) : Prop :=
  ∃ t dims axis keepDims, c.input? 0 = some t ∧ t.kind = .tensor ∧ t.dims? = some dims ∧
    c.intOr "axis" 0 = .ok axis ∧ c.intOr "keepdims" 1 = .ok keepDims ∧
      IsAxis dims.length axis.toInt

/-- An index reduction that does not fail leaves no tensor of anything but positions in the first
slot. -/
def YieldsPositions (c : InferenceContext) : Prop :=
  (inferArgReduce c).failure = none →
    ∀ t, entryAt (inferArgReduce c).slots 0 = some t → t.OnlyPositions

variable {c : InferenceContext} {o : ValueType}

theorem exists_reduce_index_iff (c : InferenceContext) (operand : Shape) :
    (∃ s, Family.index.reduce c.attributes operand = .ok s) ↔
      ∃ axis keepDims, c.intOr "axis" 0 = .ok axis ∧ c.intOr "keepdims" 1 = .ok keepDims ∧
        IsAxis operand.rank axis.toInt := by
  have hshape (axis : Int) (keepDims : Int64) :
      (∃ s, argReduceShape operand axis keepDims = .ok s) ↔ IsAxis operand.rank axis := by
    simp [argReduceShape_eq_ok_iff]
  have hread (name : String) (default : Int64) :
      intOr ⟨c.attributes, [], []⟩ name default = c.intOr name default := rfl
  simp only [Family.reduce, hread, bind_eq_ok_iff]
  constructor
  · rintro ⟨s, axis, haxis, keepDims, hkeep, hs⟩
    exact ⟨axis, keepDims, haxis, hkeep, (hshape _ _).mp ⟨s, hs⟩⟩
  · rintro ⟨axis, keepDims, haxis, hkeep, hisAxis⟩
    obtain ⟨s, hs⟩ := (hshape _ keepDims).mpr hisAxis
    exact ⟨s, axis, haxis, keepDims, hkeep, hs⟩

theorem hasIndexShape_iff : c.HasIndexShape ↔ ∃ s, Family.index.reduced? c = .ok (some s) := by
  simp only [Family.reduced?_eq_ok_some_iff]
  constructor
  · rintro ⟨t, dims, axis, keepDims, hinput, hkind, hdims, haxis, hkeep, hisAxis⟩
    have hshape : t.shape? = some ⟨t.dtype, dims⟩ :=
      ValueType.shape?_eq_some_iff.mpr ⟨hkind, hdims, rfl⟩
    obtain ⟨s, hs⟩ := (exists_reduce_index_iff c ⟨t.dtype, dims⟩).mpr
      ⟨axis, keepDims, haxis, hkeep, hisAxis⟩
    exact ⟨s, t, _, hinput, hshape, hs⟩
  · rintro ⟨s, t, operand, hinput, hshape, hs⟩
    obtain ⟨hkind, hdims, -⟩ := ValueType.shape?_eq_some_iff.mp hshape
    obtain ⟨axis, keepDims, haxis, hkeep, hisAxis⟩ := (exists_reduce_index_iff c operand).mp ⟨s, hs⟩
    exact ⟨t, operand.dims, axis, keepDims, hinput, hkind, hdims, haxis, hkeep, hisAxis⟩

theorem onlyPositions_iff_of_output? (h : c.output? 0 = some o) :
    (indexSlot o (Family.index.reduced? c)).OnlyPositions ↔
      ¬ (c.HoldsOther ∧ c.HasIndexShape) := by
  rw [onlyPositions_indexSlot_iff, hasIndexShape_iff, HoldsOther]
  simp [h]

theorem yieldsPositions_iff_of_output? (h : c.output? 0 = some o) :
    c.YieldsPositions ↔ (indexSlot o (Family.index.reduced? c)).OnlyPositions := by
  have hslot (t : ValueType) : entryAt (c.setOutput 0 t).outputs 0 = some t :=
    output?_setOutput h t
  rw [YieldsPositions, inferArgReduce_of_output? h]
  cases hreduced : Family.index.reduced? c with
  | ok s => simp [violation?, hslot]
  | error v =>
    -- a failure promises nothing, but the element type was set before it
    refine iff_of_true nofun (onlyPositions_indexSlot_iff.mpr ?_)
    simp

theorem rerunsAlike_iff_of_output? (h : c.output? 0 = some o) :
    c.RerunsAlike inferArgReduce ↔ (indexSlot o (Family.index.reduced? c)).OnlyPositions := by
  rw [RerunsAlike, inferArgReduce_rerun h, inferArgReduce_of_output? h, ← indexSlot_indexSlot_iff]
  refine ⟨fun heq => ?_, fun heq => by rw [heq]⟩
  have hslots := congrArg (entryAt ·.slots 0) heq
  exact Option.some.inj (((output?_setOutput h _).symm.trans hslots).trans (output?_setOutput h _))

/-- **An index reduction yields positions, and runs twice as it runs once**, exactly if it does not
find a type of another kind and element type in its slot where it knows the reduced shape. -/
theorem index_settled_iff (c : InferenceContext) :
    (c.YieldsPositions ↔ ¬ (c.HoldsOther ∧ c.HasIndexShape)) ∧
      (c.RerunsAlike inferArgReduce ↔ ¬ (c.HoldsOther ∧ c.HasIndexShape)) := by
  cases h : c.output? 0 with
  | some o =>
    rw [yieldsPositions_iff_of_output? h, rerunsAlike_iff_of_output? h,
      onlyPositions_iff_of_output? h]
    exact ⟨.rfl, .rfl⟩
  | none =>
    obtain ⟨v, hv⟩ := inferArgReduce_of_output?_none h
    have hother : ¬ (c.HoldsOther ∧ c.HasIndexShape) := by simp [HoldsOther, h]
    refine ⟨iff_of_true ?_ hother, iff_of_true ?_ hother⟩
    · rw [YieldsPositions, hv]
      exact nofun
    · simp only [RerunsAlike, hv]

/-- A sequence of floats in the slot, over a matrix: the first run makes a tensor of floats of it,
and the second a tensor of positions. -/
theorem index_not_settled_sequence :
    let c : InferenceContext :=
      ⟨[], [some ⟨.tensor, .float32, some [.static 2, .static 3]⟩],
        [some ⟨.sequence, .float32, none⟩]⟩
    ¬ c.YieldsPositions ∧ ¬ c.RerunsAlike inferArgReduce := by
  intro c
  have hfirst : inferArgReduce c
      = ⟨[some ⟨.tensor, .float32, some [.static 1, .static 3]⟩], none⟩ := by rfl
  have hsecond : inferArgReduce { c with outputs := (inferArgReduce c).slots }
      = ⟨[some ⟨.tensor, .int64, some [.static 1, .static 3]⟩], none⟩ := by rfl
  constructor
  · intro h
    have hdtype := h (by rw [hfirst]) _ (by rw [hfirst]; rfl) rfl
    exact absurd hdtype (by decide)
  · intro h
    rw [RerunsAlike, hsecond, hfirst] at h
    simp at h

end InferenceContext

end TensorGraph
