import TensorGraph.Proofs.Reduction.Rerun

/-!
# Proofs/Reduction/Stable — a reduction over axes settles in one run

    slot                     axes     first run                  second run
    not set                  [1]      tensor(float)[2 1]         tensor(float)[2 1]
    tensor(double)[7]        [1]      tensor(float)[2 1]         tensor(float)[2 1]
    tensor(double)[7]        [5]      tensor(float)[7], fails    tensor(float)[7], fails
    sequence of doubles      [1]      as it was, fails           as it was, fails

The operand is a matrix of floats.  Its element type goes to the slot before the attributes are
read, so a failure may leave it there; the dimensions are written last, when nothing can fail any
more.  A run has nothing to reduce, or fails before it writes anything, or gets to its slot
(`InferenceContext.course`); there it writes what a second run writes again
(`InferenceContext.reduce_settled`).
-/

namespace TensorGraph

open InferenceContext

namespace ValueType

variable {o : ValueType} {dtype : DType}

/-! ## What is written to a slot -/

/-- A tensor may be put here: nothing is set, or it is a tensor. -/
def IsOpen (o : ValueType) : Prop := o.kind = .notSet ∨ o.kind = .tensor

/-- Takes over an element type, if it is known. -/
def takeElem (o : ValueType) (dtype : DType) : ValueType :=
  if dtype = .invalid then o else o.withElem dtype

theorem IsOpen.takeElem (h : o.IsOpen) (dtype : DType) : (o.takeElem dtype).IsOpen := by
  rw [ValueType.takeElem]
  split
  · exact h
  · exact .inr rfl

theorem IsOpen.reshaped (h : o.IsOpen) (s : Option Shape) : (o.reshaped s).IsOpen := by
  cases s with
  | none => exact h
  | some s => exact .inr rfl

theorem takeElem_dims : (o.takeElem dtype).dims? = o.dims? := by
  rw [takeElem]
  split <;> rfl

theorem takeElem_of_ne (h : dtype ≠ .invalid) : o.takeElem dtype = o.withElem dtype := if_neg h

theorem takeElem_takeElem : (o.takeElem dtype).takeElem dtype = o.takeElem dtype := by
  by_cases h : dtype = .invalid <;> simp [takeElem, h, withElem]

theorem reshaped_takeElem (s : Option Shape) :
    (o.takeElem dtype).reshaped s = (o.reshaped s).takeElem dtype := by
  rw [takeElem, takeElem]
  split
  · rfl
  · exact reshaped_withElem s dtype

end ValueType

/-! ## What a run finds -/

namespace InferenceContext

/-- There is nothing to reduce: the input is missing or not set. -/
def Idles (c : InferenceContext) : Prop := ∀ t, c.input? 0 = some t → t.kind = .notSet

/-- There is a tensor to reduce, and a slot to put the result in. -/
structure Operates (c : InferenceContext) (t o : ValueType) : Prop where
  input : c.input? 0 = some t
  tensor : t.kind = .tensor
  output : c.output? 0 = some o
  isOpen : o.IsOpen

/-- What a run can come to: it has nothing to reduce, it fails before it writes anything, or it gets
to its slot. -/
inductive Course (c : InferenceContext) : Prop where
  | idle (h : c.Idles)
  | broken (v : Violation) (h : (copyElem 0 0).result c = .error v)
  | operates (t o : ValueType) (h : c.Operates t o)

/-- The attributes that a reduction reads have their types, and every axis that they name is one of
a tensor with `rank` dimensions. -/
def HasAxes (c : InferenceContext) (rank : Nat) : Prop :=
  ∃ keepDims axes, c.intOr "keepdims" 1 = .ok keepDims ∧ c.intsOrEmpty "axes" = .ok axes ∧
    ∀ a ∈ axes, IsAxis rank a.toInt

/-- The view that a function leaves behind. -/
def after (c : InferenceContext) (f : InferenceFn) : InferenceContext :=
  { c with outputs := (f c).slots }

/-- The view that the steps of a reduction leave, up to the first that fails. -/
def stepped (c : InferenceContext) : InferenceContext :=
  Action.left (do copyElem 0 0; inferReducedShape) c

/-- The dimensions in the first slot, as far as there are any. -/
def firstDims (c : InferenceContext) : Option (Option (List Dim)) :=
  (c.output? 0).map ValueType.dims?

/-- Two views of a node that differ in the first slot at most. -/
structure DiffersAtFirst (c c' : InferenceContext) : Prop where
  attributes : c'.attributes = c.attributes
  inputs : c'.inputs = c.inputs
  length : c'.outputs.length = c.outputs.length
  others : ∀ i ≠ 0, c'.outputs[i]? = c.outputs[i]?

variable {c : InferenceContext} {t o : ValueType}

theorem Operates.of_setOutput (h : c.Operates t o) {u : ValueType} (hu : u.IsOpen) :
    (c.setOutput 0 u).Operates t u where
  input := by rw [← setOutput_eq]; exact h.input
  tensor := h.tensor
  output := output?_setOutput h.output u
  isOpen := hu

theorem Operates.operand? (h : c.Operates t o) : c.operand? = t.dims?.map (Shape.mk t.dtype) := by
  rw [InferenceContext.operand?, h.input, Option.bind_some, ValueType.shape?, ValueType.isTensor,
    h.tensor]
  rfl

theorem Idles.operand? (h : c.Idles) : c.operand? = none := by
  rw [InferenceContext.operand?]
  cases hinput : c.input? 0 with
  | none => rfl
  | some t => simp [ValueType.shape?, ValueType.isTensor, h t hinput]

theorem DiffersAtFirst.refl (c : InferenceContext) : c.DiffersAtFirst c :=
  ⟨rfl, rfl, rfl, fun _ _ => rfl⟩

theorem DiffersAtFirst.setOutput (c : InferenceContext) (u : ValueType) :
    c.DiffersAtFirst (c.setOutput 0 u) := by
  rw [InferenceContext.setOutput]
  split
  · refine ⟨rfl, rfl, List.length_set, fun i hi => ?_⟩
    exact List.getElem?_set_ne (by simpa using hi.symm)
  · exact .refl c

end InferenceContext

/-! ## The element type step -/

section

variable {c : InferenceContext} {t o : ValueType}

theorem copyElem_of_idles (h : c.Idles) : (copyElem 0 0).result c = .ok c := by
  rw [result_copyElem]
  split
  · rfl
  · cases hinput : c.input? 0 with
    | none => rfl
    | some t => exact if_pos (h t hinput)

/-- With an input that is set, the step tests the kinds of the input and of the slot. -/
theorem copyElem_of_input? (hinput : c.input? 0 = some t) (ht : t.kind ≠ .notSet) :
    (copyElem 0 0).result c
      = if t.kind = .tensor then do
          let o ← c.slot 0
          if o.kind ≠ .notSet ∧ o.kind ≠ .tensor then throw (.outputNotTensor 0 o.text)
          else if t.dtype = .invalid then return c
          else return c.setOutput 0 (o.withElem t.dtype)
        else .error (.inputNotTensor 0 t.text) := by
  have hlength : ¬ (c.inputs.length : Int) ≤ 0 := by
    intro hle
    have hnil : c.inputs = [] := List.length_eq_zero_iff.mp (by omega)
    rw [input?, hnil] at hinput
    cases hinput
  simp only [result_copyElem, if_neg hlength, hinput, if_neg ht, ValueType.isTensor]
  by_cases htensor : t.kind = .tensor <;> simp [htensor]

theorem copyElem_of_operates (h : c.Operates t o) :
    (copyElem 0 0).result c = .ok (c.setOutput 0 (o.takeElem t.dtype)) := by
  have hset : t.kind ≠ .notSet := by simp [h.tensor]
  have hkind : ¬ (o.kind ≠ .notSet ∧ o.kind ≠ .tensor) := by
    rw [← not_or, not_not]
    exact h.isOpen
  rw [copyElem_of_input? h.input hset, if_pos h.tensor, slot_of_output? h.output, ok_bind,
    if_neg hkind, ValueType.takeElem]
  split
  · rw [setOutput_self h.output]
    rfl
  · rfl

/-- **A run takes one of three courses.** -/
theorem InferenceContext.course (c : InferenceContext) : c.Course := by
  by_cases hidles : c.Idles
  · exact .idle hidles
  obtain ⟨t, hinput, hset⟩ : ∃ t, c.input? 0 = some t ∧ t.kind ≠ .notSet := by
    simpa [Idles] using hidles
  have hstep := copyElem_of_input? hinput hset
  by_cases htensor : t.kind = .tensor
  · rw [if_pos htensor] at hstep
    cases houtput : c.output? 0 with
    | none =>
      obtain ⟨v, hv⟩ := exists_slot_eq_error houtput
      exact .broken v (by rw [hstep, hv]; rfl)
    | some o =>
      rw [slot_of_output? houtput, ok_bind] at hstep
      by_cases hopen : o.IsOpen
      · exact .operates t o ⟨hinput, htensor, houtput, hopen⟩
      · exact .broken _ (hstep.trans (if_pos (not_or.mp hopen)))
  · exact .broken _ (hstep.trans (if_neg htensor))

/-! ## A reduction in closed form -/

/-- The first slot after a reduction of `t`, which found the reduced shape or met a violation on
the way. -/
def reducedSlot (t o : ValueType) (reduced : Except Violation (Option Shape)) : ValueType :=
  (o.takeElem t.dtype).reshaped reduced.toOption.join

theorem isOpen_reducedSlot (ho : o.IsOpen) (t : ValueType)
    (reduced : Except Violation (Option Shape)) : (reducedSlot t o reduced).IsOpen :=
  (ho.takeElem t.dtype).reshaped _

/-- Element type and dimensions that are there already are written without effect. -/
theorem reducedSlot_reducedSlot (reduced : Except Violation (Option Shape)) :
    reducedSlot t (reducedSlot t o reduced) reduced = reducedSlot t o reduced := by
  rw [reducedSlot, reducedSlot, ← ValueType.reshaped_takeElem, ValueType.takeElem_takeElem,
    ValueType.reshaped_reshaped]

theorem inferReducedShape_of_idles (h : c.Idles) : inferReducedShape.result c = .ok c := by
  change Family.axes.inferShape.result c = _
  rw [Family.inferShape_eq, h.operand?]

theorem inferReduce_of_idles (h : c.Idles) : inferReduce c = ⟨c.outputs, none⟩ := by
  have helem : Family.axes.inferElem.result c = .ok c := copyElem_of_idles h
  have hshape : Family.axes.inferShape.result c = .ok c := inferReducedShape_of_idles h
  refine (Family.axes.infer_apply c).trans ?_
  simp only [helem, hshape, Outcome.ofResult, Outcome.ok]

/-- **One run** that gets to its slot. -/
theorem inferReduce_of_operates (h : c.Operates t o) :
    inferReduce c = ⟨(c.setOutput 0 (reducedSlot t o (Family.axes.reduced? c))).outputs,
      violation? (Family.axes.reduced? c)⟩ :=
  Family.axes.infer_of_inferElem h.output (copyElem_of_operates h)

theorem inferReduce_of_broken {v : Violation} (h : (copyElem 0 0).result c = .error v) :
    inferReduce c = ⟨c.outputs, some (.violation v)⟩ := by
  have helem : Family.axes.inferElem.result c = .error v := h
  exact (Family.axes.infer_apply c).trans (by rw [helem])

theorem violation?_eq_none_iff {reduced : Except Violation (Option Shape)} :
    violation? reduced = none ↔ ∃ s, reduced = .ok s := by
  cases reduced <;> simp [violation?]

end

/-! ## The reduced shape -/

namespace InferenceContext

variable {c : InferenceContext} {t o : ValueType}

theorem reduce_axes_iff {operand s : Shape} :
    Family.axes.reduce c.attributes operand = .ok s ↔
      ∃ keepDims axes, c.intOr "keepdims" 1 = .ok keepDims ∧ c.intsOrEmpty "axes" = .ok axes ∧
        reduceShape operand (axes.map Int64.toInt) keepDims = .ok s := by
  have hint : intOr ⟨c.attributes, [], []⟩ = c.intOr := rfl
  have hints : intsOrEmpty ⟨c.attributes, [], []⟩ = c.intsOrEmpty := rfl
  simp only [Family.reduce, hint, hints, bind_eq_ok_iff, exists_and_left]

theorem exists_reduce_axes_iff (dtype : DType) (dims : List Dim) :
    (∃ s, Family.axes.reduce c.attributes ⟨dtype, dims⟩ = .ok s) ↔ c.HasAxes dims.length := by
  simp only [reduce_axes_iff, reduceShape_eq_ok_iff, List.forall_mem_map, HasAxes]
  constructor
  · rintro ⟨s, keepDims, axes, hkeep, haxes, hall, -⟩
    exact ⟨keepDims, axes, hkeep, haxes, hall⟩
  · rintro ⟨keepDims, axes, hkeep, haxes, hall⟩
    exact ⟨_, keepDims, axes, hkeep, haxes, hall, rfl⟩

theorem Operates.reduced?_of_dims {dims : List Dim} (h : c.Operates t o)
    (hdims : t.dims? = some dims) :
    Family.axes.reduced? c = some <$> Family.axes.reduce c.attributes ⟨t.dtype, dims⟩ := by
  rw [Family.reduced?, h.operand?, hdims, Option.map_some]

theorem Operates.exists_reduced?_iff (h : c.Operates t o) :
    (∃ s, Family.axes.reduced? c = .ok s) ↔
      ∀ dims, t.dims? = some dims → c.HasAxes dims.length := by
  cases hdims : t.dims? with
  | none =>
    refine iff_of_true ⟨none, ?_⟩ nofun
    rw [Family.reduced?, h.operand?, hdims, Option.map_none]
  | some dims =>
    rw [h.reduced?_of_dims hdims]
    simp only [Option.some.injEq, forall_eq', ← exists_reduce_axes_iff t.dtype]
    cases Family.axes.reduce c.attributes ⟨t.dtype, dims⟩ <;> simp [Functor.map, Except.map]

/-! ## One run is enough -/

theorem after_of_idles (h : c.Idles) : c.after inferReduce = c := by
  rw [after, inferReduce_of_idles h]

theorem after_of_broken {v : Violation} (h : (copyElem 0 0).result c = .error v) :
    c.after inferReduce = c := by
  rw [after, inferReduce_of_broken h]

theorem after_of_operates (h : c.Operates t o) :
    c.after inferReduce = c.setOutput 0 (reducedSlot t o (Family.axes.reduced? c)) := by
  rw [after, inferReduce_of_operates h, setOutput_eq]

/-- **The steps leave what the run leaves**: none of them touches an input or an attribute. -/
theorem stepped_eq_after (c : InferenceContext) : c.stepped = c.after inferReduce := by
  have hstepped {c' : InferenceContext} (h : (copyElem 0 0).result c = .ok c') :
      c.stepped = inferReducedShape.left c' := Action.left_bind_of_result h _
  cases c.course with
  | idle h =>
    rw [after_of_idles h, hstepped (copyElem_of_idles h)]
    exact Action.left_of_result (inferReducedShape_of_idles h)
  | broken v h =>
    rw [after_of_broken h, stepped, Action.left_bind_of_error h]
    exact (isAtomic_copyElem 0 0).left_of_error h
  | operates t o h =>
    have hshape : inferReducedShape.result (c.setOutput 0 (o.takeElem t.dtype))
        = (fun s => c.setOutput 0 ((o.takeElem t.dtype).reshaped s)) <$> Family.axes.reduced? c :=
      Family.axes.inferShape_setOutput h.output _
    rw [after_of_operates h, hstepped (copyElem_of_operates h)]
    cases hreduced : Family.axes.reduced? c with
    | ok s =>
      rw [hreduced] at hshape
      exact Action.left_of_result hshape
    | error v =>
      rw [hreduced] at hshape
      exact Family.axes.isAtomic_inferShape.left_of_error hshape

/-- Nothing but the first slot is written. -/
theorem differsAtFirst_after_inferReduce (c : InferenceContext) :
    c.DiffersAtFirst (c.after inferReduce) := by
  cases c.course with
  | idle h =>
    rw [after_of_idles h]
    exact .refl c
  | broken v h =>
    rw [after_of_broken h]
    exact .refl c
  | operates t o h =>
    rw [after_of_operates h]
    exact .setOutput c _

/-- A run fails unless there is nothing to reduce, or all that it reads is as it has to be. -/
theorem failure_inferReduce_eq_none_iff :
    (inferReduce c).failure = none ↔
      c.Idles ∨ ∃ t o, c.Operates t o ∧ ∀ dims, t.dims? = some dims → c.HasAxes dims.length := by
  cases c.course with
  | idle h => simp [inferReduce_of_idles h, h]
  | broken v h =>
    rw [inferReduce_of_broken h]
    refine iff_of_false nofun ?_
    rintro (hidles | ⟨t, o, hoperates, -⟩)
    · simp [copyElem_of_idles hidles] at h
    · simp [copyElem_of_operates hoperates] at h
  | operates t o h =>
    have hidles : ¬ c.Idles := fun hidles => by simpa [h.tensor] using hidles t h.input
    rw [inferReduce_of_operates h, violation?_eq_none_iff, h.exists_reduced?_iff,
      or_iff_right hidles]
    constructor
    · exact fun haxes => ⟨t, o, h, haxes⟩
    · rintro ⟨t', o', h', haxes⟩
      obtain rfl := Option.some.inj (h.input.symm.trans h'.input)
      exact haxes

/-- A failure is a violation, and leaves the dimensions of the first slot. -/
theorem firstDims_of_failure {e : InferenceFailure} (he : (inferReduce c).failure = some e) :
    e.isViolation = true ∧ (c.after inferReduce).firstDims = c.firstDims := by
  cases c.course with
  | idle h =>
    rw [inferReduce_of_idles h] at he
    cases he
  | broken v h =>
    rw [inferReduce_of_broken h] at he
    cases he
    exact ⟨rfl, by rw [after_of_broken h]⟩
  | operates t o h =>
    rw [inferReduce_of_operates h] at he
    rw [after_of_operates h, firstDims, firstDims, output?_setOutput h.output, h.output]
    cases hreduced : Family.axes.reduced? c with
    | ok s =>
      rw [hreduced] at he
      cases he
    | error v =>
      rw [hreduced] at he
      cases he
      -- the reduced shape was not found, so only the element type is new
      exact ⟨rfl, congrArg some ValueType.takeElem_dims⟩

/-- A second run ends as the first. -/
theorem rerunsAlike_inferReduce (c : InferenceContext) : c.RerunsAlike inferReduce := by
  change inferReduce (c.after inferReduce) = inferReduce c
  cases c.course with
  | idle h => rw [after_of_idles h]
  | broken v h => rw [after_of_broken h]
  | operates t o h =>
    have hagain := h.of_setOutput (isOpen_reducedSlot h.isOpen t (Family.axes.reduced? c))
    rw [after_of_operates h, inferReduce_of_operates hagain, inferReduce_of_operates h,
      setOutput_setOutput h.output, Family.reduced?_setOutput, reducedSlot_reducedSlot]

/-- A run that does not fail leaves the dimensions of the reduced shape, if there is one. -/
theorem exists_reducedSlot (hok : (inferReduce c).failure = none) {dims : List Dim}
    (hinput : c.input? 0 = some t) (htensor : t.kind = .tensor) (hdims : t.dims? = some dims) :
    ∃ (s : Shape) (o : ValueType), Family.axes.reduce c.attributes ⟨t.dtype, dims⟩ = .ok s ∧
      (c.after inferReduce).output? 0 = some ((o.takeElem t.dtype).withDims s.dims) := by
  rcases failure_inferReduce_eq_none_iff.mp hok with hidles | ⟨t', o, h, haxes⟩
  · rw [hidles t hinput] at htensor
    cases htensor
  · obtain rfl := Option.some.inj (hinput.symm.trans h.input)
    obtain ⟨s, hs⟩ := (exists_reduce_axes_iff t.dtype dims).mpr (haxes dims hdims)
    refine ⟨s, o, hs, ?_⟩
    rw [after_of_operates h, output?_setOutput h.output, h.reduced?_of_dims hdims, hs]
    rfl

/-- **A reduction over axes settles in one run**, whatever is in the slots.  Its steps write to the
first slot only, and it fails unless there is nothing to reduce or all that it reads is as it has to
be.  A failure is a violation and leaves the dimensions in the slot; a second run ends as the first;
and a run that does not fail on a tensor of known dimensions leaves a tensor of the reduced ones. -/
theorem reduce_settled (c : InferenceContext) :
    c.stepped = c.after inferReduce ∧ c.DiffersAtFirst (c.after inferReduce) ∧
    ((inferReduce c).failure = none ↔
      c.Idles ∨ ∃ t o, c.Operates t o ∧ ∀ dims, t.dims? = some dims → c.HasAxes dims.length) ∧
    (∀ e, (inferReduce c).failure = some e →
      e.isViolation = true ∧ (c.after inferReduce).firstDims = c.firstDims) ∧
    c.RerunsAlike inferReduce ∧
    ((inferReduce c).failure = none → ∀ t dims,
      c.input? 0 = some t → t.kind = .tensor → t.dims? = some dims →
        ∃ keepDims axes s o, c.intOr "keepdims" 1 = .ok keepDims ∧
          c.intsOrEmpty "axes" = .ok axes ∧
          reduceShape ⟨t.dtype, dims⟩ (axes.map Int64.toInt) keepDims = .ok s ∧
          (c.after inferReduce).output? 0 = some o ∧ o.kind = .tensor ∧ o.dims? = some s.dims ∧
          (t.dtype ≠ .invalid → o.shape = s)) := by
  refine ⟨stepped_eq_after c, differsAtFirst_after_inferReduce c, failure_inferReduce_eq_none_iff,
    fun e => firstDims_of_failure, rerunsAlike_inferReduce c, ?_⟩
  intro hok t dims hinput htensor hdims
  obtain ⟨s, o, hs, houtput⟩ := exists_reducedSlot hok hinput htensor hdims
  obtain ⟨keepDims, axes, hkeep, haxes, hreduce⟩ := reduce_axes_iff.mp hs
  refine ⟨keepDims, axes, s, _, hkeep, haxes, hreduce, houtput, rfl, rfl, fun hdtype => ?_⟩
  rw [ValueType.takeElem_of_ne hdtype, (reduceShape_eq_ok_iff.mp hreduce).2]
  rfl

/-- An axis that a matrix lacks, with dimensions in the slot: the element type is taken over, the
dimensions stay, and the failure comes again. -/
theorem reduce_settled_lacking :
    let c : InferenceContext :=
      ⟨[⟨"axes", .ints [5]⟩], [some ⟨.tensor, .float32, some [.static 2, .static 3]⟩],
        [some ⟨.tensor, .float64, some [.static 7]⟩]⟩
    ∃ e, (inferReduce c).failure = some e ∧ e.isViolation = true ∧
      (c.after inferReduce).outputs = [some ⟨.tensor, .float32, some [.static 7]⟩] ∧
      (c.after inferReduce).firstDims = c.firstDims ∧ c.RerunsAlike inferReduce := by
  intro c
  obtain ⟨-, -, -, hfail, hrerun, -⟩ := reduce_settled c
  have he : (inferReduce c).failure
      = some (.violation (.axisOfList 0 5 ⟨.float32, [.static 2, .static 3]⟩)) := by rfl
  obtain ⟨hviolation, hdims⟩ := hfail _ he
  exact ⟨_, he, hviolation, rfl, hdims, hrerun⟩

end InferenceContext

end TensorGraph
