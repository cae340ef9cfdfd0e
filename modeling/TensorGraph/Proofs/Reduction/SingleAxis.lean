import TensorGraph.Proofs.Reduction.Axes

/-!
# Proofs/Reduction/SingleAxis — an index reduction is a reduction over one axis

    dims                     d₀  d₁  d₂  d₃
    axis -3                  ·   ×   ·   ·        is the position 1?
    axes [-3]                ·   ×   ·   ·        is the position in {1}?
    kept                     d₀  1   d₂  d₃
    dropped                  d₀      d₂  d₃

The index form of a reduction compares every position with the one that its axis means; the list
form looks positions up in a set.  For one axis the set has one position, so both forms go through
for the same axes and leave the same dimensions: those of the operand, with one overwritten or
erased (`argReduceShape_iff_reduceShape`).  Only the element types differ.
-/

namespace TensorGraph

/-! ## One position of a walk -/

/-- Dimensions that are not picked are copied. -/
theorem reduceDimsFrom_of_forall_not {reduced : Nat → Bool} {keep : Bool} :
    ∀ {position : Nat} {dims : List Dim}, (∀ i, position ≤ i → reduced i = false) →
      reduceDimsFrom reduced keep position dims = dims
  | _, [], _ => rfl
  | position, d :: ds, h => by
    rw [reduceDimsFrom, h position (Nat.le_refl _),
      reduceDimsFrom_of_forall_not fun i hi => h i (Nat.le_of_succ_le hi)]
    rfl

/-- **A walk that picks one position** overwrites or erases the dimension there. -/
theorem reduceDimsFrom_beq (keep : Bool) (dims : List Dim) (position p : Nat) :
    reduceDimsFrom (· == position + p) keep position dims
      = if keep then dims.set p (.static 1) else dims.eraseIdx p := by
  induction dims generalizing position p with
  | nil => cases keep <;> rfl
  | cons d ds ih =>
    rw [reduceDimsFrom]
    cases p with
    | zero =>
      rw [reduceDimsFrom_of_forall_not fun i hi => beq_false_of_ne (by omega)]
      cases keep <;> simp [reducedDim]
    | succ p =>
      have hhead : (position == position + (p + 1)) = false := beq_false_of_ne (by omega)
      rw [hhead, ← Nat.add_assoc, Nat.add_right_comm, ih]
      cases keep <;> rfl

theorem reduceDims_beq (keep : Bool) (dims : List Dim) (p : Nat) :
    reduceDims (· == p) keep dims
      = if keep then dims.set p (.static 1) else dims.eraseIdx p := by
  simpa [reduceDims] using reduceDimsFrom_beq keep dims 0 p

/-! ## One axis -/

section

variable {operand s : Shape} {axis : Int} {keepDims : Int64}

/-- The dimensions of an operand, with a one at the position that an axis means, or without that
position. -/
def singleAxisDims (operand : Shape) (axis : Int) (keep : Bool) : List Dim :=
  let p := (axisIndex operand.rank axis).toNat
  if keep then operand.dims.set p (.static 1) else operand.dims.eraseIdx p

/-- An axis that an operand has names one position. -/
theorem beq_axisIndex_iff_names (h : IsAxis operand.rank axis) {i : Nat} :
    (i == (axisIndex operand.rank axis).toNat) = true ↔ Names [axis] operand.rank i := by
  have hnonneg := h.axisIndex_nonneg
  simp only [beq_iff_eq, Names, List.cons_ne_nil, List.mem_singleton, exists_eq_left, false_or]
  omega

theorem argReduceShape_eq_ok_iff :
    argReduceShape operand axis keepDims = .ok s ↔
      IsAxis operand.rank axis ∧
        s = ⟨indexDType, singleAxisDims operand axis (keepDims == 1)⟩ := by
  rw [argReduceShape, singleAxisDims, ← reduceDims_beq]
  by_cases haxis : IsAxis operand.rank axis
  · simp [axisPosition?_of_isAxis haxis, haxis, eq_comm]
  · simp [axisPosition?_eq_none_iff.mpr haxis, haxis]

theorem reduceShape_singleton_eq_ok_iff :
    reduceShape operand [axis] keepDims = .ok s ↔
      IsAxis operand.rank axis ∧
        s = ⟨operand.dtype, singleAxisDims operand axis (keepDims == 1)⟩ := by
  rw [reduceShape_eq_ok_iff, List.forall_mem_singleton]
  refine and_congr_right fun haxis => ?_
  rw [singleAxisDims, ← reduceDims_beq,
    reduceDims_eq_reducedDims fun i => beq_axisIndex_iff_names haxis]

end

/-- **The two forms of a reduction agree on one axis.**  Both go through exactly if the operand has
the axis, leave the same dimensions, and differ in the element type alone: that of positions, or
that of the operand. -/
theorem argReduceShape_iff_reduceShape (operand : Shape) (axis : Int) (keepDims : Int64) :
    ((∃ t, argReduceShape operand axis keepDims = .ok t) ↔
        ∃ u, reduceShape operand [axis] keepDims = .ok u) ∧
    ((∃ u, reduceShape operand [axis] keepDims = .ok u) ↔ IsAxis operand.rank axis) ∧
    ∀ t u, argReduceShape operand axis keepDims = .ok t →
      reduceShape operand [axis] keepDims = .ok u →
        t.dims = u.dims ∧ t.dtype = .int64 ∧ u.dtype = operand.dtype ∧
          u.dims = singleAxisDims operand axis (keepDims == 1) := by
  have hindex : (∃ t, argReduceShape operand axis keepDims = .ok t) ↔
      IsAxis operand.rank axis := by
    simp [argReduceShape_eq_ok_iff]
  have hlist : (∃ u, reduceShape operand [axis] keepDims = .ok u) ↔
      IsAxis operand.rank axis := by
    simp [reduceShape_singleton_eq_ok_iff]
  refine ⟨hindex.trans hlist.symm, hlist, fun t u ht hu => ?_⟩
  obtain ⟨-, rfl⟩ := argReduceShape_eq_ok_iff.mp ht
  obtain ⟨-, rfl⟩ := reduceShape_singleton_eq_ok_iff.mp hu
  exact ⟨rfl, rfl, rfl, rfl⟩

example :
    let operand : Shape := ⟨.float32, [.symbolic "batch", .static 3, .unknown]⟩
    argReduceShape operand (-2) 0 = .ok ⟨.int64, [.symbolic "batch", .unknown]⟩ ∧
      reduceShape operand [-2] 0 = .ok ⟨.float32, [.symbolic "batch", .unknown]⟩ :=
  ⟨rfl, rfl⟩

end TensorGraph
