import TensorGraph.Proofs.Reduction.Contract

/-!
# Proofs/Reduction/Dims — a reduction never looks into a dimension

    dims              d₀  d₁  d₂  d₃
    reduced           ·   ×   ·   ×
    keep / drop       d₀  1   d₂  1   /   d₀  d₂

Which positions a reduction takes depends on its attributes and on the rank alone
(`Family.exists_mask`); the dimensions there become ones or go, and all others are copied.  So
reductions of related dimensions are related, for any relation that holds between ones
(`reduceDims_rel`).
-/

namespace TensorGraph

section

variable {D : Dim → Dim → Prop}

theorem reducedDim_rel (hone : D (.static 1) (.static 1)) (reduced keep : Bool) {d d' : Dim}
    (h : D d d') : List.Forall₂ D (reducedDim reduced keep d) (reducedDim reduced keep d') := by
  cases reduced with
  | false => exact .cons h .nil
  | true =>
    cases keep with
    | false => exact .nil
    | true => exact .cons hone .nil

theorem reduceDimsFrom_rel (hone : D (.static 1) (.static 1)) (reduced : Nat → Bool) (keep : Bool)
    {ds ds' : List Dim} (h : List.Forall₂ D ds ds') (position : Nat) :
    List.Forall₂ D (reduceDimsFrom reduced keep position ds)
      (reduceDimsFrom reduced keep position ds') := by
  induction h generalizing position with
  | nil => exact .nil
  | cons hd _ ih => exact List.rel_append (reducedDim_rel hone _ _ hd) (ih (position + 1))

/-- **Related dimensions reduce to related dimensions.** -/
theorem reduceDims_rel (hone : D (.static 1) (.static 1)) (reduced : Nat → Bool) (keep : Bool)
    {ds ds' : List Dim} (h : List.Forall₂ D ds ds') :
    List.Forall₂ D (reduceDims reduced keep ds) (reduceDims reduced keep ds') :=
  reduceDimsFrom_rel hone reduced keep h 0

end

/-! ## Axes are found by rank -/

theorem axisPositionsFrom_of_rank {operand operand' : Shape}
    (hrank : operand'.rank = operand.rank) :
    ∀ {axes : List Int} {place : Nat} {positions : List Nat},
      axisPositionsFrom operand place axes = .ok positions →
        axisPositionsFrom operand' place axes = .ok positions
  | [], _, _, h => h
  | axis :: axes, place, positions, h => by
    rw [axisPositionsFrom] at h ⊢
    rw [hrank]
    cases hp : axisPosition? axis operand.rank with
    | none => rw [hp] at h; cases h
    | some p =>
      rw [hp] at h
      obtain ⟨ps, hps, hpure⟩ := bind_eq_ok_iff.mp h
      exact bind_eq_ok_iff.mpr ⟨ps, axisPositionsFrom_of_rank hrank hps, hpure⟩

/-- What a reduction does to the dimensions of any operand of one rank. -/
def Reduces (reduce : Shape → Except Violation Shape) (rank : Nat) (reduced : Nat → Bool)
    (keep : Bool) : Prop :=
  ∀ operand : Shape, operand.rank = rank →
    ∃ s, reduce operand = .ok s ∧ s.dims = reduceDims reduced keep operand.dims

/-- A setting that is read first does not change what a reduction does. -/
theorem Reduces.bind {α : Type} {x : Except Violation α} {a : α}
    {reduce : α → Shape → Except Violation Shape} {rank : Nat} {reduced : Nat → Bool} {keep : Bool}
    (hx : x = .ok a) (h : Reduces (reduce a) rank reduced keep) :
    Reduces (fun operand => x >>= fun b => reduce b operand) rank reduced keep := by
  intro operand hrank
  obtain ⟨s, hs, hdims⟩ := h operand hrank
  exact ⟨s, bind_eq_ok_iff.mpr ⟨a, hx, hs⟩, hdims⟩

theorem exists_mask_reduceShape {operand s : Shape} {axes : List Int} {keepDims : Int64}
    (h : reduceShape operand axes keepDims = .ok s) :
    ∃ reduced keep, Reduces (reduceShape · axes keepDims) operand.rank reduced keep := by
  obtain ⟨positions, hpositions, -⟩ := bind_eq_ok_iff.mp h
  refine ⟨fun p => axes.isEmpty || (KeySet.ofList positions).contains p, keepDims == 1,
    fun operand' hrank => ⟨_, bind_eq_ok_iff.mpr ⟨positions, ?_, rfl⟩, rfl⟩⟩
  exact axisPositionsFrom_of_rank hrank hpositions

theorem exists_mask_argReduceShape {operand s : Shape} {axis : Int} {keepDims : Int64}
    (h : argReduceShape operand axis keepDims = .ok s) :
    ∃ reduced keep, Reduces (argReduceShape · axis keepDims) operand.rank reduced keep := by
  rw [argReduceShape] at h
  cases hp : axisPosition? axis operand.rank with
  | none => rw [hp] at h; cases h
  | some p =>
    refine ⟨(· == p), keepDims == 1, fun operand' hrank => ?_⟩
    simp only [argReduceShape, hrank, hp]
    exact ⟨_, rfl, rfl⟩

/-- **A reduction that goes through for one operand goes through for every operand of its rank**,
and does the same to the dimensions of all of them. -/
theorem Family.exists_mask {F : Family} {attributes : List Attribute} {operand s : Shape}
    (h : F.reduce attributes operand = .ok s) :
    ∃ reduced keep, Reduces (F.reduce attributes) operand.rank reduced keep := by
  cases F with
  | axes =>
    obtain ⟨keepDims, hkeep, h⟩ := bind_eq_ok_iff.mp h
    obtain ⟨axes, haxes, h⟩ := bind_eq_ok_iff.mp h
    obtain ⟨reduced, keep, hreduces⟩ := exists_mask_reduceShape h
    exact ⟨reduced, keep, .bind hkeep (.bind haxes hreduces)⟩
  | index =>
    obtain ⟨axis, haxis, h⟩ := bind_eq_ok_iff.mp h
    obtain ⟨keepDims, hkeep, h⟩ := bind_eq_ok_iff.mp h
    obtain ⟨reduced, keep, hreduces⟩ := exists_mask_argReduceShape h
    exact ⟨reduced, keep, .bind haxis (.bind hkeep hreduces)⟩

/-- **Reductions of operands with related dimensions go through together**, and give related
dimensions. -/
theorem Family.reduce_rel {D : Dim → Dim → Prop} (hone : D (.static 1) (.static 1)) {F : Family}
    {attributes : List Attribute} {operand operand' s : Shape}
    (hdims : List.Forall₂ D operand.dims operand'.dims)
    (h : F.reduce attributes operand = .ok s) :
    ∃ s', F.reduce attributes operand' = .ok s' ∧ List.Forall₂ D s.dims s'.dims := by
  obtain ⟨reduced, keep, hreduces⟩ := exists_mask h
  obtain ⟨s₁, hs₁, hs⟩ := hreduces operand rfl
  obtain rfl : s = s₁ := Except.ok.inj (h.symm.trans hs₁)
  obtain ⟨s', hs', hdims'⟩ := hreduces operand' hdims.length_eq.symm
  refine ⟨s', hs', ?_⟩
  rw [hs, hdims']
  exact reduceDims_rel hone reduced keep hdims

end TensorGraph
