import TensorGraph.Inference.Reduce
import TensorGraph.Proofs.Graph.Node

/-!
# Proofs/Reduction/Axes — axes name positions, from the front or from the end

    position      0    1    2    3
    axis          0    1    2    3
    or           -4   -3   -2   -1

A list of axes is read one by one into positions, which are put into a set, and the dimensions are
walked with that set at hand.  `reduceShape_eq_ok_iff` says what comes of it without any of the
three: a reduction goes through exactly if the operand has every axis (`IsAxis`), and leaves the
dimensions in order, with those that an axis names (`Names`) reduced (`reducedDims`).
-/

namespace TensorGraph

/-! ## What axes mean -/

/-- A tensor with `rank` dimensions has the axis. -/
def IsAxis (rank : Nat) (axis : Int) : Prop := -(rank : Int) ≤ axis ∧ axis < rank

instance (rank : Nat) (axis : Int) : Decidable (IsAxis rank axis) :=
  inferInstanceAs (Decidable (_ ∧ _))

/-- The position that an axis means; a negative one counts from the end. -/
def axisIndex (rank : Nat) (axis : Int) : Int := if axis < 0 then axis + rank else axis

/-- Some axis of a list names the position; the empty list names every position. -/
def Names (axes : List Int) (rank position : Nat) : Prop :=
  axes = [] ∨ ∃ a ∈ axes, axisIndex rank a = position

instance (axes : List Int) (rank position : Nat) : Decidable (Names axes rank position) :=
  inferInstanceAs (Decidable (_ ∨ _))

/-- The dimensions in order, where those that an axis names are ones, or are gone. -/
def reducedDims (axes : List Int) (keep : Bool) (dims : List Dim) : List Dim :=
  dims.zipIdx.flatMap fun (d, i) =>
    if Names axes dims.length i then (if keep then [.static 1] else []) else [d]

/-! ## Positions -/

theorem IsAxis.axisIndex_nonneg {rank : Nat} {axis : Int} (h : IsAxis rank axis) :
    0 ≤ axisIndex rank axis := by
  obtain ⟨hlower, -⟩ := h
  rw [axisIndex]
  split <;> omega

theorem axisPosition?_eq_none_iff {rank : Nat} {axis : Int} :
    axisPosition? axis rank = none ↔ ¬ IsAxis rank axis := by
  rw [axisPosition?, adjustAxis, Option.map_eq_none_iff, IsAxis]
  split <;> simp <;> omega

theorem axisPosition?_of_isAxis {rank : Nat} {axis : Int} (h : IsAxis rank axis) :
    axisPosition? axis rank = some (axisIndex rank axis).toNat := by
  have hin : ¬ (axis < -(rank : Int) ∨ (rank : Int) ≤ axis) := by
    obtain ⟨hlower, hupper⟩ := h
    omega
  rw [axisPosition?, adjustAxis, if_neg hin]
  rfl

/-- **A list of axes is read exactly if the operand has them all.** -/
theorem axisPositionsFrom_eq_ok_iff {operand : Shape} :
    ∀ {axes : List Int} {place : Nat} {positions : List Nat},
      axisPositionsFrom operand place axes = .ok positions ↔
        (∀ a ∈ axes, IsAxis operand.rank a) ∧
          positions = axes.map fun a => (axisIndex operand.rank a).toNat
  | [], place, positions => by simp [axisPositionsFrom, eq_comm]
  | axis :: axes, place, positions => by
    rw [axisPositionsFrom, List.forall_mem_cons, List.map_cons]
    by_cases haxis : IsAxis operand.rank axis
    · rw [axisPosition?_of_isAxis haxis]
      simp only [bind_eq_ok_iff, pure_eq_ok_iff, axisPositionsFrom_eq_ok_iff]
      constructor
      · rintro ⟨ps, ⟨haxes, rfl⟩, rfl⟩
        exact ⟨⟨haxis, haxes⟩, rfl⟩
      · rintro ⟨⟨-, haxes⟩, rfl⟩
        exact ⟨_, ⟨haxes, rfl⟩, rfl⟩
    · rw [axisPosition?_eq_none_iff.mpr haxis]
      simp [haxis]

/-- The positions that a list of axes is read into are those that it names. -/
theorem reduces_iff_names {rank : Nat} {axes : List Int} (h : ∀ a ∈ axes, IsAxis rank a)
    {position : Nat} :
    (axes.isEmpty ||
        (KeySet.ofList (axes.map fun a => (axisIndex rank a).toNat)).contains position) = true ↔
      Names axes rank position := by
  rw [Bool.or_eq_true, List.isEmpty_iff, KeySet.contains_ofList, List.mem_map, Names]
  refine or_congr_right (exists_congr fun a => and_congr_right fun ha => ?_)
  have hnonneg := (h a ha).axisIndex_nonneg
  omega

/-! ## Dimensions -/

theorem reduceDimsFrom_eq_flatMap {reduced : Nat → Bool} {keep : Bool} :
    ∀ (position : Nat) (dims : List Dim),
      reduceDimsFrom reduced keep position dims
        = (dims.zipIdx position).flatMap fun (d, i) => reducedDim (reduced i) keep d
  | _, [] => rfl
  | position, d :: ds => by
    rw [reduceDimsFrom, reduceDimsFrom_eq_flatMap (position + 1) ds, List.zipIdx_cons,
      List.flatMap_cons]

theorem reduceDims_eq_reducedDims {reduced : Nat → Bool} {keep : Bool} {axes : List Int}
    {dims : List Dim} (h : ∀ i, reduced i = true ↔ Names axes dims.length i) :
    reduceDims reduced keep dims = reducedDims axes keep dims := by
  rw [reduceDims, reduceDimsFrom_eq_flatMap, reducedDims]
  refine congrArg (dims.zipIdx 0).flatMap (funext fun (d, i) => ?_)
  simp only [reducedDim]
  by_cases hi : Names axes dims.length i
  · rw [if_pos hi, if_pos ((h i).mpr hi)]
  · rw [if_neg hi, if_neg (mt (h i).mp hi)]

/-- **A reduction over axes goes through exactly if the operand has them all**, and reduces the
dimensions that they name. -/
theorem reduceShape_eq_ok_iff {operand s : Shape} {axes : List Int} {keepDims : Int64} :
    reduceShape operand axes keepDims = .ok s ↔
      (∀ a ∈ axes, IsAxis operand.rank a) ∧
        s = ⟨operand.dtype, reducedDims axes (keepDims == 1) operand.dims⟩ := by
  simp only [reduceShape, bind_eq_ok_iff, pure_eq_ok_iff, axisPositionsFrom_eq_ok_iff]
  constructor
  · rintro ⟨positions, ⟨haxes, rfl⟩, rfl⟩
    rw [reduceDims_eq_reducedDims fun i => reduces_iff_names haxes]
    exact ⟨haxes, rfl⟩
  · rintro ⟨haxes, rfl⟩
    rw [← reduceDims_eq_reducedDims fun i => reduces_iff_names haxes]
    exact ⟨_, ⟨haxes, rfl⟩, rfl⟩

end TensorGraph
