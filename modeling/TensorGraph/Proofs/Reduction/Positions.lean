import Mathlib.Data.Finset.Card
import TensorGraph.Proofs.Reduction.Axes

/-!
# Proofs/Reduction/Positions — of the axes of a reduction only the set of positions counts

    axes           [1, -1, 1]    [-3, 3]    [3, 1, 1, -3]
    positions      {1, 3}        {1, 3}     {1, 3}

    dims           d₀  d₁  d₂  d₃
    kept           d₀  1   d₂  1
    dropped        d₀      d₂

Order, repetition and sign of axes vary freely.  What a reduction needs of them is the set of
positions that they mean (`positionSet`): whether the operand has the axes can be read off the set,
and so can the result, with ones at the positions (`onesAt`) or without them (`withoutAt`).
-/

namespace TensorGraph

/-! ## Sets of positions -/

/-- The positions that axes mean in a tensor with `rank` dimensions. -/
def positionSet (rank : Nat) (axes : List Int) : Finset Int := (axes.map (axisIndex rank)).toFinset

/-- The dimensions, with ones at some positions. -/
def onesAt (ps : Finset Int) (dims : List Dim) : List Dim :=
  dims.mapIdx fun i d => if (i : Int) ∈ ps then .static 1 else d

/-- The entries of a list with their positions, except at some positions. -/
def entriesExcept {α : Type} (ps : Finset Int) (xs : List α) : List (α × Nat) :=
  xs.zipIdx.filter fun entry => (entry.2 : Int) ∉ ps

/-- The entries of a list, without those at some positions. -/
def withoutAt {α : Type} (ps : Finset Int) (xs : List α) : List α :=
  (entriesExcept ps xs).map Prod.fst

/-- The positions in a list of the given length that are not in a set, in order. -/
def survivors (ps : Finset Int) (length : Nat) : List Nat :=
  (List.range length).filter fun i => (i : Int) ∉ ps

section

variable {rank : Nat} {axes : List Int}

theorem mem_positionSet {p : Int} :
    p ∈ positionSet rank axes ↔ ∃ a ∈ axes, axisIndex rank a = p := by
  rw [positionSet, List.mem_toFinset, List.mem_map]

theorem names_iff_mem (h : axes ≠ []) {i : Nat} :
    Names axes rank i ↔ (i : Int) ∈ positionSet rank axes := by
  rw [Names, or_iff_right h, mem_positionSet]

theorem isAxis_iff_axisIndex {axis : Int} :
    IsAxis rank axis ↔ 0 ≤ axisIndex rank axis ∧ axisIndex rank axis < rank := by
  rw [IsAxis, axisIndex]
  split <;> omega

/-- An operand has all axes exactly if it has their positions. -/
theorem forall_isAxis_iff :
    (∀ a ∈ axes, IsAxis rank a) ↔ ∀ p ∈ positionSet rank axes, 0 ≤ p ∧ p < rank := by
  simp only [mem_positionSet, forall_exists_index, and_imp, forall_apply_eq_imp_iff₂,
    isAxis_iff_axisIndex]

end

/-! ## Deleting positions -/

section

variable {α : Type} {ps : Finset Int}

/-- What is left is at the positions that survive. -/
theorem map_snd_entriesExcept (xs : List α) :
    (entriesExcept ps xs).map Prod.snd = survivors ps xs.length := by
  rw [survivors, List.range_eq_range', ← List.zipIdx_map_snd 0 xs, List.filter_map]
  rfl

theorem length_withoutAt_eq (xs : List α) :
    (withoutAt ps xs).length = (survivors ps xs.length).length := by
  rw [← map_snd_entriesExcept, withoutAt, List.length_map, List.length_map]

/-- **Every position of the set is deleted once.** -/
theorem length_survivors_add_card {n : Nat} (h : ∀ p ∈ ps, 0 ≤ p ∧ p < n) :
    (survivors ps n).length + ps.card = n := by
  let hits := (List.range n).filter fun i : Nat => (i : Int) ∈ ps
  have hset : (hits.map Nat.cast).toFinset = ps := by
    ext p
    simp only [hits, List.mem_toFinset, List.mem_map, List.mem_filter, List.mem_range,
      decide_eq_true_eq]
    constructor
    · rintro ⟨i, ⟨-, hi⟩, rfl⟩
      exact hi
    · intro hp
      obtain ⟨hnonneg, hlt⟩ := h p hp
      exact ⟨p.toNat, ⟨by omega, by rwa [Int.toNat_of_nonneg hnonneg]⟩, by omega⟩
  have hnodup : (hits.map (Nat.cast : Nat → Int)).Nodup :=
    (List.nodup_range.filter _).map fun _ _ => Int.ofNat.inj
  have hcard : ps.card = hits.length := by
    rw [← hset, List.toFinset_card_of_nodup hnodup, List.length_map]
  have hsplit : n = hits.length + (survivors ps n).length := by
    simpa [hits, survivors] using
      List.length_eq_length_filter_add (l := List.range n) fun i : Nat => decide ((i : Int) ∈ ps)
  omega

theorem zipIdx_onesAt (dims : List Dim) :
    (onesAt ps dims).zipIdx
      = dims.zipIdx.map fun entry =>
        (if (entry.2 : Int) ∈ ps then .static 1 else entry.1, entry.2) := by
  refine List.ext_getElem? fun j => ?_
  simp only [onesAt, List.getElem?_zipIdx, List.getElem?_mapIdx, List.getElem?_map, Option.map_map,
    Nat.zero_add]
  rfl

/-- Ones are deleted together with the positions they are at. -/
theorem withoutAt_onesAt (dims : List Dim) : withoutAt ps (onesAt ps dims) = withoutAt ps dims := by
  rw [withoutAt, entriesExcept, zipIdx_onesAt, List.filter_map, List.map_map]
  refine List.map_congr_left fun entry hentry => ?_
  have hi : (entry.2 : Int) ∉ ps := by simpa using (List.mem_filter.mp hentry).2
  exact if_neg hi

end

/-! ## The result of a reduction -/

section

variable {axes : List Int}

theorem reducedDims_keep (h : axes ≠ []) (dims : List Dim) :
    reducedDims axes true dims = onesAt (positionSet dims.length axes) dims := by
  rw [reducedDims, onesAt, List.mapIdx_eq_zipIdx_map, List.map_eq_flatMap]
  refine congrArg dims.zipIdx.flatMap (funext fun entry => ?_)
  obtain ⟨d, i⟩ := entry
  simp only [names_iff_mem h, if_true]
  split <;> rfl

theorem reducedDims_drop (h : axes ≠ []) (dims : List Dim) :
    reducedDims axes false dims = withoutAt (positionSet dims.length axes) dims := by
  rw [reducedDims, withoutAt, entriesExcept]
  simp only [names_iff_mem h, Bool.false_eq_true, if_false]
  generalize positionSet dims.length axes = ps
  induction dims.zipIdx with
  | nil => rfl
  | cons entry entries ih =>
    by_cases hi : (entry.2 : Int) ∈ ps <;> simp [hi, ih]

/-- **A reduction from the set of positions.** -/
theorem reduceShape_eq_ok_iff_positions (h : axes ≠ []) {s t : Shape} {k : Int64} :
    reduceShape s axes k = .ok t ↔
      (∀ p ∈ positionSet s.rank axes, 0 ≤ p ∧ p < s.rank) ∧
        t = ⟨s.dtype, if k = 1 then onesAt (positionSet s.rank axes) s.dims
          else withoutAt (positionSet s.rank axes) s.dims⟩ := by
  rw [reduceShape_eq_ok_iff, forall_isAxis_iff, Shape.rank, ← reducedDims_keep h,
    ← reducedDims_drop h]
  by_cases hk : k = 1
  · simp [hk]
  · rw [beq_false_of_ne hk, if_neg hk]

end

theorem length_onesAt (ps : Finset Int) (dims : List Dim) :
    (onesAt ps dims).length = dims.length := List.length_mapIdx

/-- **Of the axes only the set of positions counts.**  A reduction goes through exactly if the
operand has every axis, and then any axes with the same positions give the same shape.  Kept
positions become ones and the rank stays; else every position of the set is deleted, once, from
what is there when they are kept. -/
theorem reduceShape_positions (s : Shape) (k : Int64) {A B : List Int} (hA : A ≠ []) (hB : B ≠ [])
    (h : positionSet s.rank A = positionSet s.rank B) :
    ((∃ t, reduceShape s A k = .ok t) ↔ ∀ a ∈ A, IsAxis s.rank a) ∧
    ∀ t, reduceShape s A k = .ok t →
      reduceShape s B k = .ok t ∧
      (if k = 1 then t.rank = s.rank else t.rank + (positionSet s.rank A).card = s.rank) ∧
      ∃ kept, reduceShape s A 1 = .ok kept ∧
        kept = ⟨s.dtype, onesAt (positionSet s.rank A) s.dims⟩ ∧
        (k ≠ 1 → t = ⟨kept.dtype, withoutAt (positionSet s.rank A) kept.dims⟩) := by
  refine ⟨by simp [reduceShape_eq_ok_iff], fun t ht => ?_⟩
  obtain ⟨hps, rfl⟩ := (reduceShape_eq_ok_iff_positions hA).mp ht
  refine ⟨?_, ?_, _, (reduceShape_eq_ok_iff_positions hA).mpr ⟨hps, rfl⟩, rfl, fun hk => ?_⟩
  · rw [h] at hps ⊢
    exact (reduceShape_eq_ok_iff_positions hB).mpr ⟨hps, rfl⟩
  · by_cases hk : k = 1
    · rw [if_pos hk, if_pos hk]
      exact length_onesAt _ _
    · rw [if_neg hk, if_neg hk, Shape.rank, length_withoutAt_eq]
      exact length_survivors_add_card hps
  · rw [if_neg hk, if_pos rfl, withoutAt_onesAt]

/-- The second and the last axis of four, named in two ways. -/
theorem reduceShape_positions_mixed :
    let s : Shape := ⟨.float32, [.symbolic "batch", .static 3, .unknown, .static 5]⟩
    let t : Shape := ⟨.float32, [.symbolic "batch", .unknown]⟩
    positionSet s.rank [1, -1, 1] = positionSet s.rank [-3, 3] ∧
      reduceShape s [1, -1, 1] 0 = .ok t ∧ reduceShape s [-3, 3] 0 = .ok t ∧
      t.rank + 2 = s.rank := by
  intro s t
  have hsame : positionSet s.rank [1, -1, 1] = positionSet s.rank [-3, 3] := by decide
  have ht : reduceShape s [1, -1, 1] 0 = .ok t := by rfl
  obtain ⟨hother, hrank, -⟩ :=
    (reduceShape_positions s 0 (by simp) (by simp) hsame).2 t ht
  exact ⟨hsame, ht, hother, hrank⟩

end TensorGraph
