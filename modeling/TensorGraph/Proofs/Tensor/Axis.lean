import Mathlib.Data.Int.ModEq
import TensorGraph.Inference.Reduce
import TensorGraph.Proofs.Results

/-!
# Proofs/Tensor/Axis — two ways to find the position of an axis

    axis          -4   -3   -2   -1    0    1    2    3
    rank 3         ×    0    1    2    0    1    2    ×

One way tests an axis against the rank and its opposite and adds afterwards, the other adds first
and tests the sum.  Both work with 64-bit words, where the opposite of the least word is that word
again and a sum may wrap around.  Either happens only where there is no position to be found, so
words find what integers would (`map_toInt_adjustAxis`), and both ways find the same
(`Shape.countedPosition?_eq_adjustAxis`, `axis_positions_agree`).
-/

namespace TensorGraph

/-! ## Integers -/

/-- **Among integers** the axes of a rank are those from its opposite up to below it, and the
position is what remains of the axis. -/
theorem adjustAxis_eq_some_iff {axis rank p : Int} :
    adjustAxis axis rank = some p ↔
      (-rank ≤ axis ∧ axis < rank) ∧ 0 ≤ p ∧ p < rank ∧ p ≡ axis [ZMOD rank] := by
  rw [adjustAxis]
  split
  next hout =>
    refine iff_of_false nofun ?_
    rintro ⟨hrange, -⟩
    omega
  next hin =>
    have hmod : axis % rank = if axis < 0 then axis + rank else axis := by
      split
      · rw [← Int.add_emod_right]
        exact Int.emod_eq_of_lt (by omega) (by omega)
      · exact Int.emod_eq_of_lt (by omega) (by omega)
    rw [Option.some.injEq, ← hmod, Int.ModEq]
    constructor
    · rintro rfl
      have hpos : 0 < rank := by omega
      exact ⟨by omega, Int.emod_nonneg _ hpos.ne', Int.emod_lt_of_pos _ hpos, Int.emod_emod ..⟩
    · rintro ⟨-, hlow, hhigh, hsame⟩
      rw [← hsame, Int.emod_eq_of_lt hlow hhigh]

/-! ## Words -/

section

variable {axis rank p : Int64}

theorem toInt_neg_of_ne (h : rank.toInt ≠ -2 ^ 63) : (-rank).toInt = -rank.toInt := by
  have hlow := rank.le_toInt
  have hhigh := rank.toInt_lt
  rw [Int64.toInt_neg]
  exact Int.bmod_eq_of_le_mul_two (by omega) (by omega)

/-- The test comes out as it does among integers, also for the least word. -/
theorem outOfRange_iff : axis < -rank ∨ rank ≤ axis ↔
    axis.toInt < -rank.toInt ∨ rank.toInt ≤ axis.toInt := by
  have hlow := axis.le_toInt
  have hhigh := axis.toInt_lt
  rw [Int64.lt_iff_toInt_lt, Int64.le_iff_toInt_le]
  by_cases hleast : rank.toInt = -2 ^ 63
  · omega
  · rw [toInt_neg_of_ne hleast]

theorem isNegative_iff : axis < 0 ↔ axis.toInt < 0 := by
  rw [Int64.lt_iff_toInt_lt, Int64.toInt_zero]

theorem toInt_add_of_signs (haxis : axis.toInt < 0) (hrank : 0 ≤ rank.toInt) :
    (axis + rank).toInt = axis.toInt + rank.toInt := by
  have hlow := axis.le_toInt
  have hhigh := rank.toInt_lt
  rw [Int64.toInt_add]
  exact Int.bmod_eq_of_le_mul_two (by omega) (by omega)

/-- **Words find what integers find.** -/
theorem map_toInt_adjustAxis (axis rank : Int64) :
    (adjustAxis axis rank).map Int64.toInt = adjustAxis axis.toInt rank.toInt := by
  rw [adjustAxis, adjustAxis]
  by_cases hout : axis < -rank ∨ rank ≤ axis
  · rw [if_pos hout, if_pos (outOfRange_iff.mp hout), Option.map_none]
  · have hin := mt outOfRange_iff.mpr hout
    rw [if_neg hout, if_neg hin, Option.map_some]
    by_cases hnegative : axis.toInt < 0
    · rw [if_pos (isNegative_iff.mpr hnegative), if_pos hnegative,
        toInt_add_of_signs hnegative (by omega)]
    · rw [if_neg (mt isNegative_iff.mp hnegative), if_neg hnegative]

theorem adjustAxisWord_eq_ok_iff :
    adjustAxisWord axis rank = .ok p ↔ adjustAxis axis rank = some p := by
  rw [adjustAxisWord]
  cases adjustAxis axis rank <;> simp

/-- The position of an axis among words, said of integers. -/
theorem adjustAxis_word_eq_some_iff :
    adjustAxis axis rank = some p ↔
      (-rank.toInt ≤ axis.toInt ∧ axis.toInt < rank.toInt) ∧
        0 ≤ p.toInt ∧ p.toInt < rank.toInt ∧ p.toInt ≡ axis.toInt [ZMOD rank.toInt] := by
  rw [← adjustAxis_eq_some_iff, ← map_toInt_adjustAxis]
  cases adjustAxis axis rank <;> simp [Int64.toInt_inj]

theorem exists_adjustAxis_iff :
    (∃ p, adjustAxis axis rank = some p) ↔
      -rank.toInt ≤ axis.toInt ∧ axis.toInt < rank.toInt := by
  rw [adjustAxis]
  split
  next hout =>
    rw [outOfRange_iff] at hout
    exact iff_of_false nofun (by omega)
  next hin =>
    rw [outOfRange_iff] at hin
    exact iff_of_true ⟨_, rfl⟩ (by omega)

/-- The sum is out of range exactly if the axis is, also where it wraps around. -/
theorem counted_outOfRange_iff :
    (if axis < 0 then axis + rank else axis) < 0 ∨
        rank ≤ (if axis < 0 then axis + rank else axis) ↔
      axis.toInt < -rank.toInt ∨ rank.toInt ≤ axis.toInt := by
  rw [isNegative_iff, Int64.le_iff_toInt_le]
  by_cases hnegative : axis.toInt < 0
  · rw [if_pos (isNegative_iff.mpr hnegative)]
    by_cases hrank : 0 ≤ rank.toInt
    · rw [toInt_add_of_signs hnegative hrank]
      omega
    · -- whatever the sum is, it is negative or not below the rank
      omega
  · rw [if_neg (mt isNegative_iff.mp hnegative)]
    omega

end

namespace Shape

/-- **Both ways find the same**, whatever the words. -/
theorem countedPosition?_eq_adjustAxis (axis rank : Int64) :
    countedPosition? axis rank = adjustAxis axis rank := by
  simp only [countedPosition?, adjustAxis, counted_outOfRange_iff, outOfRange_iff]

/-- The rank is a word, unless it is too great for one. -/
theorem toInt_rankWord {s : Shape} (h : s.rank < 2 ^ 63) : s.rankWord.toInt = s.rank :=
  Int64.toInt_ofNat_of_lt h

theorem toInt_rankWord_le (s : Shape) : s.rankWord.toInt ≤ s.rank := by
  have hsize : Int64.size = 2 ^ 64 := rfl
  rw [rankWord, Int64.toInt_ofNat', hsize, Int.bmod]
  split <;> omega

section

variable {s : Shape} {axis p : Int64} {d : Dim}

theorem dim_eq_ok_iff : s.dim axis.toInt = .ok d ↔
    ∃ p, adjustAxis axis s.rankWord = some p ∧ s.dims[p.toInt.toNat]? = some d := by
  rw [dim, Int64.ofInt_toInt, dimWord, countedPosition?_eq_adjustAxis, ← Option.bind_eq_some_iff]
  cases (adjustAxis axis s.rankWord).bind fun p => s.dims[p.toInt.toNat]? <;> simp

/-- A position that is found is one of the shape. -/
theorem exists_dim_of_adjustAxis (h : adjustAxis axis s.rankWord = some p) :
    ∃ d, s.dims[p.toInt.toNat]? = some d := by
  obtain ⟨-, hlow, hhigh, -⟩ := adjustAxis_word_eq_some_iff.mp h
  have hrank := s.toInt_rankWord_le
  have hbound : p.toInt.toNat < s.dims.length := by
    rw [rank] at hrank
    omega
  exact ⟨_, List.getElem?_eq_getElem hbound⟩

end

end Shape

/-- **Both ways to find the position of an axis agree**, whatever the 64-bit words.  An axis has a
position exactly if the rank has the axis among integers, so never where the rank is not positive,
and the position is what remains of the axis.  A shape has a dimension for an axis exactly if the
axis has a position, and then it is the dimension there. -/
theorem axis_positions_agree :
    (∀ axis rank : Int64,
      ((∃ p, adjustAxisWord axis rank = .ok p) ↔
        -rank.toInt ≤ axis.toInt ∧ axis.toInt < rank.toInt) ∧
      (∀ p, adjustAxisWord axis rank = .ok p →
        0 ≤ p.toInt ∧ p.toInt < rank.toInt ∧ p.toInt ≡ axis.toInt [ZMOD rank.toInt]) ∧
      (rank ≤ 0 → ∃ e, adjustAxisWord axis rank = .error e)) ∧
    ∀ (s : Shape) (axis : Int64),
      ((∃ d, s.dim axis.toInt = .ok d) ↔ ∃ p, adjustAxisWord axis s.rankWord = .ok p) ∧
      (∀ p, adjustAxisWord axis s.rankWord = .ok p →
        ∃ d, s.dims[p.toInt.toNat]? = some d ∧ s.dim axis.toInt = .ok d) ∧
      (s.rank < 2 ^ 63 → s.rankWord.toInt = s.rank) := by
  simp only [exists_eq_error_iff, adjustAxisWord_eq_ok_iff]
  refine ⟨fun axis rank => ⟨exists_adjustAxis_iff, fun p hp => ?_, fun hrank => ?_⟩,
    fun s axis => ⟨⟨?_, ?_⟩, fun p hp => ?_, Shape.toInt_rankWord⟩⟩
  · exact (adjustAxis_word_eq_some_iff.mp hp).2
  · rw [Int64.le_iff_toInt_le, Int64.toInt_zero] at hrank
    rw [exists_adjustAxis_iff]
    omega
  · rintro ⟨d, hd⟩
    obtain ⟨p, hp, -⟩ := Shape.dim_eq_ok_iff.mp hd
    exact ⟨p, hp⟩
  · rintro ⟨p, hp⟩
    obtain ⟨d, hd⟩ := Shape.exists_dim_of_adjustAxis hp
    exact ⟨d, Shape.dim_eq_ok_iff.mpr ⟨p, hp, hd⟩⟩
  · obtain ⟨d, hd⟩ := Shape.exists_dim_of_adjustAxis hp
    exact ⟨d, hd, Shape.dim_eq_ok_iff.mpr ⟨p, hp, hd⟩⟩

/-- The least word as a rank, and an axis counted from the end. -/
theorem axis_positions_agree_extremes :
    (∃ e, adjustAxisWord Int64.minValue Int64.minValue = .error e) ∧
      Shape.dim ⟨.float32, [.static 2, .symbolic "n", .unknown]⟩ (-2) = .ok (.symbolic "n") := by
  obtain ⟨hwords, hshapes⟩ := axis_positions_agree
  refine ⟨(hwords Int64.minValue Int64.minValue).2.2 (by decide), ?_⟩
  obtain ⟨-, hdim, -⟩ := hshapes ⟨.float32, [.static 2, .symbolic "n", .unknown]⟩ (-2)
  obtain ⟨d, hd, hok⟩ := hdim 1 rfl
  cases hd
  exact hok

end TensorGraph
