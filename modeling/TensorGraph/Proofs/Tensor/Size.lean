import Mathlib.Algebra.BigOperators.Group.List.Lemmas
import Mathlib.Algebra.BigOperators.Ring.List
import Mathlib.Algebra.Ring.Nat
import Mathlib.Data.List.TakeWhile
import TensorGraph.Tensor.Shape

/-!
# Proofs/Tensor/Size — the element count of a shape

    sizes               0   2⁶²   2              2⁶²   2   0
    running product     0   0     0              2⁶²   ×

The elements are counted by a running product, which is given up where it would leave the range.
Once it is zero it stays in range, so what counts is the product in front of the first zero
(`Shape.size?_eq`).  Where that is too great, a shape without elements has no count, though the
same dimensions in another order have one; everywhere else the count is the product, or none if the
product is too great (`Shape.size_exact_iff`).
-/

namespace TensorGraph

/-! ## Sizes -/

/-- The sizes in front of the first zero. -/
def leadingSizes (ns : List Nat) : List Nat := ns.takeWhile (· ≠ 0)

/-- The sizes other than zero. -/
def positiveSizes (ns : List Nat) : List Nat := ns.filter (· ≠ 0)

section

variable {n : Nat} {ns : List Nat}

theorem leadingSizes_zero_cons : leadingSizes (0 :: ns) = [] := rfl

theorem leadingSizes_cons (h : n ≠ 0) : leadingSizes (n :: ns) = n :: leadingSizes ns := by
  simp [leadingSizes, h]

theorem leadingSizes_of_notMem (h : 0 ∉ ns) : leadingSizes ns = ns := by
  rw [leadingSizes, List.takeWhile_eq_self_iff]
  intro n hn
  have hne : n ≠ 0 := fun hzero => h (hzero ▸ hn)
  simpa using hne

theorem zero_notMem_positiveSizes : 0 ∉ positiveSizes ns := by simp [positiveSizes]

theorem leadingSizes_sublist : (leadingSizes ns).Sublist (positiveSizes ns) := by
  have hall : (leadingSizes ns).filter (· ≠ 0) = leadingSizes ns :=
    List.filter_eq_self.mpr fun n hn => (List.mem_takeWhile_imp hn :)
  rw [← hall]
  exact (List.takeWhile_sublist _).filter _

theorem prod_leadingSizes_pos : 0 < (leadingSizes ns).prod := by
  refine Nat.pos_of_ne_zero (List.prod_ne_zero fun hzero => ?_)
  exact zero_notMem_positiveSizes (leadingSizes_sublist.subset hzero)

theorem prod_leadingSizes_le : (leadingSizes ns).prod ≤ (positiveSizes ns).prod :=
  Nat.le_of_dvd (Nat.pos_of_ne_zero (List.prod_ne_zero zero_notMem_positiveSizes))
    leadingSizes_sublist.prod_dvd_prod

end

namespace Shape

/-- The sizes of the static dimensions, in order. -/
def sizes (s : Shape) : List Nat := s.dims.filterMap Dim.size?

/-! ## The running product -/

theorem sizeFrom_of_not_static : ∀ {dims : List Dim} {acc : Nat},
    ¬ dims.all Dim.isStatic → sizeFrom acc dims = none
  | [], _, h => absurd rfl h
  | .static n :: dims, acc, h => by
    have hrest : ¬ dims.all Dim.isStatic := by simpa [Dim.isStatic] using h
    simp only [sizeFrom, Dim.size?]
    split
    · rfl
    · exact sizeFrom_of_not_static hrest
  | .symbolic _ :: _, _, _ => rfl
  | .unknown :: _, _, _ => rfl

/-- **The running product over static dimensions** stays in range exactly if it does up to the
first zero. -/
theorem sizeFrom_map_static : ∀ {ns : List Nat} {acc : Nat}, acc ≤ maxElements →
    sizeFrom acc (ns.map .static)
      = if acc * (leadingSizes ns).prod ≤ maxElements then some (acc * ns.prod) else none
  | [], acc, hacc => by simp [sizeFrom, leadingSizes, hacc]
  | n :: ns, acc, hacc => by
    simp only [List.map_cons, sizeFrom, Dim.size?]
    by_cases hzero : n = 0
    · -- from here on the product is zero
      subst hzero
      have hrest : sizeFrom 0 (ns.map .static) = some 0 := by
        rw [sizeFrom_map_static (Nat.zero_le maxElements)]
        simp
      simpa [leadingSizes_zero_cons, hacc] using hrest
    · have hguard : maxElements / n < acc ↔ maxElements < acc * n :=
        Nat.div_lt_iff_lt_mul (Nat.pos_of_ne_zero hzero)
      rw [leadingSizes_cons hzero, List.prod_cons, List.prod_cons, ← mul_assoc, ← mul_assoc]
      by_cases hover : maxElements < acc * n
      · -- later factors are positive, so they do not bring the product back into range
        have hle : acc * n ≤ acc * n * (leadingSizes ns).prod :=
          Nat.le_mul_of_pos_right _ prod_leadingSizes_pos
        rw [if_pos ⟨hzero, hguard.mpr hover⟩, if_neg (by omega)]
      · rw [if_neg fun h => hover (hguard.mp h.2),
          sizeFrom_map_static (Nat.le_of_not_lt hover)]

theorem dims_eq_map_sizes {s : Shape} (h : s.isStatic) : s.dims = s.sizes.map .static := by
  obtain ⟨dtype, dims⟩ := s
  simp only [sizes, isStatic] at h ⊢
  induction dims with
  | nil => rfl
  | cons d dims ih =>
    obtain ⟨hd, hdims⟩ := Bool.and_eq_true_iff.mp h
    cases d with
    | static n => simpa [Dim.size?] using ih hdims
    | symbolic name => cases hd
    | unknown => cases hd

theorem size?_map_static (dtype : DType) (ns : List Nat) :
    size? ⟨dtype, ns.map .static⟩
      = if (leadingSizes ns).prod ≤ maxElements then some ns.prod else none := by
  have hone : 1 ≤ maxElements := by decide
  rw [size?, sizeFrom_map_static hone, one_mul, one_mul]

/-- **What the count is**, for every shape. -/
theorem size?_eq (s : Shape) :
    s.size? = if s.isStatic ∧ (leadingSizes s.sizes).prod ≤ maxElements
      then some s.sizes.prod else none := by
  by_cases hstatic : s.isStatic
  · have hdims : s = ⟨s.dtype, s.sizes.map .static⟩ := by rw [← dims_eq_map_sizes hstatic]
    conv_lhs => rw [hdims, size?_map_static]
    simp [hstatic]
  · rw [size?, sizeFrom_of_not_static hstatic, if_neg (by simp [hstatic])]

/-! ## When the count is the product -/

/-- The count is exact: the product of the dimensions if all are static and it is in range, and none
otherwise. -/
def CountsExactly (s : Shape) : Prop :=
  s.size? = if s.isStatic ∧ s.sizes.prod ≤ maxElements then some s.sizes.prod else none

/-- Shapes with the same dimensions in another order have the same count. -/
def CountsInAnyOrder (s : Shape) : Prop :=
  ∀ t : Shape, t.dims.Perm s.dims → t.size? = s.size?

/-- There are no elements, but the sizes in front of the first zero are too great. -/
def Overruns (s : Shape) : Prop :=
  s.isStatic ∧ 0 ∈ s.sizes ∧ maxElements < (leadingSizes s.sizes).prod

/-- There are no elements, but the sizes other than zero are too great. -/
def CanOverrun (s : Shape) : Prop :=
  s.isStatic ∧ 0 ∈ s.sizes ∧ maxElements < (positiveSizes s.sizes).prod

variable {s t : Shape}

theorem isStatic_of_perm (h : t.dims.Perm s.dims) : t.isStatic = s.isStatic := by
  rw [isStatic, isStatic, h.all_eq]

theorem sizes_perm (h : t.dims.Perm s.dims) : t.sizes.Perm s.sizes := h.filterMap _

theorem CanOverrun.of_overruns (h : s.Overruns) : s.CanOverrun := by
  obtain ⟨hstatic, hzero, hover⟩ := h
  exact ⟨hstatic, hzero, hover.trans_le prod_leadingSizes_le⟩

theorem CanOverrun.of_perm (hperm : t.dims.Perm s.dims) (h : t.CanOverrun) : s.CanOverrun := by
  obtain ⟨hstatic, hzero, hover⟩ := h
  have hsizes := sizes_perm hperm
  refine ⟨isStatic_of_perm hperm ▸ hstatic, hsizes.mem_iff.mp hzero, ?_⟩
  rwa [positiveSizes, ← (hsizes.filter _).prod_eq]

/-- **The count is exact unless the sizes in front of a zero are too great.** -/
theorem countsExactly_iff : s.CountsExactly ↔ ¬ s.Overruns := by
  rw [CountsExactly, size?_eq, Overruns]
  by_cases hstatic : s.isStatic
  · by_cases hzero : 0 ∈ s.sizes
    · have hprod : s.sizes.prod = 0 := List.prod_eq_zero hzero
      simp [hstatic, hzero, hprod]
    · simp [hstatic, hzero, leadingSizes_of_notMem hzero]
  · simp [hstatic]

theorem CountsExactly.size?_eq_of_perm (hs : s.CountsExactly) (ht : t.CountsExactly)
    (hperm : t.dims.Perm s.dims) : t.size? = s.size? := by
  rw [hs, ht, isStatic_of_perm hperm, (sizes_perm hperm).prod_eq]

/-! ## Other orders -/

/-- A zero in front makes the count zero. -/
theorem exists_perm_size?_eq_zero (hstatic : s.isStatic) (hzero : 0 ∈ s.sizes) :
    ∃ t : Shape, t.dims.Perm s.dims ∧ t.size? = some 0 := by
  have hperm : (0 :: s.sizes.erase 0).Perm s.sizes := (List.perm_cons_erase hzero).symm
  refine ⟨⟨s.dtype, (0 :: s.sizes.erase 0).map .static⟩, ?_, ?_⟩
  · rw [dims_eq_map_sizes hstatic]
    exact hperm.map _
  · rw [size?_map_static, leadingSizes_zero_cons, if_pos (by decide), List.prod_cons, zero_mul]

/-- With the zeros at the end all other sizes are multiplied first. -/
theorem exists_perm_size?_eq_none (h : s.CanOverrun) :
    ∃ t : Shape, t.dims.Perm s.dims ∧ t.size? = none := by
  obtain ⟨hstatic, -, hover⟩ := h
  let zeros := s.sizes.filter fun n => !decide (n ≠ 0)
  have hperm : (positiveSizes s.sizes ++ zeros).Perm s.sizes := List.filter_append_perm _ _
  refine ⟨⟨s.dtype, (positiveSizes s.sizes ++ zeros).map .static⟩, ?_, ?_⟩
  · rw [dims_eq_map_sizes hstatic]
    exact hperm.map _
  · have hleading : leadingSizes (positiveSizes s.sizes ++ zeros)
        = positiveSizes s.sizes ++ leadingSizes zeros :=
      List.takeWhile_append_of_pos fun n hn => (List.mem_filter.mp hn).2
    have hle : (positiveSizes s.sizes).prod
        ≤ (positiveSizes s.sizes).prod * (leadingSizes zeros).prod :=
      Nat.le_mul_of_pos_right _ prod_leadingSizes_pos
    rw [size?_map_static, hleading, List.prod_append, if_neg (by omega)]

/-- **The order does not count unless the sizes other than zero are too great.** -/
theorem countsInAnyOrder_iff : s.CountsInAnyOrder ↔ ¬ s.CanOverrun := by
  constructor
  · intro horder h
    obtain ⟨t, ht, hzero⟩ := exists_perm_size?_eq_zero h.1 h.2.1
    obtain ⟨u, hu, hnone⟩ := exists_perm_size?_eq_none h
    rw [horder t ht, ← horder u hu, hnone] at hzero
    cases hzero
  · intro h t ht
    have hs : s.CountsExactly := countsExactly_iff.mpr (mt .of_overruns h)
    have ht' : t.CountsExactly :=
      countsExactly_iff.mpr fun hover => h (.of_perm ht (.of_overruns hover))
    exact hs.size?_eq_of_perm ht' ht

/-- **The count of a shape is the product of its dimensions**, or none if one is not static or the
product is out of range, exactly unless the sizes in front of a zero are too great; and it is the
same in any order exactly unless there is a zero and the other sizes are too great. -/
theorem size_exact_iff (s : Shape) :
    (s.CountsExactly ↔ ¬ s.Overruns) ∧ (s.CountsInAnyOrder ↔ ¬ s.CanOverrun) :=
  ⟨countsExactly_iff, countsInAnyOrder_iff⟩

/-- No elements, and no count: the sizes in front of the zero are one too many for the range.  With
the zero in front there is a count. -/
theorem not_size_exact_zero_last :
    let s : Shape := ⟨.float32, [.static (2 ^ 62), .static 2, .static 0]⟩
    let t : Shape := ⟨.float32, [.static 0, .static (2 ^ 62), .static 2]⟩
    ¬ s.CountsExactly ∧ ¬ s.CountsInAnyOrder ∧
      s.sizes.prod = 0 ∧ s.size? = none ∧ t.dims.Perm s.dims ∧ t.size? = some 0 := by
  intro s t
  have hnone : s.size? = none := by decide
  have hperm : t.dims.Perm s.dims := by decide
  have hzero : t.size? = some 0 := by decide
  refine ⟨?_, ?_, by decide, hnone, hperm, hzero⟩
  · rw [CountsExactly, hnone]
    decide
  · intro horder
    have hsame := horder t hperm
    rw [hnone, hzero] at hsame
    cases hsame

end Shape

end TensorGraph
