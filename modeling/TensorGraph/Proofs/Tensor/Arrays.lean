import Mathlib.Algebra.BigOperators.Group.List.Basic
import TensorGraph.Proofs.Results
import TensorGraph.Tensor.Literal

/-!
# Proofs/Tensor/Arrays — values with a shape are full rectangular arrays

    level 0     •                  one list of length 2
    level 1     •     •            two lists of length 3
    leaves      1 2 3 4 5 6        at depth 2

Nested lists may be ragged: lists of one level may differ in length, and leaves may stand at
different depths.  An **array** has lists of one positive length at each level and leaves only below
the last (`Ragged.IsArray`).  The dimensions of a value are found by comparing each item of a list
with the first; that leaves exactly the arrays (`nestedDims_eq_ok_iff`), because an array is a list
of arrays with the same dimensions (`Ragged.isArray_list_iff`).
-/

namespace TensorGraph

/-- Lists nested to any depth, which may differ from place to place. -/
inductive Ragged (α : Type) where
  | leaf (value : α)
  | list (items : List (Ragged α))

namespace Ragged

variable {α : Type} {a : α} {t : Ragged α} {items : List (Ragged α)} {dims : List Nat}

/-- The leaves, from first to last. -/
def leaves : Ragged α → List α
  | leaf a => [a]
  | list items => items.flatMap leaves

/-- The leaves at a depth, from first to last. -/
def leavesAt : Nat → Ragged α → List α
  | 0, leaf a => [a]
  | 0, list _ => []
  | _ + 1, leaf _ => []
  | i + 1, list items => items.flatMap (leavesAt i)

/-- The lengths of the lists of a level, from first to last; level zero is the whole. -/
def lengthsAt : Nat → Ragged α → List Nat
  | _, leaf _ => []
  | 0, list items => [items.length]
  | i + 1, list items => items.flatMap (lengthsAt i)

/-- An array of the given dimensions: every list of a level has the length that is given for the
level, which is positive, and all leaves are below the last level. -/
structure IsArray (dims : List Nat) (t : Ragged α) : Prop where
  positive : ∀ n ∈ dims, 0 < n
  lengths : ∀ i, ∀ n ∈ t.lengthsAt i, dims[i]? = some n
  depth : ∀ i, ∀ a ∈ t.leavesAt i, i = dims.length

/-! ## Arrays by recursion -/

theorem isArray_leaf_iff : (leaf a).IsArray dims ↔ dims = [] := by
  constructor
  · intro h
    exact List.length_eq_zero_iff.mp (h.depth 0 a List.mem_cons_self).symm
  · rintro rfl
    refine ⟨by simp, by simp [lengthsAt], fun i b hb => ?_⟩
    cases i with
    | zero => rfl
    | succ i => simp [leavesAt] at hb

theorem isArray_list_cons_iff {n : Nat} :
    (list items).IsArray (n :: dims) ↔
      n = items.length ∧ items ≠ [] ∧ ∀ t ∈ items, t.IsArray dims := by
  constructor
  · intro h
    have hlength : n = items.length := by simpa using h.lengths 0 _ List.mem_cons_self
    refine ⟨hlength, ?_, fun t ht => ⟨fun m hm => h.positive m (.tail n hm), ?_, ?_⟩⟩
    · rintro rfl
      simpa [hlength] using h.positive n List.mem_cons_self
    · intro i m hm
      simpa using h.lengths (i + 1) m (List.mem_flatMap.mpr ⟨t, ht, hm⟩)
    · intro i a ha
      simpa using h.depth (i + 1) a (List.mem_flatMap.mpr ⟨t, ht, ha⟩)
  · rintro ⟨rfl, hne, hitems⟩
    obtain ⟨first, hfirst⟩ := List.exists_mem_of_ne_nil items hne
    refine ⟨?_, fun i m hm => ?_, fun i a ha => ?_⟩
    · -- the first item shows that the inner dimensions are positive
      rw [List.forall_mem_cons]
      exact ⟨List.length_pos_iff.mpr hne, (hitems first hfirst).positive⟩
    · cases i with
      | zero => simpa [lengthsAt, eq_comm] using hm
      | succ i =>
        obtain ⟨t, ht, hm⟩ := List.mem_flatMap.mp hm
        exact (hitems t ht).lengths i m hm
    · cases i with
      | zero => simp [leavesAt] at ha
      | succ i =>
        obtain ⟨t, ht, ha⟩ := List.mem_flatMap.mp ha
        exact congrArg (· + 1) ((hitems t ht).depth i a ha)

/-- **An array is a list of arrays with the same dimensions.** -/
theorem isArray_list_iff :
    (list items).IsArray dims ↔
      ∃ inner, dims = items.length :: inner ∧ items ≠ [] ∧ ∀ t ∈ items, t.IsArray inner := by
  cases dims with
  | nil =>
    refine ⟨fun h => ?_, by simp⟩
    simpa using h.lengths 0 items.length List.mem_cons_self
  | cons n dims => simp [isArray_list_cons_iff, and_assoc]

theorem leaves_list : (list items).leaves = items.flatMap leaves := by rw [leaves]

/-- **An array has as many leaves as its dimensions multiply to.** -/
theorem IsArray.length_leaves : ∀ {dims : List Nat} {t : Ragged α},
    t.IsArray dims → t.leaves.length = dims.prod
  | dims, leaf a, h => by
    obtain rfl := isArray_leaf_iff.mp h
    simp [leaves]
  | [], list items, h => by
    obtain ⟨inner, hdims, -⟩ := isArray_list_iff.mp h
    cases hdims
  | n :: dims, list items, h => by
    obtain ⟨rfl, -, hitems⟩ := isArray_list_cons_iff.mp h
    have hlengths : items.map (fun t => t.leaves.length) = items.map fun _ => dims.prod :=
      List.map_congr_left fun t ht => (hitems t ht).length_leaves
    rw [leaves_list, List.length_flatMap, hlengths, List.prod_cons]
    simp

end Ragged

/-! ## Values of fixed depth

The element types of scalars may be any. -/

/-- The nested lists of a value. -/
def nestedTree {α : Type} : (k : Nat) → Nested α k → Ragged α
  | 0, a => .leaf a
  | k + 1, xs => .list (xs.map (nestedTree k))

section

variable [ScalarElements] {α : Type}

omit [ScalarElements] in
theorem sameDimsFrom_eq_ok_iff {dimsOf : α → Except LiteralFault (List Nat)} {first : List Nat} :
    ∀ {xs : List α} {index : Nat},
      sameDimsFrom dimsOf first index xs = .ok () ↔ ∀ x ∈ xs, dimsOf x = .ok first
  | [], index => by simp [sameDimsFrom]
  | x :: xs, index => by
    have hrest : sameDimsFrom dimsOf first (index + 1) xs = .ok () ↔
        ∀ y ∈ xs, dimsOf y = .ok first := sameDimsFrom_eq_ok_iff
    rw [sameDimsFrom, bind_eq_ok_iff, List.forall_mem_cons, ← hrest]
    constructor
    · rintro ⟨dims, hx, hxs⟩
      by_cases hsame : dims = first
      · rw [if_pos hsame] at hxs
        exact ⟨hsame ▸ hx, hxs⟩
      · rw [if_neg hsame] at hxs
        cases hxs
    · rintro ⟨hx, hxs⟩
      exact ⟨first, hx, by rwa [if_pos rfl]⟩

/-- The first item sets the dimensions, and the others agree. -/
theorem nestedDims_cons_eq_ok_iff {t : ScalarType} {k : Nat} {x : Nested α k}
    {xs : List (Nested α k)} {dims : List Nat} :
    nestedDims t (k + 1) (x :: xs) = .ok dims ↔
      ∃ inner, (∀ y ∈ x :: xs, nestedDims t k y = .ok inner) ∧
        dims = (x :: xs).length :: inner := by
  simp only [nestedDims, bind_eq_ok_iff, pure_eq_ok_iff, List.forall_mem_cons, List.length_cons]
  constructor
  · rintro ⟨inner, hx, ⟨⟩, hxs, rfl⟩
    exact ⟨inner, ⟨hx, sameDimsFrom_eq_ok_iff.mp hxs⟩, rfl⟩
  · rintro ⟨inner, ⟨hx, hxs⟩, rfl⟩
    exact ⟨inner, hx, (), sameDimsFrom_eq_ok_iff.mpr hxs, rfl⟩

/-- **A value has dimensions exactly if it is an array of them** and its scalars have an element
type. -/
theorem nestedDims_eq_ok_iff {t : ScalarType} : ∀ {k : Nat} {v : Nested α k} {dims : List Nat},
    nestedDims t k v = .ok dims ↔ t.dtype?.isSome ∧ (nestedTree k v).IsArray dims
  | 0, v, dims => by
    rw [nestedTree, Ragged.isArray_leaf_iff, nestedDims]
    cases t.dtype? <;> simp [eq_comm]
  | k + 1, [], dims => by
    simp [nestedDims, nestedTree, Ragged.isArray_list_iff]
  | k + 1, x :: xs, dims => by
    simp only [nestedDims_cons_eq_ok_iff, nestedDims_eq_ok_iff (k := k), nestedTree,
      Ragged.isArray_list_iff, List.length_map, List.forall_mem_map]
    constructor
    · rintro ⟨inner, hall, rfl⟩
      exact ⟨(hall x List.mem_cons_self).1, inner, rfl, by simp, fun y hy => (hall y hy).2⟩
    · rintro ⟨ht, inner, rfl, -, hall⟩
      exact ⟨inner, fun y hy => ⟨ht, hall y hy⟩, rfl⟩

end

/-! ## Shapes -/

/-- The nested lists of a literal. -/
def Literal.tree (l : Literal) : Ragged Scalar := nestedTree l.depth l.value

section

variable [ScalarElements]

/-- The literal is an array of the given dimensions, with elements of the given type. -/
structure Literal.IsArrayOf (l : Literal) (dtype : DType) (dims : List Nat) : Prop where
  element : l.scalar.dtype? = some dtype
  array : l.tree.IsArray dims

theorem Literal.shape_eq_ok_iff {l : Literal} {s : Shape} :
    l.shape = .ok s ↔ ∃ dtype dims, l.IsArrayOf dtype dims ∧ s = ⟨dtype, dims.map .static⟩ := by
  constructor
  · intro h
    rw [Literal.shape] at h
    split at h
    · rename_i dims hdims
      obtain ⟨helement, harray⟩ := nestedDims_eq_ok_iff.mp hdims
      obtain ⟨dtype, hdtype⟩ := Option.isSome_iff_exists.mp helement
      refine ⟨dtype, dims, ⟨hdtype, harray⟩, ?_⟩
      rw [← Except.ok.inj h, hdtype, Option.getD_some]
    · cases h
  · rintro ⟨dtype, dims, ⟨helement, harray⟩, rfl⟩
    have hdims : nestedDims l.scalar l.depth l.value = .ok dims :=
      nestedDims_eq_ok_iff.mpr ⟨by simp [helement], harray⟩
    simp [Literal.shape, hdims, helement]

theorem Tensor.ofLiteral_eq_ok_iff {l : Literal} {t : Tensor} :
    Tensor.ofLiteral l = .ok t ↔
      ∃ dtype dims, l.IsArrayOf dtype dims ∧ t = ⟨l, dtype, dims.map .static⟩ := by
  constructor
  · intro h
    rw [Tensor.ofLiteral] at h
    split at h
    · rename_i s hs
      obtain ⟨dtype, dims, harray, rfl⟩ := Literal.shape_eq_ok_iff.mp hs
      exact ⟨dtype, dims, harray, (Except.ok.inj h).symm⟩
    · cases h
  · rintro ⟨dtype, dims, harray, rfl⟩
    rw [Tensor.ofLiteral, Literal.shape_eq_ok_iff.mpr ⟨dtype, dims, harray, rfl⟩]

omit [ScalarElements] in
theorem map_static_inj {dims dims' : List Nat} (h : dims.map Dim.static = dims'.map .static) :
    dims = dims' :=
  List.map_injective_iff.mpr (fun _ _ hdim => Dim.static.inj hdim) h

end

/-- **The values with a shape are the full rectangular arrays** of scalars with an element type,
whichever element types scalars have: every other value is refused, and so is a value that is
missing.  An array with the dimensions `n₁ … nₖ` has `n₁ · … · nₖ` scalars. -/
theorem shapeOf_iff_array [ScalarElements] (v? : Option Literal) :
    (∀ s, shapeOf v? = .ok s ↔
      ∃ l dtype dims, v? = some l ∧ l.IsArrayOf dtype dims ∧ s = ⟨dtype, dims.map .static⟩) ∧
    ((∃ e, shapeOf v? = .error e) ↔
      ¬ ∃ l dtype dims, v? = some l ∧ l.IsArrayOf dtype dims) ∧
    ∀ l dtype (dims : List Nat), v? = some l → shapeOf v? = .ok ⟨dtype, dims.map .static⟩ →
      l.tree.leaves.length = dims.prod := by
  have hok (s : Shape) : shapeOf v? = .ok s ↔
      ∃ l dtype dims, v? = some l ∧ l.IsArrayOf dtype dims ∧ s = ⟨dtype, dims.map .static⟩ := by
    cases v? with
    | none => simp [shapeOf]
    | some l => simp [shapeOf, Literal.shape_eq_ok_iff]
  refine ⟨hok, ?_, ?_⟩
  · rw [exists_eq_error_iff]
    refine not_congr ⟨?_, ?_⟩
    · rintro ⟨s, hs⟩
      obtain ⟨l, dtype, dims, hl, harray, -⟩ := (hok s).mp hs
      exact ⟨l, dtype, dims, hl, harray⟩
    · rintro ⟨l, dtype, dims, hl, harray⟩
      exact ⟨_, (hok _).mpr ⟨l, dtype, dims, hl, harray, rfl⟩⟩
  · rintro l dtype dims rfl hshape
    obtain ⟨l', dtype', dims', hl, harray, hs⟩ := (hok _).mp hshape
    obtain rfl := Option.some.inj hl
    obtain rfl := map_static_inj (Shape.mk.inj hs).2
    exact harray.array.length_leaves

/-- Two rows of one, of three numbers each. -/
def stackedRows : Literal :=
  ⟨⟨"int64"⟩, 3, [[[.int 1, .int 2, .int 3]], [[.int 4, .int 5, .int 6]]]⟩

theorem shapeOf_iff_array_stackedRows :
    shapeOf (some stackedRows) = .ok ⟨.int64, [2, 1, 3].map .static⟩ ∧
      stackedRows.tree.leaves.length = 6 := by
  have hshape : shapeOf (some stackedRows) = .ok ⟨.int64, [2, 1, 3].map .static⟩ := rfl
  exact ⟨hshape, (shapeOf_iff_array (some stackedRows)).2.2 stackedRows .int64 [2, 1, 3] rfl hshape⟩

/-- A list that differs from those before it is found at its place. -/
example : shapeOf (some ⟨⟨"int64"⟩, 2, [[.int 1], [.int 2], [.int 3, .int 4]]⟩)
    = .error (.fault "[][]int64" (.irregular [1] 2 [2])) := rfl

end TensorGraph
