import TensorGraph.Proofs.Tensor.Arrays

/-!
# Proofs/Tensor/Nesting — ragged lists as values of a fixed depth

    ragged     [[1, 2], [3]]     [[1, 2], 3]     [[], [1, 2]]
    depth 2    yes               no              yes
    array      no                no              no

Lists nested to any depth are an array exactly if they are **regular**: all leaves are at one depth,
all lists of one level have one length, and no list is empty (`Ragged.exists_isArray_iff`).  They
are a value of depth `k` if all leaves are at that depth and no list is (`toNested?`); the value
then has the same leaves, and it is an array exactly if they are (`isArray_iff_of_toNested?`).
-/

namespace TensorGraph

namespace Ragged

variable {α : Type} {t : Ragged α} {items : List (Ragged α)} {dims : List Nat}

/-- All leaves are at one depth, all lists of one level have one length, and no list is empty. -/
structure IsRegular (t : Ragged α) : Prop where
  depth : ∀ i j, t.leavesAt i ≠ [] → t.leavesAt j ≠ [] → i = j
  lengths : ∀ i, ∀ m ∈ t.lengthsAt i, ∀ n ∈ t.lengthsAt i, m = n
  nonempty : ∀ i, 0 ∉ t.lengthsAt i

/-! ## Every level of an array is there -/

theorem IsArray.mem_lengthsAt : ∀ {dims : List Nat} {t : Ragged α} {i n : Nat},
    t.IsArray dims → dims[i]? = some n → n ∈ t.lengthsAt i
  | dims, leaf a, i, n, h, hn => by
    obtain rfl := isArray_leaf_iff.mp h
    cases hn
  | [], list items, i, n, _, hn => by cases hn
  | m :: dims, list items, i, n, h, hn => by
    obtain ⟨rfl, hne, hitems⟩ := isArray_list_cons_iff.mp h
    cases i with
    | zero => simpa [lengthsAt, eq_comm] using hn
    | succ i =>
      obtain ⟨first, hfirst⟩ := List.exists_mem_of_ne_nil items hne
      exact List.mem_flatMap.mpr ⟨first, hfirst, (hitems first hfirst).mem_lengthsAt hn⟩

theorem IsArray.leavesAt_ne_nil : ∀ {dims : List Nat} {t : Ragged α},
    t.IsArray dims → t.leavesAt dims.length ≠ []
  | dims, leaf a, h => by
    obtain rfl := isArray_leaf_iff.mp h
    simp [leavesAt]
  | [], list items, h => by
    obtain ⟨inner, hdims, -⟩ := isArray_list_iff.mp h
    cases hdims
  | n :: dims, list items, h => by
    obtain ⟨rfl, hne, hitems⟩ := isArray_list_cons_iff.mp h
    obtain ⟨first, hfirst⟩ := List.exists_mem_of_ne_nil items hne
    obtain ⟨a, ha⟩ := List.exists_mem_of_ne_nil _ (hitems first hfirst).leavesAt_ne_nil
    exact List.ne_nil_of_mem (List.mem_flatMap.mpr ⟨first, hfirst, ha⟩)

/-! ## Regular lists -/

theorem IsArray.isRegular (h : t.IsArray dims) : t.IsRegular where
  depth i j hi hj := by
    obtain ⟨a, ha⟩ := List.exists_mem_of_ne_nil _ hi
    obtain ⟨b, hb⟩ := List.exists_mem_of_ne_nil _ hj
    exact (h.depth i a ha).trans (h.depth j b hb).symm
  lengths i m hm n hn := by
    have heq := (h.lengths i m hm).symm.trans (h.lengths i n hn)
    exact Option.some.inj heq
  nonempty i hzero :=
    absurd (h.positive 0 (List.mem_of_getElem? (h.lengths i 0 hzero))) (Nat.lt_irrefl 0)

theorem leavesAt_succ_ne_nil {i : Nat} (ht : t ∈ items) (h : t.leavesAt i ≠ []) :
    (list items).leavesAt (i + 1) ≠ [] := by
  obtain ⟨a, ha⟩ := List.exists_mem_of_ne_nil _ h
  exact List.ne_nil_of_mem (List.mem_flatMap.mpr ⟨t, ht, ha⟩)

theorem mem_lengthsAt_succ {i n : Nat} (ht : t ∈ items) (h : n ∈ t.lengthsAt i) :
    n ∈ (list items).lengthsAt (i + 1) :=
  List.mem_flatMap.mpr ⟨t, ht, h⟩

theorem IsRegular.item (h : (list items).IsRegular) (ht : t ∈ items) : t.IsRegular where
  depth _ _ hi hj :=
    Nat.succ.inj (h.depth _ _ (leavesAt_succ_ne_nil ht hi) (leavesAt_succ_ne_nil ht hj))
  lengths _ m hm n hn :=
    h.lengths _ m (mem_lengthsAt_succ ht hm) n (mem_lengthsAt_succ ht hn)
  nonempty _ hzero := h.nonempty _ (mem_lengthsAt_succ ht hzero)

/-- The items of a regular list have the same dimensions. -/
theorem IsRegular.dims_eq {t' : Ragged α} {dims' : List Nat} (h : (list items).IsRegular)
    (ht : t ∈ items) (ht' : t' ∈ items) (hdims : t.IsArray dims) (hdims' : t'.IsArray dims') :
    dims = dims' := by
  have hlength : dims.length = dims'.length :=
    Nat.succ.inj (h.depth _ _ (leavesAt_succ_ne_nil ht hdims.leavesAt_ne_nil)
      (leavesAt_succ_ne_nil ht' hdims'.leavesAt_ne_nil))
  refine List.ext_getElem hlength fun i hi hi' => ?_
  have hmem := hdims.mem_lengthsAt (List.getElem?_eq_getElem hi)
  have hmem' := hdims'.mem_lengthsAt (List.getElem?_eq_getElem hi')
  exact h.lengths _ _ (mem_lengthsAt_succ ht hmem) _ (mem_lengthsAt_succ ht' hmem')

theorem IsRegular.exists_isArray : ∀ {t : Ragged α}, t.IsRegular → ∃ dims, t.IsArray dims
  | leaf a, _ => ⟨[], isArray_leaf_iff.mpr rfl⟩
  | list [], h => absurd List.mem_cons_self (h.nonempty 0)
  | list (first :: rest), h => by
    obtain ⟨dims, hdims⟩ := exists_isArray (h.item (t := first) List.mem_cons_self)
    -- each item is an array of its own dimensions, and these are the ones of the first
    have hall : ∀ t ∈ first :: rest, t.IsArray dims := by
      intro t ht
      obtain ⟨dims', hdims'⟩ := exists_isArray (h.item ht)
      rwa [h.dims_eq ht List.mem_cons_self hdims' hdims] at hdims'
    exact ⟨_, isArray_list_cons_iff.mpr ⟨rfl, by simp, hall⟩⟩

/-- **Nested lists are an array exactly if they are regular.** -/
theorem exists_isArray_iff : (∃ dims, t.IsArray dims) ↔ t.IsRegular := by
  constructor
  · rintro ⟨dims, h⟩
    exact h.isRegular
  · exact IsRegular.exists_isArray

end Ragged

/-! ## Values of fixed depth -/

section

variable {α β : Type} {read : α → Option β}

/-- Nested lists as a value of depth `k`, if all leaves are at that depth and can be read. -/
def toNested? (read : α → Option β) : (k : Nat) → Ragged α → Option (Nested β k)
  | 0, .leaf a => read a
  | 0, .list _ => none
  | _ + 1, .leaf _ => none
  | k + 1, .list items => items.mapM (toNested? read k)

/-- What is done to the leaves can as well be done to the value. -/
theorem toNested?_map {γ : Type} (f : β → γ) : ∀ (k : Nat) (t : Ragged α),
    toNested? (fun a => (read a).map f) k t = (toNested? read k t).map (mapNested f k)
  | 0, .leaf _ | 0, .list _ | _ + 1, .leaf _ => rfl
  | k + 1, .list items => by
    rw [toNested?, toNested?]
    induction items with
    | nil => rfl
    | cons t items ih =>
      rw [List.mapM_cons, List.mapM_cons, toNested?_map f k t, ih]
      cases toNested? read k t with
      | none => rfl
      | some v => cases items.mapM (toNested? read k) <;> rfl

theorem forall_mem_iff_of_forall₂ {R : α → β → Prop} {P : α → Prop} {Q : β → Prop} {xs : List α}
    {ys : List β} (h : List.Forall₂ R xs ys) (hR : ∀ x y, R x y → (P x ↔ Q y)) :
    (∀ x ∈ xs, P x) ↔ ∀ y ∈ ys, Q y := by
  induction h with
  | nil => simp
  | cons hxy _ ih => rw [List.forall_mem_cons, List.forall_mem_cons, hR _ _ hxy, ih]

/-- **The value is an array exactly if the lists are.** -/
theorem isArray_iff_of_toNested? : ∀ {k : Nat} {t : Ragged α} {v : Nested β k} {dims : List Nat},
    toNested? read k t = some v → (t.IsArray dims ↔ (nestedTree k v).IsArray dims)
  | 0, .leaf a, v, dims, _ => by rw [nestedTree, Ragged.isArray_leaf_iff, Ragged.isArray_leaf_iff]
  | k + 1, .list items, vs, dims, h => by
    have hitems := mapM_eq_some_iff.mp h
    have hempty : items ≠ [] ↔ vs.map (nestedTree k) ≠ [] := by
      rw [← List.length_pos_iff, ← List.length_pos_iff, List.length_map, hitems.length_eq]
    rw [nestedTree, Ragged.isArray_list_iff, Ragged.isArray_list_iff, hempty, List.length_map,
      hitems.length_eq]
    refine exists_congr fun inner => and_congr_right fun _ => and_congr_right fun _ => ?_
    rw [List.forall_mem_map]
    exact forall_mem_iff_of_forall₂ hitems fun t v hv => isArray_iff_of_toNested? hv

/-- **The value has the leaves that the lists have**, in the same order. -/
theorem leaves_of_toNested? : ∀ {k : Nat} {t : Ragged α} {v : Nested β k},
    toNested? read k t = some v →
      List.Forall₂ (fun a b => read a = some b) t.leaves (nestedTree k v).leaves
  | 0, .leaf a, v, h => by
    rw [nestedTree, Ragged.leaves, Ragged.leaves]
    exact .cons h .nil
  | k + 1, .list items, vs, h => by
    rw [nestedTree, Ragged.leaves_list, Ragged.leaves_list, List.flatMap_map]
    exact List.rel_flatMap (mapM_eq_some_iff.mp h) fun t v hv => leaves_of_toNested? hv

/-- An array whose leaves can be read is a value. -/
theorem exists_toNested? : ∀ {dims : List Nat} {t : Ragged α}, t.IsArray dims →
    (∀ a ∈ t.leaves, ∃ b, read a = some b) → ∃ v, toNested? read dims.length t = some v
  | dims, .leaf a, h, hread => by
    obtain rfl := Ragged.isArray_leaf_iff.mp h
    exact hread a (by simp [Ragged.leaves])
  | [], .list items, h, _ => by
    obtain ⟨inner, hdims, -⟩ := Ragged.isArray_list_iff.mp h
    cases hdims
  | n :: dims, .list items, h, hread => by
    obtain ⟨rfl, -, hitems⟩ := Ragged.isArray_list_cons_iff.mp h
    have heach : ∀ t ∈ items, ∃ v, toNested? read dims.length t = some v := by
      intro t ht
      refine exists_toNested? (hitems t ht) fun a ha => hread a ?_
      rw [Ragged.leaves_list]
      exact List.mem_flatMap.mpr ⟨t, ht, ha⟩
    obtain ⟨vs, hvs⟩ := exists_forall₂_iff.mpr heach
    exact ⟨vs, mapM_eq_some_iff.mpr hvs⟩

end

end TensorGraph
