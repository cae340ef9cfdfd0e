import TensorGraph.Proofs.Reduction.Positions

/-!
# Proofs/Reduction/Successive — two reductions are one

    position                0   1   2   3   4
    dims                    d₀  d₁  d₂  d₃  d₄
    without axes [1, -2]    d₀      d₂      d₄
    position                0       1       2
    without axis -1         d₀      d₂                 axis -1 is position 2, which was position 4

Kept dimensions stay where they are, so axes mean the same in both reductions.  Dropped dimensions
make those after them move up: an axis of what is left means the position that survived there
(`survivingAxis`), and with that the two reductions are one (`reduceShape_successive`).
-/

namespace TensorGraph

/-! ## Deleting twice -/

section

variable {α β : Type} {ps qs : Finset Int}

theorem onesAt_onesAt (dims : List Dim) :
    onesAt qs (onesAt ps dims) = onesAt (ps ∪ qs) dims := by
  rw [onesAt, onesAt, onesAt, List.mapIdx_mapIdx]
  refine congrArg (List.mapIdx · dims) (funext fun i => funext fun d => ?_)
  by_cases hp : (i : Int) ∈ ps <;> by_cases hq : (i : Int) ∈ qs <;> simp [hp, hq]

theorem withoutAt_map (f : α → β) (xs : List α) :
    withoutAt ps (xs.map f) = (withoutAt ps xs).map f := by
  rw [withoutAt, withoutAt, entriesExcept, List.zipIdx_map, List.filter_map, List.map_map,
    List.map_map]
  rfl

/-- Where a test fails at the positions of a set, and only there, deleting them is filtering. -/
theorem withoutAt_eq_filter {xs : List α} {keep : α → Bool}
    (h : ∀ (j : Nat) (x : α), xs[j]? = some x → (keep x = true ↔ (j : Int) ∉ ps)) :
    withoutAt ps xs = xs.filter keep := by
  conv_rhs => rw [← List.zipIdx_map_fst 0 xs, List.filter_map]
  refine congrArg (List.map Prod.fst) (List.filter_congr fun entry hentry => ?_)
  have hkeep := h entry.2 entry.1 (List.mk_mem_zipIdx_iff_getElem?.mp hentry)
  exact Bool.eq_iff_iff.mpr (by simpa using hkeep.symm)

/-- **Deleting twice is deleting once**, with the positions of the second set where they were before
the first. -/
theorem withoutAt_withoutAt {qs' : Finset Int} (xs : List α)
    (h : ∀ j i : Nat, (survivors ps xs.length)[j]? = some i → ((i : Int) ∈ qs' ↔ (j : Int) ∈ qs)) :
    withoutAt qs (withoutAt ps xs) = withoutAt (ps ∪ qs') xs := by
  have hfilter : withoutAt qs (entriesExcept ps xs)
      = (entriesExcept ps xs).filter fun entry => (entry.2 : Int) ∉ qs' := by
    refine withoutAt_eq_filter fun j entry hentry => ?_
    have hj : (survivors ps xs.length)[j]? = some entry.2 := by
      rw [← map_snd_entriesExcept, List.getElem?_map, hentry, Option.map_some]
    simpa using not_congr (h j entry.2 hj)
  calc withoutAt qs (withoutAt ps xs)
    _ = (withoutAt qs (entriesExcept ps xs)).map Prod.fst := withoutAt_map _ _
    _ = withoutAt (ps ∪ qs') xs := by
      rw [hfilter, withoutAt, entriesExcept, entriesExcept, List.filter_filter]
      refine congrArg (List.map Prod.fst) (List.filter_congr fun entry _ => ?_)
      simp [Bool.and_comm]

end

/-! ## Axes of what is left -/

/-- The entry at an axis of a list of positions. -/
def positionAt (left : List Nat) (axis : Int) : Int :=
  (left.getD (axisIndex left.length axis).toNat 0 : Nat)

/-- Where axes `B` of what is left after dropping the axes `A` are in the operand: each means one of
the positions that survive. -/
def survivingAxes (rank : Nat) (A B : List Int) : List Int :=
  B.map (positionAt (survivors (positionSet rank A) rank))

section

variable {left : List Nat} {axis : Int} {i j : Nat}

theorem exists_positionAt (h : IsAxis left.length axis) :
    ∃ i : Nat, positionAt left axis = i ∧
      left[(axisIndex left.length axis).toNat]? = some i := by
  obtain ⟨hnonneg, hlt⟩ := isAxis_iff_axisIndex.mp h
  have hbound := (Int.toNat_lt hnonneg).mpr hlt
  refine ⟨_, rfl, ?_⟩
  rw [List.getD_eq_getElem?_getD, List.getElem?_eq_getElem hbound, Option.getD_some]

theorem isAxis_positionAt {rank : Nat} (hleft : ∀ i ∈ left, i < rank)
    (h : IsAxis left.length axis) : IsAxis rank (positionAt left axis) := by
  obtain ⟨i, hi, hget⟩ := exists_positionAt h
  have hlt := hleft i (List.mem_of_getElem? hget)
  rw [hi, IsAxis]
  omega

/-- A position is found by the axes that mean its place in the list, and by no others. -/
theorem axisIndex_positionAt_iff (rank : Nat) (hnodup : left.Nodup) (h : IsAxis left.length axis)
    (hj : left[j]? = some i) :
    axisIndex rank (positionAt left axis) = i ↔ axisIndex left.length axis = j := by
  obtain ⟨i', hi', hget⟩ := exists_positionAt h
  have hnonneg := h.axisIndex_nonneg
  have hindex : axisIndex rank (positionAt left axis) = i' := by
    rw [hi', axisIndex, if_neg (by omega)]
  rw [hindex]
  constructor
  · intro hsame
    obtain rfl : i' = i := Int.ofNat.inj hsame
    obtain ⟨hlt, -⟩ := List.getElem?_eq_some_iff.mp hget
    have hplace := (List.getElem?_inj hlt hnodup).mp (hget.trans hj.symm)
    omega
  · intro hsame
    rw [hsame, Int.toNat_natCast, hj] at hget
    rw [Option.some.inj hget]

theorem mem_positionSet_map_positionAt (rank : Nat) (hnodup : left.Nodup) {B : List Int}
    (h : ∀ b ∈ B, IsAxis left.length b) (hj : left[j]? = some i) :
    (i : Int) ∈ positionSet rank (B.map (positionAt left)) ↔
      (j : Int) ∈ positionSet left.length B := by
  rw [mem_positionSet, mem_positionSet]
  simp only [List.mem_map, exists_exists_and_eq_and]
  exact exists_congr fun b =>
    and_congr_right fun hb => axisIndex_positionAt_iff rank hnodup (h b hb) hj

end

theorem nodup_survivors (ps : Finset Int) (length : Nat) : (survivors ps length).Nodup :=
  List.nodup_range.filter _

theorem lt_of_mem_survivors {ps : Finset Int} {length i : Nat} (h : i ∈ survivors ps length) :
    i < length :=
  List.mem_range.mp (List.mem_filter.mp h).1

theorem positionSet_append (rank : Nat) (A B : List Int) :
    positionSet rank (A ++ B) = positionSet rank A ∪ positionSet rank B := by
  rw [positionSet, List.map_append, List.toFinset_append]
  rfl

/-! ## One reduction after another -/

section

variable {s : Shape} {A B : List Int} {k : Int64}

theorem reduceShape_keep (hA : A ≠ []) (h : ∀ a ∈ A, IsAxis s.rank a) :
    reduceShape s A 1 = .ok ⟨s.dtype, onesAt (positionSet s.rank A) s.dims⟩ :=
  (reduceShape_eq_ok_iff_positions hA).mpr ⟨forall_isAxis_iff.mp h, rfl⟩

theorem reduceShape_drop (hk : k ≠ 1) (hA : A ≠ []) (h : ∀ a ∈ A, IsAxis s.rank a) :
    reduceShape s A k = .ok ⟨s.dtype, withoutAt (positionSet s.rank A) s.dims⟩ :=
  (reduceShape_eq_ok_iff_positions hA).mpr ⟨forall_isAxis_iff.mp h, by rw [if_neg hk]⟩

/-- **Two reductions that keep dimensions are one** over all the axes. -/
theorem reduceShape_keep_keep (hA : A ≠ []) (hB : B ≠ []) (hvalid : ∀ a ∈ A, IsAxis s.rank a)
    (hvalid' : ∀ b ∈ B, IsAxis s.rank b) :
    ∃ t u, reduceShape s A 1 = .ok t ∧ reduceShape t B 1 = .ok u ∧
      reduceShape s (A ++ B) 1 = .ok u := by
  let t : Shape := ⟨s.dtype, onesAt (positionSet s.rank A) s.dims⟩
  have hrank : t.rank = s.rank := length_onesAt _ _
  refine ⟨t, _, reduceShape_keep hA hvalid, reduceShape_keep hB (hrank ▸ hvalid'), ?_⟩
  rw [reduceShape_keep (List.append_ne_nil_of_left_ne_nil hA B)
    (List.forall_mem_append.mpr ⟨hvalid, hvalid'⟩), hrank, onesAt_onesAt, positionSet_append]

/-- **Two reductions that drop dimensions are one** over the axes of the first and the survivors
that those of the second mean. -/
theorem reduceShape_drop_drop (hk : k ≠ 1) (hA : A ≠ []) (hB : B ≠ [])
    (hvalid : ∀ a ∈ A, IsAxis s.rank a) :
    ∃ t, reduceShape s A k = .ok t ∧
      t.rank = (survivors (positionSet s.rank A) s.rank).length ∧
      ((∀ b ∈ B, IsAxis t.rank b) →
        ∃ u, reduceShape t B k = .ok u ∧
          reduceShape s (A ++ survivingAxes s.rank A B) k = .ok u) := by
  let t : Shape := ⟨s.dtype, withoutAt (positionSet s.rank A) s.dims⟩
  let left := survivors (positionSet s.rank A) s.rank
  have hrank : t.rank = left.length := length_withoutAt_eq s.dims
  have hnodup : left.Nodup := nodup_survivors _ _
  refine ⟨t, reduceShape_drop hk hA hvalid, hrank, fun hvalid' => ?_⟩
  refine ⟨_, reduceShape_drop hk hB hvalid', ?_⟩
  rw [hrank] at hvalid' ⊢
  have hsurviving : ∀ b ∈ survivingAxes s.rank A B, IsAxis s.rank b := by
    intro b hb
    obtain ⟨b', hb', rfl⟩ := List.mem_map.mp hb
    exact isAxis_positionAt (fun i => lt_of_mem_survivors) (hvalid' b' hb')
  rw [reduceShape_drop hk (List.append_ne_nil_of_left_ne_nil hA _)
    (List.forall_mem_append.mpr ⟨hvalid, hsurviving⟩), positionSet_append]
  have hdims : withoutAt (positionSet left.length B) t.dims
      = withoutAt (positionSet s.rank A ∪ positionSet s.rank (survivingAxes s.rank A B)) s.dims :=
    withoutAt_withoutAt s.dims fun j i hj =>
      mem_positionSet_map_positionAt s.rank hnodup hvalid' hj
  rw [hdims]

end

/-- **Successive reductions compose**, over axes of any sign, order and repetition.  Where
dimensions are kept, the axes of both reductions are those of one; where they are dropped, the axes
of the second stand for the positions of the operand that survived the first. -/
theorem reduceShape_successive (s : Shape) {A B : List Int} (hA : A ≠ []) (hB : B ≠ [])
    (hvalid : ∀ a ∈ A, IsAxis s.rank a) :
    ((∀ b ∈ B, IsAxis s.rank b) →
      ∃ t u, reduceShape s A 1 = .ok t ∧ reduceShape t B 1 = .ok u ∧
        reduceShape s (A ++ B) 1 = .ok u) ∧
    ∀ k ≠ 1, ∃ t, reduceShape s A k = .ok t ∧
      t.rank = (survivors (positionSet s.rank A) s.rank).length ∧
      ((∀ b ∈ B, IsAxis t.rank b) →
        ∃ u, reduceShape t B k = .ok u ∧
          reduceShape s (A ++ survivingAxes s.rank A B) k = .ok u) :=
  ⟨reduceShape_keep_keep hA hB hvalid, fun _ hk => reduceShape_drop_drop hk hA hB hvalid⟩

/-- The second and fourth of five dimensions go, then the last of the three that are left. -/
theorem reduceShape_successive_last :
    let s : Shape := ⟨.float32, [.symbolic "batch", .static 3, .unknown, .static 5, .static 7]⟩
    let t : Shape := ⟨.float32, [.symbolic "batch", .unknown, .static 7]⟩
    let u : Shape := ⟨.float32, [.symbolic "batch", .unknown]⟩
    survivingAxes s.rank [1, -2, 1] [-1, 2] = [4, 4] ∧ reduceShape s [1, -2, 1] 0 = .ok t ∧
      reduceShape t [-1, 2] 0 = .ok u ∧ reduceShape s [1, -2, 1, 4, 4] 0 = .ok u := by
  intro s t u
  have haxes : survivingAxes s.rank [1, -2, 1] [-1, 2] = [4, 4] := by decide
  have hsuccessive := reduceShape_successive s (A := [1, -2, 1]) (B := [-1, 2]) (by simp) (by simp)
    (by decide)
  obtain ⟨t', ht, -, hthen⟩ := hsuccessive.2 0 (by decide)
  obtain rfl : t = t' := Except.ok.inj ht
  obtain ⟨u', hu, hone⟩ := hthen (by decide)
  obtain rfl : u = u' := Except.ok.inj hu
  rw [haxes] at hone
  exact ⟨haxes, ht, hu, hone⟩

end TensorGraph
