import TensorGraph.GraphFile.AttributeValue
import TensorGraph.Proofs.Tensor.Nesting
import TensorGraph.Proofs.Yaml.Decoding
import TensorGraph.Proofs.Yaml.Numbers

/-!
# Proofs/GraphFile/Decoding — what reading a file takes of a decoder

    node       7          [1, 2]     [[1, 2], [3]]     [1, [2]]
    depth 0    7          refused    refused           refused
    depth 1    refused    [1, 2]     refused           refused
    depth 2    refused    refused    [[1, 2], [3]]     refused

Scalars are read and nodes are decoded from outside.  Of decoding it matters that it goes **item by
item**: a list is decoded exactly if its items are, to a depth that is one less, and refused where a
scalar should stand; a scalar is refused where a list should stand, and an integer where it does not
fit (`Decoding.IsElementwise`).  So a node is decoded to a depth exactly if all its leaves are at
that depth and each of them is decoded (`Decoding.IsElementwise.decode_eq_ok_iff`).  The decoder of
this library is of that kind (`isElementwise_decoding`).
-/

namespace TensorGraph.Yaml

/-! ## Nodes as nested lists -/

namespace Node

variable {n : Node} {s : Scalar} {line : Nat} {tag? : Option String} {items : List Node}

/-- The sequences of a node; anything else is a leaf. -/
def tree : Node → Ragged Node
  | sequence _ _ items => .list (items.map tree)
  | n => .leaf n

theorem tree_sequence : (sequence line tag? items).tree = .list (items.map tree) := by rw [tree]

theorem tree_scalar : (scalar s).tree = .leaf (scalar s) := by simp [tree]

theorem leaves_scalar : (scalar s).tree.leaves = [scalar s] := by rw [tree_scalar, Ragged.leaves]

theorem leaves_sequence :
    (sequence line tag? items).tree.leaves = items.flatMap fun n => n.tree.leaves := by
  rw [tree_sequence, Ragged.leaves_list, List.flatMap_map]

theorem mem_leaves_sequence {leaf : Node} (hn : n ∈ items) (h : leaf ∈ n.tree.leaves) :
    leaf ∈ (sequence line tag? items).tree.leaves :=
  leaves_sequence ▸ List.mem_flatMap.mpr ⟨n, hn, h⟩

/-- Made of sequences and of scalars that read as something other than a null. -/
def IsReadable [Resolution] (n : Node) : Prop :=
  ∀ leaf ∈ n.tree.leaves, ∃ s m, leaf = scalar s ∧ s.meaning = .ok m ∧ m ≠ .null

theorem isReadable_scalar [Resolution] {m : Meaning} (hm : s.meaning = .ok m) (hnull : m ≠ .null) :
    (scalar s).IsReadable := by
  rw [IsReadable, leaves_scalar, List.forall_mem_singleton]
  exact ⟨s, m, rfl, hm, hnull⟩

theorem isReadable_sequence [Resolution] (h : ∀ n ∈ items, n.IsReadable) :
    (sequence line tag? items).IsReadable := by
  rw [IsReadable, leaves_sequence, List.forall_mem_flatMap]
  exact h

theorem IsReadable.item [Resolution] (h : (sequence line tag? items).IsReadable) (hn : n ∈ items) :
    n.IsReadable :=
  fun leaf hleaf => h leaf (mem_leaves_sequence hn hleaf)

theorem IsReadable.cases [Resolution] (h : n.IsReadable) :
    (∃ s m, n = scalar s ∧ s.meaning = .ok m ∧ m ≠ .null) ∨
      ∃ line tag? items, n = sequence line tag? items := by
  cases n with
  | sequence line tag? items => exact .inr ⟨line, tag?, items, rfl⟩
  | _ => exact .inl (h _ (by simp [tree, Ragged.leaves]))

end Node

end TensorGraph.Yaml

namespace TensorGraph.GraphFile

open Number Yaml

/-! ## Item by item -/

/-- **Decoding goes item by item.**  Lists and scalars are not taken for each other, any scalar is a
text, and an integer is decoded to itself or not at all. -/
structure Decoding.IsElementwise [Resolution] [Decoding] : Prop where
  items {α : Type} {target : Target α} {depth line : Nat} {tag? : Option String}
    {items : List Yaml.Node} {values : List (Nested α depth)} (h : ∀ n ∈ items, n.IsReadable) :
    decode target (depth + 1) (.sequence line tag? items) = .ok values ↔
      List.Forall₂ (fun n v => decode target depth n = .ok v) items values
  list_ne {α : Type} {target : Target α} {line : Nat} {tag? : Option String}
    {items : List Yaml.Node} (v : α) : decode target 0 (.sequence line tag? items) ≠ .ok v
  scalar_ne {α : Type} {target : Target α} {depth : Nat} {s : Yaml.Scalar} {m : Meaning}
    (hm : s.meaning = .ok m) (hnull : m ≠ .null) (v : List (Nested α depth)) :
    decode target (depth + 1) (.scalar s) ≠ .ok v
  text {s : Yaml.Scalar} {m : Meaning} (huntagged : s.tag? = none) (hm : s.meaning = .ok m)
    (hnull : m ≠ .null) : decode .text 0 (.scalar s) = .ok s.text
  int {s : Yaml.Scalar} {i : Int} (huntagged : s.tag? = none) (hm : s.meaning = .ok (.int i))
    (v : Int64) : decode .int 0 (.scalar s) = .ok v ↔ v.toInt = i
  rounded {s : Yaml.Scalar} {i : Int} (hm : s.meaning = .ok (.int i)) :
    decode .single 0 (.scalar s) = .ok (Single.ofBinary (BinaryFormat.double.ofInt i))
  single {s : Yaml.Scalar} {x : Binary} (hm : s.meaning = .ok (.float x)) :
    decode .single 0 (.scalar s) = .ok (Single.ofBinary x)

/-- What a node is decoded to where a scalar is asked for. -/
def Target.value? [Decoding] {α : Type} (target : Target α) (n : Yaml.Node) : Option α :=
  (Decoding.decode target 0 n).toOption

theorem Target.value?_eq_some_iff [Decoding] {α : Type} {target : Target α} {n : Yaml.Node}
    {v : α} : target.value? n = some v ↔ Decoding.decode target 0 n = .ok v := by
  rw [Target.value?]
  cases Decoding.decode target 0 n <;> simp [Except.toOption]

/-- **A node is decoded to a depth** exactly if all its leaves are at that depth and each of them is
decoded. -/
theorem Decoding.IsElementwise.decode_eq_ok_iff [Resolution] [Decoding] (h : IsElementwise)
    {α : Type} {target : Target α} {k : Nat} {n : Yaml.Node} {v : Nested α k} (hn : n.IsReadable) :
    decode target k n = .ok v ↔ toNested? target.value? k n.tree = some v := by
  induction k generalizing n with
  | zero =>
    obtain ⟨s, m, rfl, -, -⟩ | ⟨line, tag?, items, rfl⟩ := hn.cases
    · rw [Yaml.Node.tree_scalar]
      exact Target.value?_eq_some_iff.symm
    · rw [Yaml.Node.tree_sequence]
      exact iff_of_false (h.list_ne v) nofun
  | succ k ih =>
    obtain ⟨s, m, rfl, hm, hnull⟩ | ⟨line, tag?, items, rfl⟩ := hn.cases
    · rw [Yaml.Node.tree_scalar]
      exact iff_of_false (h.scalar_ne hm hnull v) nofun
    · rw [Yaml.Node.tree_sequence, toNested?, List.mapM_map, mapM_eq_some_iff,
        h.items fun n hitem => hn.item hitem]
      exact forall₂_congr_left fun n hitem v => ih (hn.item hitem)

theorem decodeAs_eq_ok_iff [Decoding] {α : Type} {fault : Nat → DecodeFault → ValueFault}
    {target : Target α} {k : Nat} {n : Yaml.Node} {v : Nested α k} :
    decodeAs fault target k n = .ok v ↔ Decoding.decode target k n = .ok v := by
  rw [decodeAs]
  cases Decoding.decode target k n <;> simp [Except.mapError]

/-! ## The decoder of this library -/

section

variable {α : Type} {target : Target α} {n : Yaml.Node} {s : Yaml.Scalar} {m : Meaning}

theorem decodes_keepNull {k : Nat} {d : Decoder (Option (Nested α k))}
    {result : Option (Nested α k)} (h : Decodes d result) :
    Decodes (do return Target.keepNull k (← d)) result := by
  cases h with
  | @value v h =>
    have hkept : Target.keepNull k (some v) = some v := by cases k <;> rfl
    refine .value (runs_bind h ?_)
    rw [hkept]
    exact runs_pure _
  | mismatch h => exact .mismatch (runs_bind h (runs_pure _))

/-- What a scalar gives where its reading is taken. -/
def Target.reading? (target : Target α) : Yaml.Node → Option α
  | .scalar s => s.meaning.toOption.bind (target.take s)
  | _ => none

theorem reading?_scalar (hm : s.meaning = .ok m) :
    target.reading? (.scalar s) = target.take s m := by
  rw [Target.reading?, hm]
  rfl

/-- Nested lists are decoded as the readings of their leaves are taken. -/
theorem decodes_decoder (k : Nat) (hn : n.IsReadable) :
    Decodes (target.decoder k n) (toNested? target.reading? k n.tree) := by
  induction k generalizing n with
  | zero =>
    -- a scalar is asked for, and a list is a mismatch
    obtain ⟨s, m, rfl, hm, hnull⟩ | ⟨line, tag?, items, rfl⟩ := hn.cases
    · rw [Yaml.Node.tree_scalar, toNested?, reading?_scalar hm]
      exact decodes_scalar hm hnull
    · rw [Yaml.Node.tree_sequence]
      exact decodes_scalar_sequence
  | succ k ih =>
    -- a list is asked for, and a scalar is a mismatch
    obtain ⟨s, m, rfl, hm, hnull⟩ | ⟨line, tag?, items, rfl⟩ := hn.cases
    · rw [Yaml.Node.tree_scalar]
      exact decodes_list_scalar hm hnull
    · rw [Yaml.Node.tree_sequence, toNested?, List.mapM_map]
      exact decodes_list fun n hitem => decodes_keepNull (ih (hn.item hitem))

theorem decode_eq_ok_iff_of_decodes {k : Nat} {v : Nested α k} {result : Option (Nested α k)}
    (h : Decodes (target.decoder k n) result) :
    Decoding.decode target k n = .ok v ↔ result = some v := by
  have hdecode : Decoding.decode target k n
      = (do return (← n.decode (target.decoder k)).getD (target.empty k)) := rfl
  rw [hdecode]
  cases result with
  | some w => rw [decode_of_decodes h, ok_bind, pure_eq_ok_iff, Option.some_inj, Option.getD_some]
  | none =>
    obtain ⟨e, he⟩ := exists_decode_eq_error h
    rw [he]
    exact iff_of_false nofun nofun

theorem decode_sequence_ne {line : Nat} {tag? : Option String} {items : List Yaml.Node} (v : α) :
    Decoding.decode target 0 (.sequence line tag? items) ≠ .ok v := by
  have hdecodes : Decodes (target.decoder 0 (.sequence line tag? items)) none :=
    decodes_scalar_sequence
  exact mt (decode_eq_ok_iff_of_decodes hdecodes).mp nofun

theorem decode_scalar_ne {k : Nat} (hm : s.meaning = .ok m) (hnull : m ≠ .null)
    (vs : List (Nested α k)) : Decoding.decode target (k + 1) (.scalar s) ≠ .ok vs := by
  have hdecodes : Decodes (target.decoder (k + 1) (.scalar s)) none :=
    decodes_list_scalar hm hnull
  exact mt (decode_eq_ok_iff_of_decodes hdecodes).mp nofun

theorem decode_scalar_iff (hm : s.meaning = .ok m) (hnull : m ≠ .null) {v : α} :
    Decoding.decode target 0 (.scalar s) = .ok v ↔ target.take s m = some v :=
  decode_eq_ok_iff_of_decodes (decodes_scalar hm hnull)

/-- No integer without a tag lies below the range of 64 bits. -/
theorem le_of_meaning {i : Int} (huntagged : s.tag? = none) (hm : s.meaning = .ok (.int i)) :
    -twoTo 63 ≤ i := by
  simp only [Yaml.Scalar.meaning, huntagged] at hm
  split at hm
  · cases hm
  · exact le_of_plainMeaning (Except.ok.inj hm)

theorem takeInt_eq_some_iff {i : Int} (hlow : -twoTo 63 ≤ i) {v : Int64} :
    Decoder.takeInt s (.int i) = some v ↔ v.toInt = i := by
  rw [Decoder.takeInt]
  constructor
  · intro h
    obtain ⟨hhigh, hv⟩ : i < twoTo 63 ∧ Int64.ofInt i = v := by simpa using h
    rw [← hv, Int64.toInt_ofInt_of_le hlow hhigh]
  · rintro rfl
    have hhigh : v.toInt < twoTo 63 := v.toInt_lt
    rw [if_pos hhigh, Int64.ofInt_toInt]

/-- **The decoder goes item by item.** -/
theorem isElementwise_decoding : Decoding.IsElementwise where
  items {α target depth line tag? items values} h := by
    rw [decode_eq_ok_iff_of_decodes (decodes_decoder _ (Yaml.Node.isReadable_sequence h)),
      Yaml.Node.tree_sequence, toNested?, List.mapM_map, mapM_eq_some_iff]
    exact forall₂_congr_left fun n hn v =>
      (decode_eq_ok_iff_of_decodes (decodes_decoder depth (h n hn))).symm
  list_ne := decode_sequence_ne
  scalar_ne := decode_scalar_ne
  text huntagged hm hnull := by
    rw [decode_scalar_iff hm hnull]
    simp [Target.take, Decoder.takeText, huntagged]
  int huntagged hm v := by
    rw [decode_scalar_iff hm nofun, Target.take]
    exact takeInt_eq_some_iff (le_of_meaning huntagged hm)
  rounded hm := (decode_scalar_iff hm nofun).mpr rfl
  single hm := (decode_scalar_iff hm nofun).mpr rfl

end

end TensorGraph.GraphFile
