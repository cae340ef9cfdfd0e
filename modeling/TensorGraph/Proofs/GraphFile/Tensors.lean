import TensorGraph.Proofs.GraphFile.Decoding

/-!
# Proofs/GraphFile/Tensors — tensors are rectangular arrays of numbers

    !tensor [[1, 2], [3, 4]]        int64, 2 × 2
    !tensor [[1, 2], [3, 4.5]]      float32, 2 × 2
    !tensor [[1, 2], 3]             refused: the leaves are not at one depth

Three passes go over a tensor: one looks for numbers that are no integers (`hasFloats_eq_ok_iff`),
one follows the first items down to find how deep the lists are, and one decodes lists of that depth
(`decodeNumbers_eq_ok_iff`).  The value that comes out has to have a shape.  Together they let
through exactly the arrays of numbers (`readTensor_iff_writesArray`), because the depth of an array
along the first items is its depth everywhere (`nestingDepth_eq`).  This holds whatever decodes the
nodes, if it does so item by item (`exists_readTensor_iff`, `isWritten_of_readTensor`).
-/

namespace TensorGraph.Yaml.Node

variable {n : Node} {line : Nat} {tag? : Option String} {items : List Node}

/-- Made of sequences and of scalars without tag and quotes. -/
def IsPlain (n : Node) : Prop :=
  ∀ leaf ∈ n.tree.leaves, ∃ line text, leaf = scalar (.plain line text)

/-- What a scalar reads as. -/
def meaning? [Resolution] : Node → Option Meaning
  | scalar s => s.meaning.toOption
  | _ => none

theorem IsPlain.item (h : (sequence line tag? items).IsPlain) (hn : n ∈ items) : n.IsPlain :=
  fun leaf hleaf => h leaf (mem_leaves_sequence hn hleaf)

theorem IsPlain.cases (h : n.IsPlain) :
    (∃ line text, n = scalar (.plain line text)) ∨
      ∃ line tag? items, n = sequence line tag? items := by
  cases n with
  | sequence line tag? items => exact .inr ⟨line, tag?, items, rfl⟩
  | _ => exact .inl (h _ (by simp [tree, Ragged.leaves]))

end TensorGraph.Yaml.Node

namespace TensorGraph.GraphFile

open Number Yaml

/-! ## Numbers -/

/-- The tag says that the node is a number. -/
def IsNumber [Resolution] (n : Yaml.Node) : Prop := n.tag = "!!int" ∨ n.tag = "!!float"

section

variable [Resolution] {n : Yaml.Node} {s : Yaml.Scalar} {m : Meaning} {line : Nat} {text : String}

theorem meaning?_scalar (hm : s.meaning = .ok m) : (Yaml.Node.scalar s).meaning? = some m := by
  rw [Yaml.Node.meaning?, hm]
  rfl

/-- A number without tag and quotes reads as one. -/
theorem IsNumber.reading (h : IsNumber (.scalar (.plain line text))) :
    (∃ i, (Yaml.Scalar.plain line text).tag = "!!int" ∧
      (Yaml.Scalar.plain line text).meaning = .ok (.int i)) ∨
    ∃ x, (Yaml.Scalar.plain line text).tag = "!!float" ∧
      (Yaml.Scalar.plain line text).meaning = .ok (.float x) := by
  have hmerge : (Yaml.Scalar.plain line text).tag ≠ "!!merge" := by
    intro hmerge
    rcases h with h | h <;> simp [Yaml.Node.tag, hmerge] at h
  obtain ⟨htag, hmeaning⟩ := Scalar.plain_reading hmerge
  rcases h with h | h
  · obtain ⟨i, hi⟩ := Meaning.tag_eq_int_iff.mp (htag.symm.trans h)
    exact .inl ⟨i, h, hi ▸ hmeaning⟩
  · obtain ⟨x, hx⟩ := Meaning.tag_eq_float_iff.mp (htag.symm.trans h)
    exact .inr ⟨x, h, hx ▸ hmeaning⟩

theorem isReadable_of_numbers (hplain : n.IsPlain) (h : ∀ leaf ∈ n.tree.leaves, IsNumber leaf) :
    n.IsReadable := by
  intro leaf hleaf
  obtain ⟨line, text, rfl⟩ := hplain leaf hleaf
  rcases (h _ hleaf).reading with ⟨i, -, hm⟩ | ⟨x, -, hm⟩
  · exact ⟨_, _, rfl, hm, nofun⟩
  · exact ⟨_, _, rfl, hm, nofun⟩

end

/-! ## Looking for numbers that are no integers -/

section

variable [Resolution] {n : Yaml.Node} {floats : Bool}

theorem hasFloats_sequence {line : Nat} {tag? : Option String} {items : List Yaml.Node} :
    hasFloats (.sequence line tag? items)
      = (do return (← items.mapM hasFloats).contains true) := by
  have hitems : items.attach.mapM (hasFloats ∘ Subtype.val) = items.mapM hasFloats := by
    rw [← List.mapM_map, List.attach_map_subtype_val]
  rw [hasFloats, ← hitems]
  rfl

theorem hasFloats_plain {line : Nat} {text : String} :
    hasFloats (.scalar (.plain line text)) = .ok floats ↔
      IsNumber (.scalar (.plain line text)) ∧
        floats = ((Yaml.Node.scalar (.plain line text)).tag == "!!float") := by
  have htag : numberTag (.plain line text) = (Yaml.Node.scalar (.plain line text)).tag := rfl
  rw [hasFloats, htag, IsNumber]
  generalize (Yaml.Node.scalar (.plain line text)).tag = tag
  by_cases hint : tag = "!!int"
  · simp [hint, eq_comm]
  · by_cases hfloat : tag = "!!float" <;> simp [hint, hfloat, eq_comm]

/-- **Looking for floating-point numbers finds them** if there are only numbers. -/
theorem hasFloats_eq_ok_iff (hplain : n.IsPlain) :
    hasFloats n = .ok floats ↔
      (∀ leaf ∈ n.tree.leaves, IsNumber leaf) ∧
        floats = n.tree.leaves.any fun leaf => leaf.tag == "!!float" := by
  induction n using Yaml.Node.tree.induct generalizing floats with
  | case1 line tag? items ih =>
    have hitems (found : List Bool) : items.mapM hasFloats = .ok found ↔ _ :=
      mapM_eq_ok_iff_map fun item hitem floats => ih item hitem (hplain.item hitem)
    -- a list has a number that is no integer if one of its items has
    have hany (found : Yaml.Node → Bool) : (items.map found).contains true = items.any found := by
      rw [Bool.eq_iff_iff]
      simp
    simp only [hasFloats_sequence, bind_eq_ok_iff, pure_eq_ok_iff, hitems]
    rw [Yaml.Node.leaves_sequence, List.any_flatMap, List.forall_mem_flatMap]
    constructor
    · rintro ⟨found, ⟨hall, rfl⟩, rfl⟩
      exact ⟨hall, hany _⟩
    · rintro ⟨hall, rfl⟩
      exact ⟨_, ⟨hall, rfl⟩, hany _⟩
  | case2 n hn =>
    obtain ⟨line, text, rfl⟩ | ⟨line, tag?, items, rfl⟩ := hplain.cases
    · rw [hasFloats_plain, Yaml.Node.leaves_scalar]
      simp
    · exact absurd rfl (hn line tag? items)

end

/-! ## Depth -/

/-- **The depth along the first items** of an array is the number of its dimensions. -/
theorem nestingDepth_eq : ∀ {n : Yaml.Node} {dims : List Nat}, n.tree.IsArray dims →
    nestingDepth n = dims.length
  | .sequence line tag? [], dims, h => by
    rw [Yaml.Node.tree_sequence, Ragged.isArray_list_iff] at h
    obtain ⟨inner, -, hne, -⟩ := h
    exact absurd rfl hne
  | .sequence line tag? (item :: rest), dims, h => by
    rw [Yaml.Node.tree_sequence, Ragged.isArray_list_iff] at h
    obtain ⟨inner, rfl, -, hitems⟩ := h
    rw [nestingDepth, nestingDepth_eq (hitems item.tree List.mem_cons_self), List.length_cons]
  | .scalar _, dims, h | .mapping .., dims, h | .reference .., dims, h => by
    simp only [Yaml.Node.tree, Ragged.isArray_leaf_iff] at h
    rw [h]
    rfl

/-! ## Arrays of numbers -/

/-- A node writes an array of numbers: its lists are regular and its leaves are numbers, which fit
in 64 bits if all of them are integers. -/
structure WritesArray [Resolution] (n : Yaml.Node) : Prop where
  numbers : ∀ leaf ∈ n.tree.leaves, IsNumber leaf
  regular : n.tree.IsRegular
  fits : (∀ leaf ∈ n.tree.leaves, leaf.tag ≠ "!!float") →
    ∀ leaf ∈ n.tree.leaves, ∀ i, leaf.meaning? = some (.int i) → InRange i

/-- The element type of the array that a node writes. -/
def writtenType [Resolution] (n : Yaml.Node) : DType :=
  if ∃ leaf ∈ n.tree.leaves, leaf.tag = "!!float" then .float32 else .int64

/-- A scalar of a tensor stands for a number: an integer of 64 bits is the number itself, and in 32
bits every number is rounded, integers first to 64 bits. -/
inductive StandsFor [Resolution] : DType → Yaml.Node → Scalar → Prop
  | int {leaf : Yaml.Node} {i : Int64} (h : leaf.meaning? = some (.int i.toInt)) :
      StandsFor .int64 leaf (.int i)
  | rounded {leaf : Yaml.Node} {i : Int} (h : leaf.meaning? = some (.int i)) :
      StandsFor .float32 leaf (.single (Single.ofBinary (BinaryFormat.double.ofInt i)))
  | single {leaf : Yaml.Node} {x : Binary} (h : leaf.meaning? = some (.float x)) :
      StandsFor .float32 leaf (.single (Single.ofBinary x))

/-- The tensor is the array that a node writes: it has the dimensions of the lists, and its scalars
stand for the leaves, in the same order. -/
structure IsWritten [Resolution] (n : Yaml.Node) (t : Tensor) (dims : List Nat) : Prop where
  lists : n.tree.IsArray dims
  shape : t.shape = ⟨writtenType n, dims.map .static⟩
  value : t.literal.tree.IsArray dims
  leaves : List.Forall₂ (StandsFor (writtenType n)) n.tree.leaves t.literal.tree.leaves

/-- The element type of tensors with floating-point numbers, and of those without. -/
def elementOf (floats : Bool) : DType := if floats then .float32 else .int64

section

variable [Resolution] {n leaf : Yaml.Node} {floats : Bool} {b : Scalar}

theorem writtenType_eq :
    writtenType n = elementOf (n.tree.leaves.any fun leaf => leaf.tag == "!!float") := by
  simp [writtenType, elementOf]

theorem standsFor_int64_iff_exists :
    StandsFor .int64 leaf b ↔ ∃ i, StandsFor .int64 leaf (.int i) ∧ .int i = b := by
  constructor
  · rintro ⟨h⟩
    exact ⟨_, .int h, rfl⟩
  · rintro ⟨i, h, rfl⟩
    exact h

theorem standsFor_float32_iff_exists :
    StandsFor .float32 leaf b ↔ ∃ x, StandsFor .float32 leaf (.single x) ∧ .single x = b := by
  constructor
  · intro hb
    cases hb with
    | rounded h => exact ⟨_, .rounded h, rfl⟩
    | single h => exact ⟨_, .single h, rfl⟩
  · rintro ⟨x, h, rfl⟩
    exact h

/-- An integer stands for itself, so it has to fit. -/
theorem standsFor_int64_iff {i : Int} (h : leaf.meaning? = some (.int i)) :
    StandsFor .int64 leaf b ↔ InRange i ∧ b = .int (Int64.ofInt i) := by
  constructor
  · intro hb
    cases hb with
    | @int _ j hj =>
      obtain rfl : j.toInt = i := by simpa [hj] using h
      exact ⟨⟨j.le_toInt, j.toInt_lt⟩, by rw [Int64.ofInt_toInt]⟩
  · rintro ⟨hrange, rfl⟩
    exact .int (by rw [h, Int64.toInt_ofInt_of_le hrange.1 hrange.2])

theorem standsFor_float32_iff_of_int {i : Int} (h : leaf.meaning? = some (.int i)) :
    StandsFor .float32 leaf b ↔ b = .single (Single.ofBinary (BinaryFormat.double.ofInt i)) := by
  constructor
  · intro hb
    cases hb with
    | @rounded _ j hj =>
      obtain rfl : j = i := by simpa [hj] using h
      rfl
    | single hx => simp [hx] at h
  · rintro rfl
    exact .rounded h

theorem standsFor_float32_iff_of_float {x : Binary} (h : leaf.meaning? = some (.float x)) :
    StandsFor .float32 leaf b ↔ b = .single (Single.ofBinary x) := by
  constructor
  · intro hb
    cases hb with
    | rounded hi => simp [hi] at h
    | @single _ y hy =>
      obtain rfl : y = x := by simpa [hy] using h
      rfl
  · rintro rfl
    exact .single h

theorem exists_standsFor_iff (hplain : ∃ line text, leaf = .scalar (.plain line text))
    (hnumber : IsNumber leaf) (hint : floats = false → leaf.tag ≠ "!!float") :
    (∃ b, StandsFor (elementOf floats) leaf b) ↔
      (floats = false → ∀ i, leaf.meaning? = some (.int i) → InRange i) := by
  obtain ⟨line, text, rfl⟩ := hplain
  rcases hnumber.reading with ⟨i, -, hm⟩ | ⟨x, htag, hm⟩
  · cases floats with
    | true => simp [elementOf, standsFor_float32_iff_of_int (meaning?_scalar hm)]
    | false => simp [elementOf, standsFor_int64_iff (meaning?_scalar hm), meaning?_scalar hm]
  · cases floats with
    | true => simp [elementOf, standsFor_float32_iff_of_float (meaning?_scalar hm)]
    | false => exact absurd htag (hint rfl)

end

/-! ## Decoding -/

section

variable [Resolution] [Decoding] {n leaf : Yaml.Node} {floats : Bool} {b : Scalar}

/-- An integer is decoded to what it stands for. -/
theorem Decoding.IsElementwise.decode_int_iff (h : IsElementwise)
    (hplain : ∃ line text, leaf = .scalar (.plain line text)) (hint : leaf.tag = "!!int")
    {i : Int64} : decode .int 0 leaf = .ok i ↔ StandsFor .int64 leaf (.int i) := by
  obtain ⟨line, text, rfl⟩ := hplain
  rcases IsNumber.reading (.inl hint) with ⟨j, -, hm⟩ | ⟨x, htag, -⟩
  · rw [h.int rfl hm]
    constructor
    · rintro rfl
      exact .int (meaning?_scalar hm)
    · rintro ⟨hi⟩
      simpa [meaning?_scalar hm, eq_comm] using hi
  · simp [Yaml.Node.tag, htag] at hint

/-- A number is decoded to what it stands for in 32 bits. -/
theorem Decoding.IsElementwise.decode_single_iff (h : IsElementwise)
    (hplain : ∃ line text, leaf = .scalar (.plain line text)) (hnumber : IsNumber leaf)
    {x : Single} : decode .single 0 leaf = .ok x ↔ StandsFor .float32 leaf (.single x) := by
  obtain ⟨line, text, rfl⟩ := hplain
  rcases hnumber.reading with ⟨i, -, hm⟩ | ⟨y, -, hm⟩
  · simp [h.rounded hm, standsFor_float32_iff_of_int (meaning?_scalar hm), eq_comm]
  · simp [h.single hm, standsFor_float32_iff_of_float (meaning?_scalar hm), eq_comm]

/-- The scalar that a node gives in a tensor. -/
def readNumber? (floats : Bool) (n : Yaml.Node) : Option Scalar :=
  if floats then (Target.single.value? n).map .single else (Target.int.value? n).map .int

/-- **The scalar that is read for a number stands for it.**  There is none for an integer that does
not fit. -/
theorem Decoding.IsElementwise.readNumber?_eq_some_iff (h : IsElementwise)
    (hplain : ∃ line text, leaf = .scalar (.plain line text)) (hnumber : IsNumber leaf)
    (hint : floats = false → leaf.tag ≠ "!!float") :
    readNumber? floats leaf = some b ↔ StandsFor (elementOf floats) leaf b := by
  cases floats with
  | true =>
    rw [elementOf, if_pos rfl, standsFor_float32_iff_exists, readNumber?, if_pos rfl]
    simp only [Option.map_eq_some_iff, Target.value?_eq_some_iff,
      h.decode_single_iff hplain hnumber]
  | false =>
    have hinteger : leaf.tag = "!!int" := hnumber.resolve_right (hint rfl)
    rw [elementOf, if_neg nofun, standsFor_int64_iff_exists, readNumber?, if_neg nofun]
    simp only [Option.map_eq_some_iff, Target.value?_eq_some_iff,
      h.decode_int_iff hplain hinteger]

/-- What the numbers of a tensor are decoded to. -/
def decodeNumbers (floats : Bool) (k : Nat) (n : Yaml.Node) :
    Except ValueFault (Nested Scalar k) :=
  if floats then do return mapNested .single k (← decodeAs .decodeTensor .single k n)
  else do return mapNested .int k (← decodeAs .decodeTensor .int k n)

/-- **Nested lists of numbers are decoded to a depth** exactly if all numbers are at that depth and
each of them can be read. -/
theorem Decoding.IsElementwise.decodeNumbers_eq_ok_iff (h : IsElementwise) {k : Nat}
    {value : Nested Scalar k} (hn : n.IsReadable) :
    decodeNumbers floats k n = .ok value ↔
      toNested? (readNumber? floats) k n.tree = some value := by
  have hread : readNumber? floats
      = fun n => if floats then (Target.single.value? n).map .single
        else (Target.int.value? n).map .int := rfl
  rw [hread]
  cases floats with
  | true =>
    simp only [decodeNumbers, if_true, toNested?_map, Option.map_eq_some_iff, bind_eq_ok_iff,
      pure_eq_ok_iff, decodeAs_eq_ok_iff, h.decode_eq_ok_iff hn]
  | false =>
    simp only [decodeNumbers, Bool.false_eq_true, if_false, toNested?_map, Option.map_eq_some_iff,
      bind_eq_ok_iff, pure_eq_ok_iff, decodeAs_eq_ok_iff, h.decode_eq_ok_iff hn]

end

/-! ## Tensors -/

/-- The scalar type of tensors with floating-point numbers, and of those without. -/
def scalarTypeOf (floats : Bool) : ScalarType := if floats then ⟨"float32"⟩ else ⟨"int64"⟩

section

variable {n : Yaml.Node}

theorem dtype?_scalarTypeOf (floats : Bool) :
    (scalarTypeOf floats).dtype? = some (elementOf floats) := by
  cases floats <;> decide

/-- The tag of a tensor does not count when its numbers are looked at. -/
theorem hasFloats_untagged [Resolution] (h : n.explicitTag? = some tensorTag) :
    hasFloats n.untagged = hasFloats n := by
  cases n with
  | scalar s =>
    have htag : s.tag? = some tensorTag := h
    have hnumber : numberTag s = numberTag { s with tag? := none } := by simp [numberTag, htag]
    simp only [Yaml.Node.untagged, hasFloats, hnumber]
  | sequence => simp only [Yaml.Node.untagged, hasFloats_sequence]
  | mapping => simp only [Yaml.Node.untagged, hasFloats]
  | reference => rfl

theorem nestingDepth_untagged : nestingDepth n.untagged = nestingDepth n := by
  cases n with
  | sequence line tag? items => cases items <;> rfl
  | _ => rfl

variable [Resolution] [Decoding] {v : AttrValue}

theorem readLiteral_eq_ok_iff {l : Literal} :
    readLiteral n = .ok l ↔
      ∃ floats, hasFloats n = .ok floats ∧
        ∃ value, decodeNumbers floats (nestingDepth n) n.untagged = .ok value ∧
          l = ⟨scalarTypeOf floats, nestingDepth n, value⟩ := by
  rw [readLiteral, bind_eq_ok_iff]
  refine exists_congr fun floats => and_congr_right fun _ => ?_
  cases floats with
  | true =>
    simp only [if_true, decodeNumbers, bind_eq_ok_iff, pure_eq_ok_iff, exists_exists_and_eq_and,
      @eq_comm _ l, scalarTypeOf]
  | false =>
    simp only [Bool.false_eq_true, if_false, decodeNumbers, bind_eq_ok_iff, pure_eq_ok_iff,
      exists_exists_and_eq_and, @eq_comm _ l, scalarTypeOf]

theorem readTensor_eq_ok_iff_ofLiteral :
    readTensor n = .ok v ↔
      ∃ l, readLiteral n = .ok l ∧ ∃ t, Tensor.ofLiteral l = .ok t ∧ v = .tensor (some t) := by
  rw [readTensor, bind_eq_ok_iff]
  refine exists_congr fun l => and_congr_right fun _ => ?_
  cases Tensor.ofLiteral l with
  | ok t => simp [pure_eq_ok_iff, @eq_comm _ v]
  | error e => simp [throw_ne_ok]

/-- **A tensor of plain scalars has the value of its lists**, as deep as they are along the first
items; the lists have to be an array. -/
theorem readTensor_eq_ok_iff (h : Decoding.IsElementwise) (htag : n.explicitTag? = some tensorTag)
    (hplain : n.untagged.IsPlain) :
    readTensor n = .ok v ↔
      ∃ floats, hasFloats n.untagged = .ok floats ∧
        ∃ (value : Nested Scalar (nestingDepth n)) (dims : List Nat),
          toNested? (readNumber? floats) (nestingDepth n) n.untagged.tree = some value ∧
          n.untagged.tree.IsArray dims ∧
          v = .tensor (some ⟨⟨scalarTypeOf floats, nestingDepth n, value⟩, elementOf floats,
            dims.map .static⟩) := by
  have hdecode {floats : Bool} (hfloats : hasFloats n = .ok floats)
      {value : Nested Scalar (nestingDepth n)} :
      decodeNumbers floats (nestingDepth n) n.untagged = .ok value ↔
        toNested? (readNumber? floats) (nestingDepth n) n.untagged.tree = some value := by
    rw [← hasFloats_untagged htag, hasFloats_eq_ok_iff hplain] at hfloats
    exact h.decodeNumbers_eq_ok_iff (isReadable_of_numbers hplain hfloats.1)
  rw [readTensor_eq_ok_iff_ofLiteral, hasFloats_untagged htag]
  constructor
  · rintro ⟨l, hl, t, ht, rfl⟩
    obtain ⟨floats, hfloats, value, hvalue, rfl⟩ := readLiteral_eq_ok_iff.mp hl
    obtain ⟨dtype, dims, ⟨hdtype, harray⟩, rfl⟩ := Tensor.ofLiteral_eq_ok_iff.mp ht
    have hnested := (hdecode hfloats).mp hvalue
    obtain rfl : elementOf floats = dtype := by simpa [dtype?_scalarTypeOf] using hdtype
    have hlists := (isArray_iff_of_toNested? hnested).mpr harray
    exact ⟨floats, hfloats, value, dims, hnested, hlists, rfl⟩
  · rintro ⟨floats, hfloats, value, dims, hnested, harray, rfl⟩
    have hliteral := readLiteral_eq_ok_iff.mpr
      ⟨floats, hfloats, value, (hdecode hfloats).mpr hnested, rfl⟩
    refine ⟨_, hliteral, _, ?_, rfl⟩
    refine Tensor.ofLiteral_eq_ok_iff.mpr ⟨_, dims, ⟨dtype?_scalarTypeOf floats, ?_⟩, rfl⟩
    exact (isArray_iff_of_toNested? hnested).mp harray

/-! ## Accepted tensors -/

variable {floats : Bool} {leaf : Yaml.Node} {dims : List Nat}

omit [Decoding] in
theorem tag_ne_float (hfloats : floats = n.tree.leaves.any fun leaf => leaf.tag == "!!float")
    (hleaf : leaf ∈ n.tree.leaves) (hnone : floats = false) : leaf.tag ≠ "!!float" := by
  intro htag
  have hsome : (n.tree.leaves.any fun leaf => leaf.tag == "!!float") = true :=
    List.any_eq_true.mpr ⟨leaf, hleaf, by simp [htag]⟩
  simp [← hfloats, hnone] at hsome

theorem isWritten_of_toNested? (h : Decoding.IsElementwise) (hplain : n.IsPlain)
    (hfloats : hasFloats n = .ok floats) {k : Nat} {value : Nested Scalar k}
    (hvalue : toNested? (readNumber? floats) k n.tree = some value)
    (harray : n.tree.IsArray dims) :
    IsWritten n ⟨⟨scalarTypeOf floats, k, value⟩, elementOf floats, dims.map .static⟩ dims := by
  obtain ⟨hnumbers, hfloats⟩ := (hasFloats_eq_ok_iff hplain).mp hfloats
  have htype : writtenType n = elementOf floats := by rw [writtenType_eq, hfloats]
  refine ⟨harray, by rw [htype], (isArray_iff_of_toNested? hvalue).mp harray, ?_⟩
  rw [htype]
  have hleaves := (List.forall₂_and_left _ _).mpr ⟨fun _ hleaf => hleaf, leaves_of_toNested? hvalue⟩
  refine hleaves.imp fun leaf b hread => ?_
  exact (h.readNumber?_eq_some_iff (hplain leaf hread.1) (hnumbers leaf hread.1)
    (tag_ne_float hfloats hread.1)).mp hread.2

/-- Each number of a written array is read. -/
theorem exists_readNumber? (h : Decoding.IsElementwise) (hplain : n.IsPlain)
    (hwrites : WritesArray n) (hfloats : hasFloats n = .ok floats) (hleaf : leaf ∈ n.tree.leaves) :
    ∃ b, readNumber? floats leaf = some b := by
  obtain ⟨hnumbers, hfloats⟩ := (hasFloats_eq_ok_iff hplain).mp hfloats
  have hint := tag_ne_float hfloats hleaf
  simp only [h.readNumber?_eq_some_iff (hplain leaf hleaf) (hnumbers leaf hleaf) hint]
  rw [exists_standsFor_iff (hplain leaf hleaf) (hnumbers leaf hleaf) hint]
  intro hnone
  exact hwrites.fits (fun leaf hleaf => tag_ne_float hfloats hleaf hnone) leaf hleaf

omit [Decoding] in
theorem IsWritten.writesArray {t : Tensor} (hplain : n.IsPlain)
    (hnumbers : ∀ leaf ∈ n.tree.leaves, IsNumber leaf) (h : IsWritten n t dims) :
    WritesArray n where
  numbers := hnumbers
  regular := Ragged.exists_isArray_iff.mp ⟨dims, h.lists⟩
  fits hnone leaf hleaf := by
    have htype : writtenType n = elementOf false := if_neg (by simpa using hnone)
    have hstands : ∃ b, StandsFor (elementOf false) leaf b :=
      exists_forall₂_iff.mp ⟨_, htype ▸ h.leaves⟩ leaf hleaf
    exact (exists_standsFor_iff (hplain leaf hleaf) (hnumbers leaf hleaf)
      fun _ => hnone leaf hleaf).mp hstands rfl

/-- **What is accepted is the array that is written**, whatever decodes it item by item. -/
theorem isWritten_of_readTensor (h : Decoding.IsElementwise)
    (htag : n.explicitTag? = some tensorTag) (hplain : n.untagged.IsPlain)
    (hv : readTensor n = .ok v) :
    ∃ t dims, v = .tensor (some t) ∧ IsWritten n.untagged t dims := by
  obtain ⟨floats, hfloats, value, dims, hvalue, harray, rfl⟩ :=
    (readTensor_eq_ok_iff h htag hplain).mp hv
  exact ⟨_, dims, rfl, isWritten_of_toNested? h hplain hfloats hvalue harray⟩

/-- **Arrays of numbers are accepted, and nothing else**, whatever decodes them item by item. -/
theorem exists_readTensor_iff (h : Decoding.IsElementwise)
    (htag : n.explicitTag? = some tensorTag) (hplain : n.untagged.IsPlain) :
    (∃ v, readTensor n = .ok v) ↔ WritesArray n.untagged := by
  constructor
  · rintro ⟨v, hv⟩
    obtain ⟨floats, hfloats, value, dims, hvalue, harray, rfl⟩ :=
      (readTensor_eq_ok_iff h htag hplain).mp hv
    exact (isWritten_of_toNested? h hplain hfloats hvalue harray).writesArray hplain
      ((hasFloats_eq_ok_iff hplain).mp hfloats).1
  · intro hwrites
    obtain ⟨dims, harray⟩ := Ragged.exists_isArray_iff.mpr hwrites.regular
    have hfloats := (hasFloats_eq_ok_iff hplain).mpr ⟨hwrites.numbers, rfl⟩
    have hvalue := exists_toNested? harray fun leaf => exists_readNumber? h hplain hwrites hfloats
    -- the lists of an array are as deep everywhere as along the first items
    rw [← nestingDepth_eq harray, nestingDepth_untagged] at hvalue
    obtain ⟨value, hvalue⟩ := hvalue
    exact ⟨_, (readTensor_eq_ok_iff h htag hplain).mpr
      ⟨_, hfloats, value, dims, hvalue, harray, rfl⟩⟩

end

/-- **A tensor is accepted exactly if it is a rectangular array of numbers**, which fit in 64 bits
if all of them are integers.  It has the dimensions of the lists and the numbers in their order;
they are integers unless there is a number that is none. -/
theorem readTensor_iff_writesArray (n : Yaml.Node) (htag : n.explicitTag? = some tensorTag)
    (hplain : n.untagged.IsPlain) :
    readValue n = readTensor n ∧
    ((∃ v, readTensor n = .ok v) ↔ WritesArray n.untagged) ∧
    ∀ v, readTensor n = .ok v →
      ∃ t dims, v = .tensor (some t) ∧ IsWritten n.untagged t dims :=
  ⟨by simp [readValue, htag], exists_readTensor_iff isElementwise_decoding htag hplain,
    fun _ => isWritten_of_readTensor isElementwise_decoding htag hplain⟩

/-- Two rows of two numbers; the last of them is no integer. -/
def squareOfNumbers : Yaml.Node :=
  .sequence 1 (some tensorTag) [
    .sequence 1 none [.scalar (.plain 1 "1"), .scalar (.plain 1 "2")],
    .sequence 1 none [.scalar (.plain 1 "3"), .scalar (.plain 1 "4.5")]]

theorem readTensor_iff_writesArray_square :
    squareOfNumbers.explicitTag? = some tensorTag ∧ squareOfNumbers.untagged.IsPlain ∧
      ∃ t, readTensor squareOfNumbers = .ok (.tensor (some t)) ∧
        t.shape = ⟨.float32, [2, 2].map .static⟩ := by
  have hleaves : squareOfNumbers.untagged.tree.leaves =
      ["1", "2", "3", "4.5"].map fun text => .scalar (.plain 1 text) := by
    simp [squareOfNumbers, Yaml.Node.untagged, Yaml.Node.leaves_sequence, Yaml.Node.leaves_scalar]
  have hplain : squareOfNumbers.untagged.IsPlain := by
    rw [Yaml.Node.IsPlain, hleaves, List.forall_mem_map]
    exact fun text _ => ⟨1, text, rfl⟩
  have hlists (dims : List Nat) : squareOfNumbers.untagged.tree.IsArray dims ↔ dims = [2, 2] := by
    simp [squareOfNumbers, Yaml.Node.untagged, Yaml.Node.tree_sequence, Yaml.Node.tree_scalar,
      Ragged.isArray_list_iff, Ragged.isArray_leaf_iff]
  have hfloat : ∃ leaf ∈ squareOfNumbers.untagged.tree.leaves, leaf.tag = "!!float" :=
    ⟨.scalar (.plain 1 "4.5"), by simp [hleaves], rfl⟩
  have hwrites : WritesArray squareOfNumbers.untagged := by
    refine ⟨?_, ((hlists _).mpr rfl).isRegular, fun hnone => ?_⟩
    · rw [hleaves, List.forall_mem_map]
      show ∀ text ∈ ["1", "2", "3", "4.5"],
        (Yaml.Scalar.plain 1 text).tag = "!!int" ∨ (Yaml.Scalar.plain 1 text).tag = "!!float"
      decide
    · obtain ⟨leaf, hleaf, htag⟩ := hfloat
      exact absurd htag (hnone leaf hleaf)
  obtain ⟨-, haccepted, hwritten⟩ := readTensor_iff_writesArray squareOfNumbers rfl hplain
  obtain ⟨v, hv⟩ := haccepted.mpr hwrites
  obtain ⟨t, dims, rfl, ht⟩ := hwritten v hv
  refine ⟨rfl, hplain, t, hv, ?_⟩
  rw [ht.shape, (hlists dims).mp ht.lists, writtenType, if_pos hfloat]

end TensorGraph.GraphFile
