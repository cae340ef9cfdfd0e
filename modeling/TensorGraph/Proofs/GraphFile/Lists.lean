import TensorGraph.Proofs.GraphFile.Tensors

/-!
# Proofs/GraphFile/Lists — lists as attributes

    [1, 2, 3]        integers
    [1, 2.5, 3]      floating-point numbers, all three
    [a, "1", b]      texts
    []               integers, none
    [a, 1]           refused: texts and numbers

Two passes go over a list.  The first finds what kinds of items there are (`mapM_itemKind_iff`), and
from them the type of the attribute is chosen; the second decodes the items to that type
(`decodeItems_eq_ok_iff`).  The second pass refuses nothing that the first has let through, with one
exception: an integer beyond 64 bits where all items are integers.  So lists that are let through
have a description of their own (`WritesList`), in which the order of the items does not count
(`readValue_iff_writesList`).
-/

namespace TensorGraph.GraphFile

open Number Yaml

/-! ## Items -/

/-- The tag says that the node is a text. -/
def IsText [Resolution] (n : Yaml.Node) : Prop := n.tag = "!!str"

instance [Resolution] : DecidablePred IsText := fun _ => inferInstanceAs (Decidable (_ = _))

/-- A scalar that is a number or a text. -/
def IsItem [Resolution] (n : Yaml.Node) : Prop := (∃ s, n = .scalar s) ∧ (IsNumber n ∨ IsText n)

/-- The kind of an item. -/
def kindOf [Resolution] (n : Yaml.Node) : ItemKind :=
  if n.tag = "!!int" then .int else if n.tag = "!!float" then .float else .text

section

variable [Resolution] {n : Yaml.Node} {items : List Yaml.Node}

theorem itemKind_eq_ok_iff {kind : ItemKind} :
    itemKind n = .ok kind ↔ IsItem n ∧ kind = kindOf n := by
  cases n with
  | scalar s =>
    have htag : (Yaml.Node.scalar s).tag = s.tag := rfl
    simp only [itemKind, IsItem, IsNumber, IsText, kindOf, htag]
    split_ifs <;> simp_all [eq_comm]
  | _ => simp [itemKind, IsItem]

theorem not_isNumber_of_isText (h : IsText n) : ¬ IsNumber n := by
  rw [IsText] at h
  simp [IsNumber, h]

theorem kindOf_eq_float_iff : kindOf n = .float ↔ n.tag = "!!float" := by
  rw [kindOf]
  split_ifs <;> simp_all

theorem kindOf_eq_text_iff (h : IsItem n) : kindOf n = .text ↔ IsText n := by
  have hkind := h.2
  rw [kindOf]
  simp only [IsNumber, IsText] at hkind ⊢
  split_ifs <;> simp_all

/-- **The first pass** lets through exactly the items, and finds their kinds. -/
theorem mapM_itemKind_iff {kinds : List ItemKind} :
    items.mapM itemKind = .ok kinds ↔ (∀ n ∈ items, IsItem n) ∧ kinds = items.map kindOf :=
  mapM_eq_ok_iff_map fun _ _ _ => itemKind_eq_ok_iff

/-! ## The choice of a type -/

theorem contains_text_iff (h : ∀ n ∈ items, IsItem n) :
    (items.map kindOf).contains .text = true ↔ ∃ n ∈ items, IsText n := by
  rw [List.contains_iff_mem, List.mem_map]
  exact exists_congr fun n => and_congr_right fun hn => kindOf_eq_text_iff (h n hn)

theorem contains_float_iff :
    (items.map kindOf).contains .float = true ↔ ∃ n ∈ items, n.tag = "!!float" := by
  simp only [List.contains_iff_mem, List.mem_map, kindOf_eq_float_iff]

theorem contains_number_iff :
    ((items.map kindOf).contains .int || (items.map kindOf).contains .float) = true ↔
      ∃ n ∈ items, IsNumber n := by
  have hint (n : Yaml.Node) : kindOf n = .int ↔ n.tag = "!!int" := by
    rw [kindOf]
    split_ifs <;> simp_all
  simp only [Bool.or_eq_true, List.contains_iff_mem, List.mem_map, hint, kindOf_eq_float_iff,
    IsNumber, and_or_left, exists_or]

/-- The type of the attribute that a list gives. -/
def listType (items : List Yaml.Node) : AttrType :=
  if ∃ n ∈ items, IsText n then .strings
  else if ∃ n ∈ items, n.tag = "!!float" then .floats
  else .ints

variable [Decoding]

/-- **The second pass** — what a list is decoded to, once its type is chosen. -/
def decodeItems (n : Yaml.Node) : AttrType → Except ValueFault AttrValue
  | .strings => do return .strings (← decodeAs .decode .text 1 n)
  | .floats => do return .floats (← decodeAs .decode .single 1 n)
  | _ => do return .ints (← decodeAs .decode .int 1 n)

theorem readList_eq :
    readList n items = items.mapM itemKind >>= fun kinds =>
      if kinds.contains .text then
        if kinds.contains .int || kinds.contains .float then .error (.mixedList n.line)
        else decodeItems n .strings
      else if kinds.contains .float then decodeItems n .floats
      else decodeItems n .ints := rfl

/-- The two passes, one after the other. -/
theorem readList_eq_ok_iff {v : AttrValue} :
    readList n items = .ok v ↔
      (∀ n ∈ items, IsItem n) ∧ ¬ ((∃ n ∈ items, IsText n) ∧ ∃ n ∈ items, IsNumber n) ∧
        decodeItems n (listType items) = .ok v := by
  rw [readList_eq, bind_eq_ok_iff]
  simp only [mapM_itemKind_iff, and_assoc, exists_and_left, exists_eq_left]
  refine and_congr_right fun h => ?_
  rw [listType]
  by_cases htext : ∃ n ∈ items, IsText n
  · rw [if_pos ((contains_text_iff h).mpr htext), if_pos htext, guard_eq_ok_iff,
      contains_number_iff]
    simp [htext]
  · rw [if_neg (mt (contains_text_iff h).mp htext), if_neg htext]
    simp only [contains_float_iff, htext, false_and, not_false_eq_true, true_and,
      apply_ite (decodeItems n)]

end

/-! ## The values of items -/

section

variable [Resolution] {n : Yaml.Node} {items : List Yaml.Node} {s : Yaml.Scalar} {m : Meaning}

/-- A scalar without a tag has the tag of its reading, unless it asks for a merge. -/
theorem exists_untagged_reading (huntagged : s.tag? = none) (hmerge : s.tag ≠ "!!merge") :
    ∃ m, s.meaning = .ok m ∧ s.tag = m.tag := by
  obtain ⟨line, tag?, text, quoted⟩ := s
  obtain rfl : tag? = none := huntagged
  cases quoted with
  | true => exact ⟨.text text, rfl, rfl⟩
  | false => exact ⟨_, (Scalar.plain_reading hmerge).symm⟩

theorem IsItem.exists_reading (h : IsItem n) (huntagged : n.explicitTag? = none) :
    ∃ s m, n = .scalar s ∧ s.tag? = none ∧ s.meaning = .ok m ∧ m ≠ .null := by
  obtain ⟨⟨s, rfl⟩, hkind⟩ := h
  simp only [IsNumber, IsText, Yaml.Node.tag] at hkind
  obtain ⟨m, hm, htag⟩ := exists_untagged_reading huntagged (by grind)
  refine ⟨s, m, rfl, huntagged, hm, ?_⟩
  rintro rfl
  simp [htag, Meaning.tag] at hkind

/-- A number without a tag is not quoted. -/
theorem exists_eq_plain (h : IsItem n) (huntagged : n.explicitTag? = none) (hnumber : IsNumber n) :
    ∃ line text, n = .scalar (.plain line text) := by
  obtain ⟨⟨⟨line, tag?, text, quoted⟩, rfl⟩, -⟩ := h
  obtain rfl : tag? = none := huntagged
  cases quoted with
  | true => simp [IsNumber, Yaml.Node.tag, Yaml.Scalar.tag] at hnumber
  | false => exact ⟨line, text, rfl⟩

theorem IsItem.isReadable (h : IsItem n) (huntagged : n.explicitTag? = none) : n.IsReadable := by
  obtain ⟨s, m, rfl, -, hm, hnull⟩ := h.exists_reading huntagged
  exact Yaml.Node.isReadable_scalar hm hnull

variable [Decoding]

/-- **Items are decoded one by one**: the elements of a list stand to its items as the decoding of
one item says. -/
theorem decodeAs_items_iff (h : Decoding.IsElementwise) {α : Type} {target : Target α} {line : Nat}
    {tag? : Option String} {f : List α → AttrValue} {v : AttrValue} {R : Yaml.Node → α → Prop}
    (hitems : ∀ n ∈ items, IsItem n) (huntagged : ∀ n ∈ items, n.explicitTag? = none)
    (hread : ∀ n ∈ items, ∀ a, Decoding.decode target 0 n = .ok a ↔ R n a) :
    (do return f (← decodeAs .decode target 1 (.sequence line tag? items))) = Except.ok v ↔
      ∃ vs, List.Forall₂ R items vs ∧ v = f vs := by
  have hreadable : ∀ n ∈ items, n.IsReadable := fun n hn =>
    (hitems n hn).isReadable (huntagged n hn)
  have hvalues (vs : List α) :
      decodeAs .decode target 1 (.sequence line tag? items) = .ok vs ↔ List.Forall₂ R items vs :=
    decodeAs_eq_ok_iff.trans ((h.items hreadable).trans (forall₂_congr_left hread))
  simp only [bind_eq_ok_iff, pure_eq_ok_iff, @eq_comm _ v, hvalues]

/-- Any item is a text as it is written. -/
theorem decode_text_iff (h : Decoding.IsElementwise) (hitem : IsItem n)
    (huntagged : n.explicitTag? = none) {text : String} :
    Decoding.decode .text 0 n = .ok text ↔ text = n.text := by
  obtain ⟨s, m, rfl, htag, hm, hnull⟩ := hitem.exists_reading huntagged
  rw [h.text htag hm hnull, Except.ok.injEq, eq_comm]
  rfl

end

/-! ## Accepted lists -/

/-- A list is an attribute: its items are numbers and texts, not both, and if all of them are
integers they fit in 64 bits. -/
structure WritesList [Resolution] (items : List Yaml.Node) : Prop where
  scalars : ∀ n ∈ items, IsItem n
  unmixed : ¬ ((∃ n ∈ items, IsText n) ∧ ∃ n ∈ items, IsNumber n)
  fits : (∀ n ∈ items, n.tag = "!!int") →
    ∀ n ∈ items, ∀ i, n.meaning? = some (.int i) → InRange i

/-- A value has one element for each item of a list, in order: texts and integers are those of the
items, and floating-point numbers are rounded. -/
def ListsItems [Resolution] (items : List Yaml.Node) : AttrValue → Prop
  | .strings texts => List.Forall₂ (fun n text => text = n.text) items texts
  | .floats xs => List.Forall₂ (fun n x => StandsFor .float32 n (.single x)) items xs
  | .ints is => List.Forall₂ (fun n i => StandsFor .int64 n (.int i)) items is
  | _ => False

section

variable [Resolution] {items items' : List Yaml.Node} {line : Nat} {tag? : Option String}
  {v : AttrValue}

/-- The type of a list says what its items are. -/
theorem listType_cases (hitems : ∀ n ∈ items, IsItem n) :
    listType items = .strings ∧ (∃ n ∈ items, IsText n) ∨
      listType items = .floats ∧ (∃ n ∈ items, n.tag = "!!float") ∧ (∀ n ∈ items, IsNumber n) ∨
      listType items = .ints ∧ ∀ n ∈ items, n.tag = "!!int" := by
  by_cases htext : ∃ n ∈ items, IsText n
  · exact .inl ⟨if_pos htext, htext⟩
  · have hnumbers : ∀ n ∈ items, IsNumber n := fun n hn =>
      (hitems n hn).2.resolve_right fun h => htext ⟨n, hn, h⟩
    by_cases hfloat : ∃ n ∈ items, n.tag = "!!float"
    · exact .inr (.inl ⟨by rw [listType, if_neg htext, if_pos hfloat], hfloat, hnumbers⟩)
    · refine .inr (.inr ⟨by rw [listType, if_neg htext, if_neg hfloat], fun n hn => ?_⟩)
      exact (hnumbers n hn).resolve_right fun h => hfloat ⟨n, hn, h⟩

theorem exists_standsFor_single {n : Yaml.Node} (h : IsItem n) (huntagged : n.explicitTag? = none)
    (hnumber : IsNumber n) : ∃ x, StandsFor .float32 n (.single x) := by
  obtain ⟨line, text, rfl⟩ := exists_eq_plain h huntagged hnumber
  rcases hnumber.reading with ⟨i, -, hm⟩ | ⟨x, -, hm⟩
  · exact ⟨_, .rounded (meaning?_scalar hm)⟩
  · exact ⟨_, .single (meaning?_scalar hm)⟩

theorem exists_standsFor_int_iff {n : Yaml.Node} (h : IsItem n) (huntagged : n.explicitTag? = none)
    (hint : n.tag = "!!int") :
    (∃ i, StandsFor .int64 n (.int i)) ↔ ∀ i, n.meaning? = some (.int i) → InRange i := by
  obtain ⟨line, text, rfl⟩ := exists_eq_plain h huntagged (.inl hint)
  rcases IsNumber.reading (.inl hint) with ⟨i, -, hm⟩ | ⟨x, htag, -⟩
  · simp [standsFor_int64_iff (meaning?_scalar hm), meaning?_scalar hm]
  · simp [Yaml.Node.tag, htag] at hint

/-- **The second pass fails only at an integer that does not fit**, in a list of integers. -/
theorem exists_listsItems_iff (hitems : ∀ n ∈ items, IsItem n)
    (huntagged : ∀ n ∈ items, n.explicitTag? = none) :
    (∃ v : AttrValue, v.type = listType items ∧ ListsItems items v) ↔
      ((∀ n ∈ items, n.tag = "!!int") →
        ∀ n ∈ items, ∀ i, n.meaning? = some (.int i) → InRange i) := by
  obtain ⟨htype, n, hn, htext⟩ | ⟨htype, ⟨n, hn, hfloat⟩, hnumbers⟩ | ⟨htype, hints⟩ :=
    listType_cases hitems <;> rw [htype]
  · refine iff_of_true ⟨.strings (items.map Yaml.Node.text), rfl, ?_⟩ fun hints => ?_
    · exact forall₂_map_eq_iff.mpr rfl
    · exact absurd (.inl (hints n hn)) (not_isNumber_of_isText htext)
  · obtain ⟨xs, hxs⟩ := exists_forall₂_iff.mpr fun n hn =>
      exists_standsFor_single (hitems n hn) (huntagged n hn) (hnumbers n hn)
    refine iff_of_true ⟨.floats xs, rfl, hxs⟩ fun hints => ?_
    simp [hints n hn] at hfloat
  · -- here the items have to fit, and then each is its own element
    have hvalue : (∃ v : AttrValue, v.type = .ints ∧ ListsItems items v) ↔
        ∃ is, List.Forall₂ (fun n i => StandsFor .int64 n (.int i)) items is := by
      simp only [AttrValue.type_eq_ints_iff]
      constructor
      · rintro ⟨_, ⟨is, rfl⟩, h⟩
        exact ⟨is, h⟩
      · rintro ⟨is, h⟩
        exact ⟨_, ⟨is, rfl⟩, h⟩
    rw [hvalue, exists_forall₂_iff, forall_prop_of_true hints]
    exact forall₂_congr fun n hn =>
      exists_standsFor_int_iff (hitems n hn) (huntagged n hn) (hints n hn)

/-! ## Order -/

theorem writesList_perm_iff (hperm : items'.Perm items) : WritesList items' ↔ WritesList items := by
  have hof {items items' : List Yaml.Node} (hperm : items'.Perm items) (h : WritesList items) :
      WritesList items' := by
    obtain ⟨hscalars, hunmixed, hfits⟩ := h
    simp only [← hperm.mem_iff] at hscalars hunmixed hfits
    exact ⟨hscalars, hunmixed, hfits⟩
  exact ⟨hof hperm.symm, hof hperm⟩

theorem listType_of_perm (hperm : items'.Perm items) : listType items' = listType items := by
  simp only [listType, hperm.mem_iff]

/-! ## The two passes -/

variable [Decoding]

/-- **The second pass gives the items**, as elements of the chosen type. -/
theorem decodeItems_eq_ok_iff (h : Decoding.IsElementwise) (hitems : ∀ n ∈ items, IsItem n)
    (huntagged : ∀ n ∈ items, n.explicitTag? = none) :
    decodeItems (.sequence line tag? items) (listType items) = .ok v ↔
      v.type = listType items ∧ ListsItems items v := by
  have hplain {n : Yaml.Node} (hn : n ∈ items) (hnumber : IsNumber n) :=
    exists_eq_plain (hitems n hn) (huntagged n hn) hnumber
  obtain ⟨htype, -⟩ | ⟨htype, -, hnumbers⟩ | ⟨htype, hints⟩ := listType_cases hitems <;> rw [htype]
  · refine (decodeAs_items_iff h hitems huntagged fun n hn _ =>
      decode_text_iff h (hitems n hn) (huntagged n hn)).trans ?_
    cases v <;> simp [AttrValue.type, ListsItems]
  · refine (decodeAs_items_iff h hitems huntagged fun n hn _ =>
      h.decode_single_iff (hplain hn (hnumbers n hn)) (hnumbers n hn)).trans ?_
    cases v <;> simp [AttrValue.type, ListsItems]
  · refine (decodeAs_items_iff h hitems huntagged fun n hn _ =>
      h.decode_int_iff (hplain hn (.inl (hints n hn))) (hints n hn)).trans ?_
    cases v <;> simp [AttrValue.type, ListsItems]

theorem readList_eq_ok_iff_listsItems (h : Decoding.IsElementwise)
    (huntagged : ∀ n ∈ items, n.explicitTag? = none) :
    readList (.sequence line tag? items) items = .ok v ↔
      WritesList items ∧ v.type = listType items ∧ ListsItems items v := by
  rw [readList_eq_ok_iff]
  constructor
  · rintro ⟨hitems, hunmixed, hv⟩
    have hlists := (decodeItems_eq_ok_iff h hitems huntagged).mp hv
    exact ⟨⟨hitems, hunmixed, (exists_listsItems_iff hitems huntagged).mp ⟨v, hlists⟩⟩, hlists⟩
  · rintro ⟨⟨hitems, hunmixed, -⟩, hlists⟩
    exact ⟨hitems, hunmixed, (decodeItems_eq_ok_iff h hitems huntagged).mpr hlists⟩

theorem exists_readList_iff (h : Decoding.IsElementwise)
    (huntagged : ∀ n ∈ items, n.explicitTag? = none) :
    (∃ v, readList (.sequence line tag? items) items = .ok v) ↔ WritesList items := by
  simp only [readList_eq_ok_iff_listsItems h huntagged, exists_and_left]
  refine and_iff_left_of_imp fun hwrites => ?_
  exact (exists_listsItems_iff hwrites.scalars huntagged).mpr hwrites.fits

/-- Whatever decodes lists item by item, the order of the items does not count. -/
theorem readList_perm (h : Decoding.IsElementwise)
    (huntagged : ∀ n ∈ items, n.explicitTag? = none) (hperm : items'.Perm items) :
    ((∃ v, readList (.sequence line tag? items') items' = .ok v) ↔
      ∃ v, readList (.sequence line tag? items) items = .ok v) ∧
    ∀ v v', readList (.sequence line tag? items) items = .ok v →
      readList (.sequence line tag? items') items' = .ok v' → v'.type = v.type := by
  have huntagged' : ∀ n ∈ items', n.explicitTag? = none := fun n hn =>
    huntagged n (hperm.mem_iff.mp hn)
  refine ⟨?_, fun v v' hv hv' => ?_⟩
  · rw [exists_readList_iff h huntagged', exists_readList_iff h huntagged,
      writesList_perm_iff hperm]
  · obtain ⟨-, htype, -⟩ := (readList_eq_ok_iff_listsItems h huntagged).mp hv
    obtain ⟨-, htype', -⟩ := (readList_eq_ok_iff_listsItems h huntagged').mp hv'
    rw [htype, htype', listType_of_perm hperm]

theorem readValue_sequence (htag : tag? ≠ some tensorTag) :
    readValue (.sequence line tag? items) = readList (.sequence line tag? items) items := by
  have hother : (Yaml.Node.sequence line tag? items).explicitTag? ≠ some tensorTag := htag
  simp [readValue, hother]

end

/-- **Lists are typed by their items, without loss.**  A list is accepted exactly if it has only
numbers or only texts, and integers that fit in 64 bits if there is nothing else.  The attribute is
of texts if there is a text, of floating-point numbers if there is one, and of integers otherwise;
it has an element for each item, in order.  In another order the same items are accepted or refused
alike, and have the same type. -/
theorem readValue_iff_writesList (line : Nat) (tag? : Option String) (items : List Yaml.Node)
    (htag : tag? ≠ some tensorTag) (huntagged : ∀ n ∈ items, n.explicitTag? = none) :
    readValue (.sequence line tag? items) = readList (.sequence line tag? items) items ∧
    ((∃ v, readValue (.sequence line tag? items) = .ok v) ↔ WritesList items) ∧
    (∀ v, readValue (.sequence line tag? items) = .ok v →
      v.type = listType items ∧ ListsItems items v) ∧
    ∀ items', items'.Perm items →
      ((∃ v, readValue (.sequence line tag? items') = .ok v) ↔
        ∃ v, readValue (.sequence line tag? items) = .ok v) ∧
      ∀ v v', readValue (.sequence line tag? items) = .ok v →
        readValue (.sequence line tag? items') = .ok v' → v'.type = v.type := by
  simp only [readValue_sequence htag]
  refine ⟨trivial, exists_readList_iff isElementwise_decoding huntagged, fun v hv => ?_,
    fun _ => readList_perm isElementwise_decoding huntagged⟩
  exact ((readList_eq_ok_iff_listsItems isElementwise_decoding huntagged).mp hv).2

/-- Three numbers: the second is no integer, and the third does not fit in 64 bits. -/
def listOfNumbers : List Yaml.Node :=
  ["1", "2.5", "18446744073709551615"].map fun text => .scalar (.plain 1 text)

theorem readValue_iff_writesList_numbers :
    (∀ n ∈ listOfNumbers, n.explicitTag? = none) ∧
      ∃ xs, readValue (.sequence 1 none listOfNumbers) = .ok (.floats xs) ∧ xs.length = 3 := by
  have huntagged : ∀ n ∈ listOfNumbers, n.explicitTag? = none :=
    List.forall_mem_map.mpr fun _ _ => rfl
  have hscalars : ∀ n ∈ listOfNumbers, ∃ s, n = .scalar s :=
    List.forall_mem_map.mpr fun _ _ => ⟨_, rfl⟩
  have hnumbers : ∀ n ∈ listOfNumbers, IsNumber n := by
    refine List.forall_mem_map.mpr ?_
    show ∀ text ∈ ["1", "2.5", "18446744073709551615"],
      (Yaml.Scalar.plain 1 text).tag = "!!int" ∨ (Yaml.Scalar.plain 1 text).tag = "!!float"
    decide
  have htype : listType listOfNumbers = .floats := by decide
  have hwrites : WritesList listOfNumbers := by
    refine ⟨fun n hn => ⟨hscalars n hn, .inl (hnumbers n hn)⟩, ?_, fun hints => ?_⟩
    · rintro ⟨⟨n, hn, htext⟩, -⟩
      exact not_isNumber_of_isText htext (hnumbers n hn)
    · exact absurd (hints (.scalar (.plain 1 "2.5")) (by simp [listOfNumbers])) (by decide)
  obtain ⟨-, haccepted, hlists, -⟩ :=
    readValue_iff_writesList 1 none listOfNumbers nofun huntagged
  obtain ⟨v, hv⟩ := haccepted.mpr hwrites
  obtain ⟨hv', hitems⟩ := hlists v hv
  rw [htype] at hv'
  refine ⟨huntagged, ?_⟩
  cases v with
  | floats xs => exact ⟨xs, hv, hitems.length_eq.symm⟩
  | untyped => exact hitems.elim
  | _ => cases hv'

end TensorGraph.GraphFile
