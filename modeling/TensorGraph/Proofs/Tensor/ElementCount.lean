import TensorGraph.Proofs.Number.Numerals
import TensorGraph.Proofs.Tensor.Size
import TensorGraph.Proofs.Text.Delimited
import TensorGraph.Tensor.ValueType

/-!
# Proofs/Tensor/ElementCount — a printed element count is never wrong

    dimensions   3 × 4 × 1000     0 × 7     2⁶² × 2     batch × 3
    printed      12,000           0         ?           ?

The digits of a count are printed in groups of three, counted from the right (`Text.IsGrouped`).
Without the commas they are the decimal numeral of the count (`Text.filter_commaEveryThree`,
`Text.isDecimal_toDigits`), and the count is the product of the dimensions.  So what is printed is a
question mark or the product (`ValueType.elementsText_exact`).
-/

namespace TensorGraph

open Number

namespace Text

/-! ## Decimal numerals -/

/-- Characters write a number in base ten, without a leading zero. -/
structure IsDecimal (cs : List Char) (n : Nat) : Prop where
  digits : AreDigits 10 cs
  value : digitsIn 10 cs = n
  unpadded : LeadsWithZero cs → cs = ['0']

section

variable {n : Nat} {c : Char} {cs : List Char}

theorem digitsIn_ten : digitsIn 10 cs = Nat.ofDigitChars 10 cs 0 := by
  simp only [digitsIn, digitsFrom, Nat.ofDigitChars_eq_foldl, digitOf, Nat.mul_comm]

theorem isDigitOf_ten (h : c.isDigit = true) : IsDigitOf 10 c := by
  have hle : c.toNat ≤ '9'.toNat := by
    simp only [Char.isDigit, Bool.and_eq_true, decide_eq_true_eq] at h
    exact h.2
  have hzero : '0'.toNat = 48 := rfl
  have hnine : '9'.toNat = 57 := rfl
  exact ⟨h, by rw [digitOf]; omega⟩

/-- Only the numeral of zero begins with a zero. -/
theorem eq_zero_of_leadsWithZero (n : Nat) : LeadsWithZero (Nat.toDigits 10 n) → n = 0 := by
  induction n using Nat.strongRecOn with
  | ind n ih =>
    intro h
    rw [Nat.toDigits_eq_if (by decide)] at h
    split at h
    · simpa [LeadsWithZero] using h
    · -- the first digit is that of the tenth part
      have hhead : LeadsWithZero (Nat.toDigits 10 (n / 10)) := by
        rwa [LeadsWithZero, List.head?_append_of_ne_nil _ Nat.toDigits_ne_nil] at h
      have hzero : n / 10 = 0 := ih (n / 10) (by omega) hhead
      omega

theorem isDecimal_toDigits (n : Nat) : IsDecimal (Nat.toDigits 10 n) n where
  digits := ⟨Nat.toDigits_ne_nil, fun _ hc =>
    isDigitOf_ten (Nat.isDigit_of_mem_toDigits (by decide) (by decide) hc)⟩
  value := by rw [digitsIn_ten, Nat.ofDigitChars_ten_toDigits]
  unpadded h := by rw [eq_zero_of_leadsWithZero n h, Nat.toDigits_zero]

end

/-! ## Groups of three -/

/-- Characters in groups of three, counted from the right, with a comma in front of each group but
the first, which may be shorter. -/
inductive IsGrouped : List Char → Prop
  | first {cs : List Char} (hlow : 1 ≤ cs.length) (hhigh : cs.length ≤ 3) (hcs : ',' ∉ cs) :
      IsGrouped cs
  | more {cs group : List Char} (h : IsGrouped cs) (hthree : group.length = 3)
      (hgroup : ',' ∉ group) : IsGrouped (cs ++ ',' :: group)

section

variable {cs rest : List Char} {a b c d : Char}

theorem notMem_group (h : ',' ∉ a :: b :: c :: d :: rest) :
    ',' ∉ [c, b, a] ∧ ',' ∉ d :: rest := by
  simp only [List.mem_cons, List.not_mem_nil, not_or] at h ⊢
  obtain ⟨ha, hb, hc, hrest⟩ := h
  exact ⟨⟨hc, hb, ha, not_false⟩, hrest⟩

/-- **The commas can be taken out again.** -/
theorem filter_commaEveryThree (h : ',' ∉ cs) : (commaEveryThree cs).filter (· ≠ ',') = cs := by
  fun_induction commaEveryThree cs with
  | case1 a b c d rest ih =>
    obtain ⟨hgroup, hrest⟩ := notMem_group h
    have hkept := ih hrest
    simp only [List.mem_cons, List.not_mem_nil, not_or, or_false] at hgroup
    simp only [ne_eq, decide_not] at hkept ⊢
    simp [hkept, Ne.symm hgroup.1, Ne.symm hgroup.2.1, Ne.symm hgroup.2.2]
  | case2 short _ =>
    refine List.filter_eq_self.mpr fun c hc => ?_
    have hne : c ≠ ',' := fun heq => h (heq ▸ hc)
    simpa using hne

/-- **Read from the right, a comma follows every third character.** -/
theorem isGrouped_commaEveryThree (hne : cs ≠ []) (h : ',' ∉ cs) :
    IsGrouped (commaEveryThree cs).reverse := by
  fun_induction commaEveryThree cs with
  | case1 a b c d rest ih =>
    obtain ⟨hgroup, hrest⟩ := notMem_group h
    simpa using (ih (List.cons_ne_nil d rest) hrest).more rfl hgroup
  | case2 short hshort =>
    have hlow : 1 ≤ short.length := List.length_pos_iff.mpr hne
    have hhigh : short.length ≤ 3 := by
      match short, hshort with
      | [], _ | [_], _ | [_, _], _ | [_, _, _], _ => simp
      | a :: b :: c :: d :: rest, hlong => exact (hlong a b c d rest rfl).elim
    exact .first (by simpa using hlow) (by simpa using hhigh) (by simpa using h)

/-- A text shows a number: it is grouped, and a decimal numeral without its commas. -/
structure ShowsNumber (text : String) (n : Nat) : Prop where
  grouped : IsGrouped text.toList
  numeral : IsDecimal (text.toList.filter (· ≠ ',')) n

theorem ShowsNumber.ne_questionMark {text : String} {n : Nat} (h : ShowsNumber text n) :
    text ≠ "?" := by
  rintro rfl
  exact absurd (h.numeral.digits.2 '?' (by decide)).1 (by decide)

theorem showsNumber_grouped (n : Nat) : ShowsNumber (grouped n) n := by
  have hcomma : ',' ∉ (Nat.toDigits 10 n).reverse := fun h =>
    notMem_toDigits (by decide) n (List.mem_reverse.mp h)
  have hne : (Nat.toDigits 10 n).reverse ≠ [] := by simp
  have htext : (grouped n).toList = (commaEveryThree (Nat.toDigits 10 n).reverse).reverse := by
    rw [grouped, String.toList_ofList]
  refine ⟨?_, ?_⟩
  · rw [htext]
    exact isGrouped_commaEveryThree hne hcomma
  · rw [htext, List.filter_reverse, filter_commaEveryThree hcomma, List.reverse_reverse]
    exact isDecimal_toDigits n

end

end Text

/-! ## The count of a tensor type -/

namespace ValueType

/-- A tensor type with static dimensions of these sizes. -/
def HasSizes (t : ValueType) (ns : List Nat) : Prop :=
  t.kind = .tensor ∧ t.dims? = some (ns.map .static)

/-- There is nothing to multiply: the type is no tensor type, its shape is not known, or one of its
dimensions is not static. -/
def LacksSizes (t : ValueType) : Prop :=
  t.kind ≠ .tensor ∨ t.dims? = none ∨ ∃ dims, t.dims? = some dims ∧ ∃ d ∈ dims, ¬ d.isStatic

variable {t : ValueType} {ns : List Nat} {shown : Nat → String}

theorem lacksSizes_or_hasSizes (t : ValueType) : t.LacksSizes ∨ ∃ ns, t.HasSizes ns := by
  by_cases hkind : t.kind = .tensor
  · cases hdims : t.dims? with
    | none => exact .inl (.inr (.inl hdims))
    | some dims =>
      by_cases hstatic : ∀ d ∈ dims, d.isStatic
      · have hsizes : dims = (Shape.sizes ⟨t.dtype, dims⟩).map .static :=
          Shape.dims_eq_map_sizes (s := ⟨t.dtype, dims⟩) (List.all_eq_true.mpr hstatic)
        exact .inr ⟨_, hkind, hdims.trans (congrArg some hsizes)⟩
      · push Not at hstatic
        exact .inl (.inr (.inr ⟨dims, hdims, hstatic⟩))
  · exact .inl (.inl hkind)

theorem elementsTextBy_of_lacksSizes (h : t.LacksSizes) : t.elementsTextBy shown = "?" := by
  rw [elementsTextBy]
  split
  next dims hkind hdims =>
    obtain hne | hnone | ⟨dims', hdims', d, hd, hstatic⟩ := h
    · exact absurd hkind hne
    · exact nomatch hdims.symm.trans hnone
    · obtain rfl : dims = dims' := Option.some.inj (hdims.symm.trans hdims')
      have hall : ¬ dims.all Dim.isStatic := fun hall => hstatic (List.all_eq_true.mp hall d hd)
      rw [Shape.size?, Shape.sizeFrom_of_not_static hall]
  next => rfl

theorem elementsTextBy_of_hasSizes (h : t.HasSizes ns) :
    t.elementsTextBy shown
      = if (leadingSizes ns).prod ≤ maxElements then shown ns.prod else "?" := by
  simp only [elementsTextBy, h.1, h.2, Shape.size?_map_static]
  by_cases hle : (leadingSizes ns).prod ≤ maxElements
  · rw [if_pos hle, if_pos hle]
  · rw [if_neg hle, if_neg hle]

theorem elementsTextBy_eq_questionMark_iff (hshown : ∀ n, Text.ShowsNumber (shown n) n)
    (h : t.HasSizes ns) :
    t.elementsTextBy shown = "?" ↔ maxElements < (leadingSizes ns).prod := by
  rw [elementsTextBy_of_hasSizes h]
  split
  · have hne := (hshown ns.prod).ne_questionMark
    exact iff_of_false hne (by omega)
  · exact iff_of_true rfl (by omega)

/-- **A count is never wrong where numbers are shown right**, whoever shows them. -/
theorem elementsTextBy_exact (hshown : ∀ n, Text.ShowsNumber (shown n) n) (t : ValueType) :
    (t.elementsTextBy shown = "?" ∨
        ∃ ns, t.HasSizes ns ∧ Text.ShowsNumber (t.elementsTextBy shown) ns.prod) ∧
      (t.LacksSizes → t.elementsTextBy shown = "?") ∧
      ∀ ns, t.HasSizes ns →
        (t.elementsTextBy shown = "?" ↔ maxElements < (leadingSizes ns).prod) := by
  refine ⟨?_, elementsTextBy_of_lacksSizes, fun _ => elementsTextBy_eq_questionMark_iff hshown⟩
  obtain hlacks | ⟨ns, hns⟩ := lacksSizes_or_hasSizes t
  · exact .inl (elementsTextBy_of_lacksSizes hlacks)
  · have htext : t.elementsTextBy shown = _ := elementsTextBy_of_hasSizes hns
    split at htext
    · exact .inr ⟨ns, hns, htext ▸ hshown ns.prod⟩
    · exact .inl htext

/-- **A printed element count is never wrong.**  It is a question mark or shows the product of the
dimensions; it is a question mark if there is nothing to multiply, and otherwise exactly if the
sizes in front of the first zero are too great. -/
theorem elementsText_exact (t : ValueType) :
    (t.elementsText = "?" ∨ ∃ ns, t.HasSizes ns ∧ Text.ShowsNumber t.elementsText ns.prod) ∧
      (t.LacksSizes → t.elementsText = "?") ∧
      ∀ ns, t.HasSizes ns → (t.elementsText = "?" ↔ maxElements < (leadingSizes ns).prod) :=
  elementsTextBy_exact Text.showsNumber_grouped t

example : (ofShape ⟨.float32, [.static 3, .static 4, .static 1000]⟩).elementsText = "12,000" := by
  decide +kernel

end ValueType

end TensorGraph
