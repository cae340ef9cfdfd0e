import TensorGraph.Proofs.Number.Numerals
import TensorGraph.Yaml.Node

/-!
# Proofs/Yaml/Numbers — scalars that read as integers

A plain scalar reads as an integer only where it writes a number (`number?_of_plainMeaning`), and
then without its underscores and in the base of its prefix (`readsNumerals_plainMeaning`).  The
integer is never below the range of 64 bits (`le_of_plainMeaning`); unsigned words may lie above it.
A decimal numeral within the range is read in the base that its first digit gives, if it is read as
an integer at all (`numeral_of_integer?`): `019` is not, because nine is no digit of base eight.
-/

namespace TensorGraph.Yaml

open Number

variable {timestamps : Bool} {text : String} {cs : List Char} {i j : Int}

/-! ## Tags and readings -/

theorem Meaning.tag_eq_int_iff {m : Meaning} : m.tag = "!!int" ↔ ∃ i, m = .int i := by
  cases m <;> simp [Meaning.tag]

theorem Meaning.tag_eq_float_iff {m : Meaning} : m.tag = "!!float" ↔ ∃ x, m = .float x := by
  cases m <;> simp [Meaning.tag]

/-- A plain scalar has the tag of its reading, unless it asks for a merge. -/
theorem Scalar.plain_reading [Resolution] {line : Nat}
    (h : (Scalar.plain line text).tag ≠ "!!merge") :
    (Scalar.plain line text).tag = (Resolution.plain true text).tag ∧
      (Scalar.plain line text).meaning = .ok (Resolution.plain true text) := by
  have hmerge : text ≠ "<<" := by
    rintro rfl
    exact h rfl
  simp [Scalar.plain, Scalar.tag, Scalar.meaning, hmerge]

theorem tag_ne_int_of_mem_meaningfulWords : ∀ e ∈ meaningfulWords, e.2.tag ≠ "!!int" := by decide

/-- **Only numbers read as integers.** -/
theorem number?_of_plainMeaning (h : plainMeaning timestamps text = .int i) :
    number? text.toList = some (.int i) := by
  rw [plainMeaning] at h
  split at h
  · rename_i m hword
    obtain ⟨before, after, hwords, -⟩ := List.lookup_eq_some_iff.mp hword
    have hmem : (text, m) ∈ meaningfulWords := by simp [hwords]
    exact absurd (congrArg Meaning.tag h) (tag_ne_int_of_mem_meaningfulWords _ hmem)
  · split at h
    · rename_i rest _
      cases hpoint : pointNumber? ('.' :: rest) <;> simp [hpoint] at h
    · rename_i c rest _ hchars
      rw [hchars]
      split at h
      · split at h
        · cases h
        · cases hnumber : number? (c :: rest) with
          | none => simp [hnumber] at h
          | some m => simpa [hnumber] using h
      · cases h
    · cases h

/-! ## Signed integers and words -/

theorem integer?_cases (h : integer? cs = some i) :
    integerAnyBase cs = .ok i ∨
      (∃ e, integerAnyBase cs = .error e) ∧ ∃ n : Nat, wordAnyBase cs = .ok n ∧ i = n := by
  rw [integer?] at h
  split at h
  · rename_i k hk
    exact .inl (Option.some.inj h ▸ hk)
  · rename_i e he
    split at h
    · rename_i n hn
      exact .inr ⟨⟨e, he⟩, n, hn, (Option.some.inj h).symm⟩
    · cases h

theorem prefixedInteger?_cases {base : Nat} (h : prefixedInteger? base cs = some i) :
    integerInBase base cs = .ok i ∨ ∃ n : Nat, i = n := by
  rw [prefixedInteger?] at h
  split at h
  · rename_i k hk
    exact .inl (Option.some.inj h ▸ hk)
  · split at h
    · rename_i n hn
      exact .inr ⟨n, (Option.some.inj h).symm⟩
    · cases h

theorem number?_cases (h : number? cs = some (.int i)) :
    integer? (cs.filter (· != '_')) = some i ∨ laxInteger? (cs.filter (· != '_')) = some i := by
  simp only [number?] at h
  split at h
  · rename_i k hk
    obtain rfl : k = i := by simpa using h
    exact .inl hk
  · split at h
    · simp at h
    · exact .inr (by simpa using h)

/-- An integer is what its text writes without underscores, in the base that the prefix gives. -/
def Resolution.ReadsNumerals [Resolution] : Prop :=
  ∀ {text : String} {i : Int}, Resolution.plain true text = .int i →
    integer? (text.toList.filter (· != '_')) = some i ∨
      laxInteger? (text.toList.filter (· != '_')) = some i

/-- **Plain scalars are read as numerals.** -/
theorem readsNumerals_plainMeaning : Resolution.ReadsNumerals := fun h =>
  number?_cases (number?_of_plainMeaning h)

/-! ## The range below -/

theorem le_of_signedBy {word : List Char → Except NumeralFault Nat}
    (h : signedBy word cs = .ok i) : -twoTo 63 ≤ i := by
  obtain ⟨n, -, -, hrange⟩ := signedBy_eq_ok_iff.mp h
  exact hrange.1

theorem le_of_integer? (h : integer? cs = some i) : -twoTo 63 ≤ i := by
  rcases integer?_cases h with hsigned | ⟨-, n, -, rfl⟩
  · exact le_of_signedBy hsigned
  · omega

theorem le_of_prefixedInteger? {base : Nat} (h : prefixedInteger? base cs = some i) :
    -twoTo 63 ≤ i := by
  rcases prefixedInteger?_cases h with hsigned | ⟨n, rfl⟩
  · exact le_of_signedBy hsigned
  · omega

theorem le_of_toOption {base : Nat} (h : (integerInBase base cs).toOption = some i) :
    -twoTo 63 ≤ i := by
  cases hsigned : integerInBase base cs with
  | error e => simp [hsigned, Except.toOption] at h
  | ok k =>
    obtain rfl : k = i := by simpa [hsigned, Except.toOption] using h
    exact le_of_signedBy hsigned

theorem le_of_laxInteger? (h : laxInteger? cs = some i) : -twoTo 63 ≤ i := by
  rw [laxInteger?.eq_def] at h
  split at h
  · exact le_of_prefixedInteger? h
  · exact le_of_prefixedInteger? h
  · exact le_of_toOption h
  · exact le_of_toOption h
  · cases h

/-- **No integer that a scalar reads as lies below the range of 64 bits.** -/
theorem le_of_plainMeaning (h : plainMeaning timestamps text = .int i) : -twoTo 63 ≤ i := by
  rcases number?_cases (number?_of_plainMeaning h) with hint | hlax
  · exact le_of_integer? hint
  · exact le_of_laxInteger? hlax

/-! ## Decimal numerals -/

theorem mem_unsigned {c : Char} (h : c ∈ cs) : c = '+' ∨ c = '-' ∨ c ∈ unsigned cs := by
  rw [unsigned.eq_def]
  split
  · rcases List.mem_cons.mp h with rfl | hc
    · exact .inl rfl
    · exact .inr (.inr hc)
  · rcases List.mem_cons.mp h with rfl | hc
    · exact .inr (.inl rfl)
    · exact .inr (.inr hc)
  · exact .inr (.inr h)

theorem filter_underscores (h : AreDigits 10 (unsigned cs)) : cs.filter (· != '_') = cs := by
  rw [List.filter_eq_self]
  intro c hc
  rcases mem_unsigned hc with rfl | rfl | hdigit
  · rfl
  · rfl
  · rw [bne_iff_ne]
    rintro rfl
    exact h.notMem rfl hdigit

theorem laxInteger?_of_digits (h : AreDigits 10 (unsigned cs)) : laxInteger? cs = none := by
  have hb : 'b' ∉ unsigned cs := h.notMem rfl
  have ho : 'o' ∉ unsigned cs := h.notMem rfl
  rw [laxInteger?.eq_def]
  split
  · simp [unsigned] at hb
  · simp [unsigned] at ho
  · simp [unsigned] at hb
  · simp [unsigned] at ho
  · rfl

/-- A word has no sign. -/
theorem unsigned_eq_of_wordAnyBase {n : Nat} (h : wordAnyBase cs = .ok n) : unsigned cs = cs := by
  rw [unsigned.eq_def]
  split
  · rename_i rest
    have hword : wordAnyBase ('+' :: rest) = .error .malformed := rfl
    rw [hword] at h
    cases h
  · rename_i rest
    have hword : wordAnyBase ('-' :: rest) = .error .malformed := rfl
    rw [hword] at h
    cases h
  · rfl

theorem inRange_signed_mono {m n : Nat} (hle : m ≤ n) (h : InRange (signed cs n)) :
    InRange (signed cs m) := by
  have hpos : 0 < twoTo 63 := by decide
  simp only [InRange, signed] at h ⊢
  by_cases hsign : cs.head? = some '-'
  · simp only [if_pos hsign] at h ⊢
    omega
  · simp only [if_neg hsign] at h ⊢
    omega

/-- **A decimal numeral within the range** reads as an integer only in the base that its first digit
gives. -/
theorem numeral_of_integer? (hj : Numeral 10 cs j) (hrange : InRange j)
    (h : integer? (cs.filter (· != '_')) = some i ∨ laxInteger? (cs.filter (· != '_')) = some i) :
    Numeral (baseOf (unsigned cs)) cs i ∧ InRange i := by
  rw [← integerAnyBase_eq_ok_iff hj.digits]
  rw [filter_underscores hj.digits, laxInteger?_of_digits hj.digits] at h
  rcases h with hint | hlax
  · rcases integer?_cases hint with hsigned | ⟨⟨e, he⟩, n, hn, -⟩
    · exact hsigned
    · -- a word that is too large for a signed integer is too large in base ten as well
      have hplain : unsigned cs = cs := unsigned_eq_of_wordAnyBase hn
      obtain ⟨hdigits, rfl⟩ := hj
      rw [hplain] at hdigits hrange
      obtain ⟨hbase, hvalue, -⟩ := (wordAnyBase_eq_ok_iff hdigits).mp hn
      have hsigned : integerAnyBase cs = .ok (signed cs n) := by
        rw [integerAnyBase_eq_ok_iff (by rwa [hplain]), hplain, ← hvalue]
        exact ⟨⟨by rwa [hplain], by rw [hplain]⟩,
          inRange_signed_mono (digitsIn_mono baseOf_le_ten) hrange⟩
      rw [hsigned] at he
      cases he
  · cases hlax

end TensorGraph.Yaml
