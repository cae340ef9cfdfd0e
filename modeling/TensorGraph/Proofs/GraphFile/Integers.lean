import TensorGraph.Proofs.GraphFile.Decoding
import TensorGraph.Proofs.GraphFile.InputTypes

/-!
# Proofs/GraphFile/Integers — one integer as a dimension and as an attribute

    written          12    +7    007    010
    as a dimension   12     7      7     10
    as an attribute  12     7      7      8

A dimension is read in base ten, and an attribute in the base that its first digit gives.  Every
scalar that is a dimension is an integer attribute too (`exists_readValue_of_static`), and the two
numbers are the same exactly unless a leading zero is followed by more than one digit that counts
(`meansSameNumber_iff`).
-/

namespace TensorGraph.GraphFile

open Number Yaml

section

variable [Resolution] [Decoding] {line v : Nat} {text : String} {i : Int}

/-- A plain scalar that reads as an integer in range is an attribute with that value. -/
theorem readValue_int (h : Decoding.IsElementwise)
    (htag : (Yaml.Scalar.plain line text).tag = "!!int")
    (hmeaning : (Yaml.Scalar.plain line text).meaning = .ok (.int i)) (hrange : InRange i) :
    readValue (.scalar (.plain line text)) = .ok (.int (Int64.ofInt i)) := by
  have hdecode : decodeAs .decode .int 0 (.scalar (.plain line text)) = .ok (Int64.ofInt i) :=
    decodeAs_eq_ok_iff.mpr
      ((h.int rfl hmeaning _).mpr (Int64.toInt_ofInt_of_le hrange.1 hrange.2))
  have hnone : (Yaml.Node.scalar (.plain line text)).explicitTag? = none := rfl
  simp [readValue, hnone, htag, hdecode]

/-- **A dimension is an integer attribute**, read in the base that its first digit gives. -/
theorem exists_readValue_of_static (h : Decoding.IsElementwise)
    (hnumerals : Resolution.ReadsNumerals)
    (hdim : readDim (.scalar (.plain line text)) = .ok (.static v)) :
    ∃ i : Int64, readValue (.scalar (.plain line text)) = .ok (.int i) ∧
      Numeral (baseOf (unsigned text.toList)) text.toList i.toInt ∧
      (i.toInt = v ↔ ¬ (LeadsWithZero (unsigned text.toList) ∧ 8 ≤ v)) := by
  cases readDim_eq_ok_iff.mp hdim with
  | @size _ j htag htext hlow hhigh =>
    have hmerge : (Yaml.Scalar.plain line text).tag ≠ "!!merge" := by simp [htag]
    obtain ⟨htag', hmeaning⟩ := Scalar.plain_reading hmerge
    obtain ⟨i, hi⟩ := Meaning.tag_eq_int_iff.mp (htag'.symm.trans htag)
    have hj : InRange j := ⟨Int.le_trans (by decide) hlow, hhigh⟩
    obtain ⟨hnumeral, hrange⟩ := numeral_of_integer? htext hj (hnumerals hi)
    refine ⟨Int64.ofInt i, readValue_int h htag (hi ▸ hmeaning) hrange, ?_⟩
    rw [Int64.toInt_ofInt_of_le hrange.1 hrange.2, Int.toNat_of_nonneg hlow, hnumeral.eq_iff htext,
      show j.natAbs = j.toNat by omega]
    exact ⟨hnumeral, Iff.rfl⟩

end

/-- A scalar that is a static dimension is an integer attribute with the same value. -/
def MeansSameNumber [Resolution] [Decoding] (line : Nat) (text : String) : Prop :=
  ∀ v, readDim (.scalar (.plain line text)) = .ok (.static v) →
    ∃ i : Int64, readValue (.scalar (.plain line text)) = .ok (.int i) ∧ i.toInt = v

/-- A scalar is a static dimension of at least eight, written with a leading zero. -/
def HasPaddedSize [Resolution] (line : Nat) (text : String) : Prop :=
  ∃ v, readDim (.scalar (.plain line text)) = .ok (.static v) ∧
    LeadsWithZero (unsigned text.toList) ∧ 8 ≤ v

/-- Whatever reads scalars as numerals and decodes nodes item by item, a leading zero is all that
can make two numbers of one text. -/
theorem meansSameNumber_iff_of_readsNumerals [Resolution] [Decoding]
    (hnumerals : Resolution.ReadsNumerals) (h : Decoding.IsElementwise) (line : Nat)
    (text : String) : MeansSameNumber line text ↔ ¬ HasPaddedSize line text := by
  constructor
  · rintro hsame ⟨v, hv, hpadded⟩
    obtain ⟨i, hi, -, hvalue⟩ := exists_readValue_of_static h hnumerals hv
    obtain ⟨i', hi', hi'v⟩ := hsame v hv
    obtain rfl : i = i' := by simpa [hi] using hi'
    exact hvalue.mp hi'v hpadded
  · intro hpadded v hv
    obtain ⟨i, hi, -, hvalue⟩ := exists_readValue_of_static h hnumerals hv
    exact ⟨i, hi, hvalue.mpr fun hzero => hpadded ⟨v, hv, hzero⟩⟩

/-- **An integer means the same number as a dimension and as an attribute** exactly unless it has a
leading zero and is at least eight.  In any case it is an integer attribute, and its value is what
the digits write in base eight after a leading zero, and in base ten otherwise. -/
theorem meansSameNumber_iff (line : Nat) (text : String) :
    (MeansSameNumber line text ↔ ¬ HasPaddedSize line text) ∧
    ∀ v, readDim (.scalar (.plain line text)) = .ok (.static v) →
      ∃ i : Int64, readValue (.scalar (.plain line text)) = .ok (.int i) ∧
        Numeral (baseOf (unsigned text.toList)) text.toList i.toInt := by
  refine ⟨meansSameNumber_iff_of_readsNumerals readsNumerals_plainMeaning isElementwise_decoding
    line text, fun v hv => ?_⟩
  obtain ⟨i, hi, hnumeral, -⟩ :=
    exists_readValue_of_static isElementwise_decoding readsNumerals_plainMeaning hv
  exact ⟨i, hi, hnumeral⟩

/-- Twelve with a sign, and no leading zero. -/
theorem meansSameNumber_iff_twelve :
    readDim (.scalar (.plain 1 "+12")) = .ok (.static 12) ∧
      ∃ i : Int64, readValue (.scalar (.plain 1 "+12")) = .ok (.int i) ∧ i.toInt = 12 := by
  have hdim : readDim (.scalar (.plain 1 "+12")) = .ok (.static 12) := by decide
  have hpadded : ¬ HasPaddedSize 1 "+12" := by
    rintro ⟨v, -, hzero, -⟩
    exact absurd hzero (by decide)
  exact ⟨hdim, (meansSameNumber_iff 1 "+12").1.mpr hpadded 12 hdim⟩

/-- Ten as a dimension, and eight as an attribute. -/
theorem not_meansSameNumber_padded :
    ¬ MeansSameNumber 1 "010" ∧
      readDim (.scalar (.plain 1 "010")) = .ok (.static 10) ∧
      readValue (.scalar (.plain 1 "010")) = .ok (.int 8) := by
  have hdim : readDim (.scalar (.plain 1 "010")) = .ok (.static 10) := by decide
  have hvalue : readValue (.scalar (.plain 1 "010")) = .ok (.int 8) := rfl
  refine ⟨fun hsame => ?_, hdim, hvalue⟩
  obtain ⟨i, hi, hten⟩ := hsame 10 hdim
  obtain rfl : (8 : Int64) = i := by simpa [hvalue] using hi
  exact absurd hten (by decide)

end TensorGraph.GraphFile
