import Mathlib.Data.List.Induction
import TensorGraph.Number.Literal
import TensorGraph.Proofs.Results

/-!
# Proofs/Number/Numerals — what integer numerals write

    numeral           +17    -0    017    019
    in base ten        17     0     17     19
    in its own base    17     0     15     none

A numeral is an optional sign and at least one digit (`Numeral`).  Read in a fixed base it is
accepted exactly if its value fits in 64 bits (`integerInBase_eq_ok_iff`).  Where the base is left
open, a leading zero makes it eight and it is ten otherwise (`integerAnyBase_eq_ok_iff`).  The two
readings of a numeral with a leading zero agree exactly if its value is below eight
(`digitsIn_eight_eq_iff`).
-/

namespace TensorGraph.Number

/-! ## Digits -/

/-- The value of a decimal digit. -/
def digitOf (c : Char) : Nat := c.toNat - '0'.toNat

/-- The value of digits in a base, read from `acc` on. -/
def digitsFrom (base acc : Nat) (cs : List Char) : Nat :=
  cs.foldl (fun n c => n * base + digitOf c) acc

/-- The value of digits in a base. -/
def digitsIn (base : Nat) (cs : List Char) : Nat := digitsFrom base 0 cs

/-- A decimal digit that is also one of the base. -/
def IsDigitOf (base : Nat) (c : Char) : Prop := c.isDigit = true ∧ digitOf c < base

/-- At least one digit of the base, and nothing else. -/
structure AreDigits (base : Nat) (cs : List Char) : Prop where
  nonempty : cs ≠ []
  digits : ∀ c ∈ cs, IsDigitOf base c

section

variable {base acc acc' d n : Nat} {c : Char} {cs : List Char}

theorem digitValue?_of_isDigit (h : c.isDigit = true) : digitValue? c = some (digitOf c) := by
  simp [digitValue?, h, digitOf]

theorem ten_le_of_digitValue? (h : ¬ c.isDigit = true) (hd : digitValue? c = some d) : 10 ≤ d := by
  rw [digitValue?, if_neg h] at hd
  grind

theorem AreDigits.notMem (h : AreDigits base cs) (hc : c.isDigit = false) : c ∉ cs := by
  intro hmem
  rw [(h.digits c hmem).1] at hc
  cases hc

theorem digitsFrom_cons :
    digitsFrom base acc (c :: cs) = digitsFrom base (acc * base + digitOf c) cs := by
  rw [digitsFrom, List.foldl_cons, digitsFrom]

theorem digitsIn_append_singleton :
    digitsIn base (cs ++ [c]) = digitsIn base cs * base + digitOf c := by
  simp [digitsIn, digitsFrom, List.foldl_append]

theorem le_digitsFrom (hbase : 0 < base) : ∀ {cs : List Char} {acc : Nat},
    acc ≤ digitsFrom base acc cs
  | [], acc => Nat.le_refl acc
  | c :: cs, acc => by
    rw [digitsFrom_cons]
    calc acc ≤ acc * base := Nat.le_mul_of_pos_right acc hbase
      _ ≤ acc * base + digitOf c := Nat.le_add_right _ _
      _ ≤ digitsFrom base (acc * base + digitOf c) cs := le_digitsFrom hbase

theorem digitsFrom_mono {base' : Nat} (hle : base ≤ base') :
    ∀ {cs : List Char} {acc acc' : Nat}, acc ≤ acc' →
      digitsFrom base acc cs ≤ digitsFrom base' acc' cs
  | [], _, _, hacc => hacc
  | c :: cs, _, _, hacc => by
    rw [digitsFrom_cons, digitsFrom_cons]
    exact digitsFrom_mono hle (Nat.add_le_add_right (Nat.mul_le_mul hacc hle) (digitOf c))

theorem digitsIn_mono {base' : Nat} (hle : base ≤ base') :
    digitsIn base cs ≤ digitsIn base' cs := digitsFrom_mono hle (Nat.le_refl 0)

/-- **Digits have the same value in base eight and in base ten** exactly if all but the last are
zero, and then the value is below eight. -/
theorem digitsIn_eight_eq_iff (h : ∀ c ∈ cs, IsDigitOf 8 c) :
    digitsIn 8 cs = digitsIn 10 cs ↔ digitsIn 10 cs < 8 := by
  induction cs using List.reverseRecOn with
  | nil => simp [digitsIn, digitsFrom]
  | append_singleton cs c _ =>
    have hlast : digitOf c < 8 := (h c (by simp)).2
    have hle : digitsIn 8 cs ≤ digitsIn 10 cs := digitsIn_mono (by decide)
    -- with more than a last digit, base ten is ahead of base eight
    rw [digitsIn_append_singleton, digitsIn_append_singleton]
    omega

/-! ## Words -/

theorem readWord_cons_of_digit (h : IsDigitOf base c) :
    readWord base false acc (c :: cs)
      = if maxWord < acc * base + digitOf c then .error .outOfRange
        else readWord base false (acc * base + digitOf c) cs := by
  simp [readWord, digitValue?_of_isDigit h.1, Nat.not_le.mpr h.2]

theorem readWord_cons_of_not_digit (hbase : base ≤ 10) (h : ¬ IsDigitOf base c) :
    readWord base false acc (c :: cs) = .error .malformed := by
  simp only [readWord, Bool.false_and, Bool.false_eq_true, if_false]
  cases hvalue : digitValue? c with
  | none => rfl
  | some d =>
    have hlarge : base ≤ d := by
      by_cases hdigit : c.isDigit = true
      · obtain rfl : digitOf c = d := by
          simpa [digitValue?_of_isDigit hdigit] using hvalue
        exact Nat.le_of_not_lt fun hlt => h ⟨hdigit, hlt⟩
      · exact Nat.le_trans hbase (ten_le_of_digitValue? hdigit hvalue)
    simp [hlarge]

/-- **A word is read exactly from digits** whose value fits in it. -/
theorem readWord_eq_ok_iff (hpos : 0 < base) (hbase : base ≤ 10) :
    ∀ {cs : List Char} {acc : Nat}, acc ≤ maxWord →
      (readWord base false acc cs = .ok n ↔
        (∀ c ∈ cs, IsDigitOf base c) ∧ digitsFrom base acc cs = n ∧ n ≤ maxWord)
  | [], acc, hacc => by
    simp only [readWord, digitsFrom, List.foldl_nil, Except.ok.injEq]
    constructor
    · rintro rfl
      exact ⟨by simp, rfl, hacc⟩
    · rintro ⟨-, h, -⟩
      exact h
  | c :: cs, acc, hacc => by
    rw [List.forall_mem_cons, digitsFrom_cons]
    by_cases hdigit : IsDigitOf base c
    · rw [readWord_cons_of_digit hdigit]
      by_cases hover : maxWord < acc * base + digitOf c
      · -- the digits that follow do not make the value smaller
        have hle : acc * base + digitOf c ≤ digitsFrom base (acc * base + digitOf c) cs :=
          le_digitsFrom hpos
        simp only [if_pos hover, reduceCtorEq, false_iff]
        rintro ⟨-, rfl, hn⟩
        omega
      · rw [if_neg hover, readWord_eq_ok_iff hpos hbase (Nat.le_of_not_lt hover)]
        simp [hdigit]
    · rw [readWord_cons_of_not_digit hbase hdigit]
      simp [hdigit]

/-- Where there are no underscores, none are passed over. -/
theorem readWord_loose : ∀ {cs : List Char} {acc : Nat}, '_' ∉ cs →
    readWord base true acc cs = readWord base false acc cs
  | [], _, _ => rfl
  | c :: cs, acc, h => by
    have hc : (c == '_') = false := beq_false_of_ne fun heq => h (heq ▸ List.mem_cons_self)
    have hrest (acc : Nat) : readWord base true acc cs = readWord base false acc cs :=
      readWord_loose fun hmem => h (.tail c hmem)
    simp [readWord, hc, hrest]

theorem wordInBase_eq_ok_iff (hpos : 0 < base) (hbase : base ≤ 10) :
    wordInBase base cs = .ok n ↔ AreDigits base cs ∧ digitsIn base cs = n ∧ n ≤ maxWord := by
  cases cs with
  | nil =>
    refine ⟨fun h => by simp [wordInBase] at h, fun h => absurd rfl h.1.nonempty⟩
  | cons c cs =>
    rw [wordInBase, List.isEmpty_cons, if_neg (by decide),
      readWord_eq_ok_iff hpos hbase (Nat.zero_le _)]
    exact ⟨fun h => ⟨⟨by simp, h.1⟩, h.2⟩, fun h => ⟨h.1.digits, h.2⟩⟩

/-! ## The base of a numeral -/

/-- Whether the first digit is a zero. -/
def LeadsWithZero (cs : List Char) : Prop := cs.head? = some '0'

instance : Decidable (LeadsWithZero cs) := inferInstanceAs (Decidable (_ = _))

/-- The base of digits without a prefix: eight after a leading zero, and ten otherwise. -/
def baseOf (cs : List Char) : Nat := if LeadsWithZero cs then 8 else 10

theorem baseOf_pos : 0 < baseOf cs := by
  rw [baseOf]
  split <;> decide

theorem baseOf_le_ten : baseOf cs ≤ 10 := by
  rw [baseOf]
  split <;> decide

theorem isDigitOf_zero (hpos : 0 < base) : IsDigitOf base '0' := ⟨rfl, hpos⟩

theorem detectBase_of_digits (h : AreDigits 10 cs) :
    detectBase cs = (baseOf cs, if LeadsWithZero cs then cs.tail else cs) := by
  have hnot {p : Char} (hp : p.isDigit = false) : p ∉ cs := h.notMem hp
  by_cases hzero : LeadsWithZero cs
  · obtain ⟨rest, rfl⟩ : ∃ rest, cs = '0' :: rest := List.head?_eq_some_iff.mp hzero
    rw [baseOf, if_pos hzero, if_pos hzero]
    match rest with
    | [] => rfl
    | [p] => rfl
    | p :: c :: rest =>
      have hp (q : Char) (hq : q.isDigit = false) : (p == q) = false :=
        beq_false_of_ne fun heq => hnot hq (by simp [heq])
      simp [detectBase, hp]
  · rw [baseOf, if_neg hzero, if_neg hzero]
    match cs with
    | [] => rfl
    | c :: cs =>
      have hc : c ≠ '0' := fun heq => hzero (by simp [LeadsWithZero, heq])
      simp [detectBase, hc]

theorem wordAnyBase_of_digits (h : AreDigits 10 cs) :
    wordAnyBase cs
      = readWord (baseOf cs) false 0 (if LeadsWithZero cs then cs.tail else cs) := by
  have hunderscore : '_' ∉ cs := h.notMem rfl
  have hloose : '_' ∉ if LeadsWithZero cs then cs.tail else cs := by
    split
    · exact fun hmem => hunderscore (List.mem_of_mem_tail hmem)
    · exact hunderscore
  have hempty : cs.isEmpty = false := by simpa using h.nonempty
  simp [wordAnyBase, detectBase_of_digits h, hempty, hunderscore, readWord_loose hloose]

/-- **A word in the base that its first digit gives.** -/
theorem wordAnyBase_eq_ok_iff (h : AreDigits 10 cs) :
    wordAnyBase cs = .ok n ↔
      AreDigits (baseOf cs) cs ∧ digitsIn (baseOf cs) cs = n ∧ n ≤ maxWord := by
  rw [wordAnyBase_of_digits h, readWord_eq_ok_iff baseOf_pos baseOf_le_ten (Nat.zero_le _)]
  by_cases hzero : LeadsWithZero cs
  · obtain ⟨rest, rfl⟩ : ∃ rest, cs = '0' :: rest := List.head?_eq_some_iff.mp hzero
    have hdigits : AreDigits (baseOf ('0' :: rest)) ('0' :: rest) ↔
        ∀ c ∈ rest, IsDigitOf (baseOf ('0' :: rest)) c := by
      refine ⟨fun hd c hc => hd.digits c (.tail _ hc), fun hd => ⟨by simp, ?_⟩⟩
      rw [List.forall_mem_cons]
      exact ⟨isDigitOf_zero baseOf_pos, hd⟩
    rw [if_pos hzero, List.tail_cons, hdigits, digitsIn, digitsFrom_cons]
    simp [digitOf]
  · rw [if_neg hzero]
    exact ⟨fun hd => ⟨⟨h.nonempty, hd.1⟩, hd.2⟩, fun hd => ⟨hd.1.digits, hd.2⟩⟩

end

/-! ## Signed numerals -/

/-- A number with the sign that stands in front of a numeral. -/
def signed (cs : List Char) (n : Nat) : Int := if cs.head? = some '-' then -n else n

/-- A numeral in a base: an optional sign and at least one digit. -/
structure Numeral (base : Nat) (cs : List Char) (i : Int) : Prop where
  digits : AreDigits base (unsigned cs)
  value : i = signed cs (digitsIn base (unsigned cs))

/-- The integers of 64 bits. -/
def InRange (i : Int) : Prop := -twoTo 63 ≤ i ∧ i < twoTo 63

section

variable {base n : Nat} {cs : List Char} {i : Int} {word : List Char → Except NumeralFault Nat}

theorem signedBy_eq_ok_iff :
    signedBy word cs = .ok i ↔ ∃ n, word (unsigned cs) = .ok n ∧ i = signed cs n ∧ InRange i := by
  have hpos : 0 < twoTo 63 := by decide
  simp only [signedBy, bind_eq_ok_iff, signed, InRange]
  refine exists_congr fun n => and_congr_right fun _ => ?_
  by_cases hsign : cs.head? = some '-'
  · simp only [hsign, beq_self_eq_true, if_true]
    by_cases hover : twoTo 63 < n
    · simp only [if_pos hover, throw_ne_ok, false_iff]
      omega
    · simp only [if_neg hover, pure_eq_ok_iff]
      omega
  · simp only [beq_false_of_ne hsign, hsign, Bool.false_eq_true, if_false]
    by_cases hover : twoTo 63 ≤ n
    · simp only [if_pos hover, throw_ne_ok, false_iff]
      omega
    · simp only [if_neg hover, pure_eq_ok_iff]
      omega

theorem le_maxWord_of_inRange (h : InRange (signed cs n)) : n ≤ maxWord := by
  have hword : maxWord = 2 * twoTo 63 - 1 := by decide
  have hpos : 0 < twoTo 63 := by decide
  simp only [InRange, signed] at h
  split at h <;> omega

/-- A sign in front of a word that is read in a base. -/
theorem signedBy_iff_numeral (hword : ∀ n, word (unsigned cs) = .ok n ↔
      AreDigits base (unsigned cs) ∧ digitsIn base (unsigned cs) = n ∧ n ≤ maxWord) :
    signedBy word cs = .ok i ↔ Numeral base cs i ∧ InRange i := by
  simp only [signedBy_eq_ok_iff, hword]
  constructor
  · rintro ⟨n, ⟨hdigits, rfl, -⟩, hvalue, hrange⟩
    exact ⟨⟨hdigits, hvalue⟩, hrange⟩
  · -- the word has one bit more than the integer, so its own bound is met
    rintro ⟨⟨hdigits, rfl⟩, hrange⟩
    exact ⟨_, ⟨hdigits, rfl, le_maxWord_of_inRange hrange⟩, rfl, hrange⟩

/-- **A numeral in a fixed base** is accepted exactly if its value is in range. -/
theorem integerInBase_eq_ok_iff (hpos : 0 < base) (hbase : base ≤ 10) :
    integerInBase base cs = .ok i ↔ Numeral base cs i ∧ InRange i :=
  signedBy_iff_numeral fun _ => wordInBase_eq_ok_iff hpos hbase

/-- **A numeral that leaves its base open** is read in the one that its first digit gives. -/
theorem integerAnyBase_eq_ok_iff (h : AreDigits 10 (unsigned cs)) :
    integerAnyBase cs = .ok i ↔ Numeral (baseOf (unsigned cs)) cs i ∧ InRange i :=
  signedBy_iff_numeral fun _ => wordAnyBase_eq_ok_iff h

theorem signed_inj {m : Nat} : signed cs m = signed cs n ↔ m = n := by
  simp only [signed]
  split <;> omega

theorem natAbs_signed : (signed cs n).natAbs = n := by
  simp only [signed]
  split <;> omega

/-- **The two readings of a numeral** agree unless it has a leading zero and, in base ten, more than
one digit after it that counts. -/
theorem Numeral.eq_iff {j : Int} (hi : Numeral (baseOf (unsigned cs)) cs i)
    (hj : Numeral 10 cs j) : i = j ↔ ¬ (LeadsWithZero (unsigned cs) ∧ 8 ≤ j.natAbs) := by
  obtain ⟨hdigits, rfl⟩ := hi
  obtain ⟨-, rfl⟩ := hj
  rw [signed_inj, natAbs_signed]
  by_cases hzero : LeadsWithZero (unsigned cs)
  · rw [baseOf, if_pos hzero] at hdigits ⊢
    simp [hzero, digitsIn_eight_eq_iff hdigits.digits]
  · simp [baseOf, hzero]

end

end TensorGraph.Number
