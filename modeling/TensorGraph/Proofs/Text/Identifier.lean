import TensorGraph.Proofs.Text.ByteOrder
import TensorGraph.Text.Basic

/-!
# Proofs/Text/Identifier — identifiers are what normalization leaves alone

    text           axis_0   1st    a.b-c   größe   ٣d
    normalized     axis_0   _1st   a_b_c   gr__e   _d
    identifier     yes      no     no      no      no

A text is said to be an identifier if it is not empty and normalization leaves it alone.  That is a
grammar: letters, digits and underscores of ASCII, and no digit first (`isIdentifier_iff`).  What
normalization makes of a text follows the grammar, so a second normalization changes nothing
(`normalizeIdentifier_projects`).
-/

namespace TensorGraph.Text

/-! ## The grammar -/

/-- The letters of ASCII. -/
def IsLetter (c : Char) : Prop := 'a' ≤ c ∧ c ≤ 'z' ∨ 'A' ≤ c ∧ c ≤ 'Z'

/-- The digits of ASCII. -/
def IsDigit (c : Char) : Prop := '0' ≤ c ∧ c ≤ '9'

/-- The first character is a digit of ASCII. -/
def BeginsWithDigit (s : String) : Prop := ∃ c ∈ s.toList.head?, IsDigit c

instance (c : Char) : Decidable (IsDigit c) := inferInstanceAs (Decidable (_ ∧ _))

instance (s : String) : Decidable (BeginsWithDigit s) :=
  decidable_of_iff (s.toList.head?.any (decide <| IsDigit ·) = true) <| by
    rw [BeginsWithDigit]
    cases s.toList <;> simp

/-- Letters, digits and underscores of ASCII, at least one of them, and no digit first. -/
structure IsIdentifier (s : String) : Prop where
  nonempty : s ≠ ""
  chars : ∀ c ∈ s.toList, IsLetter c ∨ IsDigit c ∨ c = '_'
  first : ¬ BeginsWithDigit s

/-! ## Word characters -/

section

variable {c : Char}

theorem isDigit_iff : c.isDigit = true ↔ IsDigit c := by
  have htest : c.isDigit = (decide ('0' ≤ c) && decide (c ≤ '9')) := rfl
  rw [htest, Bool.and_eq_true, decide_eq_true_iff, decide_eq_true_iff, IsDigit]

theorem isLetter_iff : (c.isUpper || c.isLower) = true ↔ IsLetter c := by
  have hupper : c.isUpper = decide ('A' ≤ c ∧ c ≤ 'Z') := rfl
  have hlower : c.isLower = (decide ('a' ≤ c) && decide (c ≤ 'z')) := rfl
  rw [hupper, hlower, Bool.or_eq_true, Bool.and_eq_true, decide_eq_true_iff, decide_eq_true_iff,
    decide_eq_true_iff, or_comm, IsLetter]

theorem isWordChar_iff : isWordChar c = true ↔ IsLetter c ∨ IsDigit c ∨ c = '_' := by
  have htest : isWordChar c = ((c.isUpper || c.isLower) || c.isDigit || c == '_') := rfl
  rw [htest, Bool.or_eq_true, Bool.or_eq_true, isLetter_iff, isDigit_iff, beq_iff_eq, or_assoc]

theorem isWordChar_wordChar (c : Char) : isWordChar (wordChar c) = true := by
  rw [wordChar]
  split
  · assumption
  · rfl

theorem wordChar_eq_self_iff : wordChar c = c ↔ isWordChar c = true := by
  constructor
  · intro h
    rw [← h]
    exact isWordChar_wordChar c
  · intro h
    rw [wordChar, if_pos h]

end

/-! ## Characters of identifiers -/

section

variable {c : Char} {cs : List Char}

theorem identifierChars_of_digit (h : IsDigit c) :
    identifierChars (c :: cs) = '_' :: (c :: cs).map wordChar := by
  rw [identifierChars, if_pos (isDigit_iff.mpr h)]
  rfl

theorem identifierChars_of_not_digit (h : ¬ IsDigit c) :
    identifierChars (c :: cs) = (c :: cs).map wordChar := by
  rw [identifierChars, if_neg (mt isDigit_iff.mp h), List.nil_append]

/-- **Normalization leaves alone** the word characters that begin with no digit. -/
theorem identifierChars_eq_self_iff :
    identifierChars cs = cs ↔
      (∀ c ∈ cs, isWordChar c = true) ∧ ∀ c ∈ cs.head?, ¬ IsDigit c := by
  cases cs with
  | nil => simp [identifierChars]
  | cons c cs =>
    by_cases hdigit : IsDigit c
    · have hlonger : identifierChars (c :: cs) ≠ c :: cs := by
        intro h
        simpa [identifierChars_of_digit hdigit] using congrArg List.length h
      simp [hlonger, hdigit]
    · have hself : (c :: cs).map wordChar = c :: cs ↔ ∀ b ∈ c :: cs, wordChar b = b := by
        rw [← List.map_inj_left, List.map_id']
      rw [identifierChars_of_not_digit hdigit, hself]
      simp [wordChar_eq_self_iff, hdigit]

theorem isWordChar_of_mem_identifierChars (h : c ∈ identifierChars cs) : isWordChar c = true := by
  cases cs with
  | nil => cases h
  | cons d ds =>
    have hmap (hc : c ∈ (d :: ds).map wordChar) : isWordChar c = true := by
      obtain ⟨b, -, rfl⟩ := List.mem_map.mp hc
      exact isWordChar_wordChar b
    by_cases hdigit : IsDigit d
    · rw [identifierChars_of_digit hdigit, List.mem_cons] at h
      rcases h with rfl | h
      · rfl
      · exact hmap h
    · rw [identifierChars_of_not_digit hdigit] at h
      exact hmap h

theorem head?_identifierChars (h : c ∈ (identifierChars cs).head?) : ¬ IsDigit c := by
  cases cs with
  | nil => cases h
  | cons d ds =>
    by_cases hdigit : IsDigit d
    · rw [identifierChars_of_digit hdigit] at h
      obtain rfl : '_' = c := by simpa using h
      decide
    · rw [identifierChars_of_not_digit hdigit] at h
      obtain rfl : wordChar d = c := by simpa using h
      rw [wordChar]
      split
      · exact hdigit
      · decide

end

/-! ## Identifiers -/

section

variable {s : String}

theorem beginsWithDigit_iff {c : Char} {cs : List Char} (h : s.toList = c :: cs) :
    BeginsWithDigit s ↔ IsDigit c := by
  simp [BeginsWithDigit, h]

theorem normalizeIdentifier_eq_self_iff :
    normalizeIdentifier s = s ↔ identifierChars s.toList = s.toList := by
  rw [← String.toList_inj, normalizeIdentifier, String.toList_ofList]

theorem isIdentifier_eq_true_iff :
    isIdentifier s = true ↔ s ≠ "" ∧ normalizeIdentifier s = s := by
  rw [isIdentifier, Bool.and_eq_true, bne_iff_ne, beq_iff_eq]

/-- **Identifiers are what the grammar says.** -/
theorem isIdentifier_iff : isIdentifier s = true ↔ IsIdentifier s := by
  rw [isIdentifier_eq_true_iff, normalizeIdentifier_eq_self_iff, identifierChars_eq_self_iff]
  simp only [isWordChar_iff]
  constructor
  · rintro ⟨hne, hchars, hfirst⟩
    exact ⟨hne, hchars, fun ⟨c, hc, hdigit⟩ => hfirst c hc hdigit⟩
  · rintro ⟨hne, hchars, hfirst⟩
    exact ⟨hne, hchars, fun c hc hdigit => hfirst ⟨c, hc, hdigit⟩⟩

/-- **An identifier is made of word characters.** -/
theorem isWordChar_of_isIdentifier (h : isIdentifier s = true) {c : Char} (hc : c ∈ s.toList) :
    isWordChar c = true :=
  isWordChar_iff.mpr ((isIdentifier_iff.mp h).chars c hc)

/-- An identifier has a first character, which is no digit. -/
theorem exists_head_of_isIdentifier (h : isIdentifier s = true) :
    ∃ c cs, s.toList = c :: cs ∧ c.isDigit = false := by
  obtain ⟨hne, -, hfirst⟩ := isIdentifier_iff.mp h
  cases hcs : s.toList with
  | nil => exact absurd (by simpa using hcs) hne
  | cons c cs =>
    rw [beginsWithDigit_iff hcs, ← isDigit_iff, Bool.not_eq_true] at hfirst
    exact ⟨c, cs, rfl, hfirst⟩

/-- **One pass is enough.** -/
theorem normalizeIdentifier_normalizeIdentifier (s : String) :
    normalizeIdentifier (normalizeIdentifier s) = normalizeIdentifier s := by
  rw [normalizeIdentifier_eq_self_iff, normalizeIdentifier, String.toList_ofList,
    identifierChars_eq_self_iff]
  exact ⟨fun _ hc => isWordChar_of_mem_identifierChars hc, fun _ hc => head?_identifierChars hc⟩

theorem length_normalizeIdentifier (s : String) :
    (normalizeIdentifier s).length = s.length + if BeginsWithDigit s then 1 else 0 := by
  rw [normalizeIdentifier, String.length_ofList, ← String.length_toList]
  cases hcs : s.toList with
  | nil =>
    obtain rfl : s = "" := by simpa using hcs
    rfl
  | cons c cs =>
    rw [ite_congr (propext (beginsWithDigit_iff hcs)) (fun _ => rfl) fun _ => rfl]
    split
    next hdigit => rw [identifierChars_of_digit hdigit, List.length_cons, List.length_map]
    next hdigit => rw [identifierChars_of_not_digit hdigit, List.length_map, Nat.add_zero]

/-- **What a text becomes is an identifier.** -/
theorem isIdentifier_normalizeIdentifier (h : s ≠ "") :
    isIdentifier (normalizeIdentifier s) = true := by
  have hne : normalizeIdentifier s ≠ "" := by
    intro hempty
    have hlength := length_normalizeIdentifier s
    rw [hempty, String.length_empty] at hlength
    exact h (String.length_eq_zero_iff.mp (by omega))
  exact isIdentifier_eq_true_iff.mpr ⟨hne, normalizeIdentifier_normalizeIdentifier s⟩

end

/-! ## Bytes -/

theorem isDigit_iff_head?_utf8EncodeChar {c : Char} :
    IsDigit c ↔ ∃ b ∈ (String.utf8EncodeChar c).head?, 48 ≤ b ∧ b ≤ 57 := by
  have hdigit : IsDigit c ↔ 48 ≤ c.toNat ∧ c.toNat ≤ 57 := by
    simp only [IsDigit, Char.le_def, UInt32.le_iff_toNat_le]
    rfl
  -- beyond ASCII the first byte has its highest bit set
  simp only [hdigit, String.utf8EncodeChar, Char.toNat_val]
  split_ifs <;> simp [UInt8.le_iff_toNat_le] <;> omega

theorem beginsWithDigit_iff_bytes {s : String} :
    BeginsWithDigit s ↔ ∃ b ∈ (bytes s).head?, 48 ≤ b ∧ b ≤ 57 := by
  rw [bytes_eq_flatMap, BeginsWithDigit]
  cases s.toList with
  | nil => simp
  | cons c cs =>
    have hhead : (String.utf8EncodeChar c ++ cs.flatMap String.utf8EncodeChar).head?
        = (String.utf8EncodeChar c).head? :=
      List.head?_append_of_ne_nil _ String.utf8EncodeChar_ne_nil
    rw [List.flatMap_cons, hhead, ← isDigit_iff_head?_utf8EncodeChar]
    simp

/-- **Normalization is a projection onto identifiers.**  Identifiers follow the grammar, a second
pass changes nothing, and what a text becomes is an identifier, longer than the text by the
underscore in front of a digit.  The digit can be told by the first byte. -/
theorem normalizeIdentifier_projects (s : String) :
    (isIdentifier s = true ↔ IsIdentifier s) ∧
      normalizeIdentifier (normalizeIdentifier s) = normalizeIdentifier s ∧
      (s ≠ "" → isIdentifier (normalizeIdentifier s) = true ∧
        (normalizeIdentifier s).length = s.length + if BeginsWithDigit s then 1 else 0) ∧
      (BeginsWithDigit s ↔ ∃ b ∈ (bytes s).head?, 48 ≤ b ∧ b ≤ 57) :=
  ⟨isIdentifier_iff, normalizeIdentifier_normalizeIdentifier s,
    fun h => ⟨isIdentifier_normalizeIdentifier h, length_normalizeIdentifier s⟩,
    beginsWithDigit_iff_bytes⟩

/-- A digit first, a letter beyond ASCII, and a blank. -/
theorem normalizeIdentifier_projects_first :
    normalizeIdentifier "1º eixo" = "_1__eixo" ∧ isIdentifier "_1__eixo" = true ∧
      (normalizeIdentifier "1º eixo").length = "1º eixo".length + 1 := by
  have hnormal : normalizeIdentifier "1º eixo" = "_1__eixo" := by decide
  have hbegins : BeginsWithDigit "1º eixo" := by decide
  obtain ⟨-, -, hprojects, -⟩ := normalizeIdentifier_projects "1º eixo"
  obtain ⟨hidentifier, hlength⟩ := hprojects (by decide)
  rw [if_pos hbegins] at hlength
  exact ⟨hnormal, hnormal ▸ hidentifier, hlength⟩

end TensorGraph.Text
