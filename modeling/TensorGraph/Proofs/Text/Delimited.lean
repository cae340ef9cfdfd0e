/-!
# Proofs/Text/Delimited — parts of a text that can be read back

    ArgMax-13     up to the first dash
    batch 3 ?     between the spaces

A part ends at the first character that it cannot have (`Text.append_cons_inj_of_notMem_left`), or
begins after the last one (`Text.append_cons_inj_of_notMem_right`).  So the words of a row can be
read back (`Text.intercalate_inj`).  Numerals have only digits and a sign (`Text.notMem_repr`).
-/

namespace TensorGraph

namespace Text

/-- **What stands in front of the first separator** is determined, and so is what follows it. -/
theorem append_cons_inj_of_notMem_left {α : Type} {a : α} {xs ys us vs : List α} (hxs : a ∉ xs)
    (hys : a ∉ ys) : xs ++ a :: us = ys ++ a :: vs ↔ xs = ys ∧ us = vs := by
  induction xs generalizing ys with
  | nil =>
    cases ys with
    | nil => simp
    | cons y ys =>
      have hne : a ≠ y := (List.ne_and_not_mem_of_not_mem_cons hys).1
      simp [hne]
  | cons x xs ih =>
    obtain ⟨hx, hxs⟩ := List.ne_and_not_mem_of_not_mem_cons hxs
    cases ys with
    | nil => simp [hx.symm]
    | cons y ys =>
      obtain ⟨-, hys⟩ := List.ne_and_not_mem_of_not_mem_cons hys
      simp [ih hxs hys, and_assoc]

/-- **What stands behind the last separator** is determined, and so is what comes before it. -/
theorem append_cons_inj_of_notMem_right {α : Type} {a : α} {xs ys us vs : List α} (hus : a ∉ us)
    (hvs : a ∉ vs) : xs ++ a :: us = ys ++ a :: vs ↔ xs = ys ∧ us = vs := by
  have hfront : us.reverse ++ a :: xs.reverse = vs.reverse ++ a :: ys.reverse ↔
      us.reverse = vs.reverse ∧ xs.reverse = ys.reverse :=
    append_cons_inj_of_notMem_left (by simpa using hus) (by simpa using hvs)
  rw [← List.reverse_inj, and_comm]
  simpa using hfront

/-- A word of a row: not empty, and without the separator. -/
def IsWord {α : Type} (a : α) (word : List α) : Prop := word ≠ [] ∧ a ∉ word

section

variable {a : Char} {words words' : List (List Char)}

theorem eq_nil_of_intercalate_eq_nil (h : ∀ word ∈ words, IsWord a word)
    (heq : [a].intercalate words = []) : words = [] := by
  cases words with
  | nil => rfl
  | cons first rest =>
    have hsplit := List.splitOn_intercalate a (fun word hword => (h word hword).2)
      (List.cons_ne_nil first rest)
    have hempty : [] ∈ first :: rest := by
      rw [← hsplit, heq]
      simp
    exact absurd rfl (h [] hempty).1

/-- **The words of a row can be read back.** -/
theorem intercalate_inj (h : ∀ word ∈ words, IsWord a word) (h' : ∀ word ∈ words', IsWord a word)
    (heq : [a].intercalate words = [a].intercalate words') : words = words' := by
  by_cases hne : words = []
  · subst hne
    exact (eq_nil_of_intercalate_eq_nil h' (by simpa using heq.symm)).symm
  · have hne' : words' ≠ [] := by
      rintro rfl
      exact hne (eq_nil_of_intercalate_eq_nil h (by simpa using heq))
    rw [← List.splitOn_intercalate a (fun word hword => (h word hword).2) hne, heq,
      List.splitOn_intercalate a (fun word hword => (h' word hword).2) hne']

end

/-! ### Numerals -/

theorem notMem_toDigits {c : Char} (hdigit : c.isDigit = false) (n : Nat) :
    c ∉ Nat.toDigits 10 n := by
  intro hc
  rw [Nat.isDigit_of_mem_toDigits (by decide) (by decide) hc] at hdigit
  cases hdigit

/-- An integer is written with digits and a sign. -/
theorem notMem_repr {c : Char} (hdigit : c.isDigit = false) (hsign : c ≠ '-') (i : Int) :
    c ∉ i.repr.toList := by
  rw [Int.repr_eq_if]
  split <;> simp [hsign, notMem_toDigits hdigit]

end Text

end TensorGraph
