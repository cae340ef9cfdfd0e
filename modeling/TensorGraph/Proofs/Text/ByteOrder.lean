import Mathlib.Data.String.Basic
import Mathlib.Tactic.SplitIfs

/-!
# Proofs/Text/ByteOrder — texts stand in the order of their bytes

    U+007F    7F
    U+0080    C2 80              one byte more, and a greater first byte
    U+07FF    DF BF
    U+0800    E0 A0 80
    U+FFFF    EF BF BF
    U+10000   F0 90 80 80

Texts are compared character by character, by code point.  Of two characters the one with the
smaller code point has the bytes that come first, and the two differ at a byte that both have
(`utf8EncodeChar_precedes`), so what follows does not count.  Hence the order of texts is that of
their bytes (`bytes_lt_iff`).
-/

namespace TensorGraph.Text

/-- The bytes of a text, in UTF-8. -/
def bytes (s : String) : List UInt8 := s.toByteArray.data.toList

theorem bytes_eq_flatMap (s : String) : bytes s = s.toList.flatMap String.utf8EncodeChar := by
  have hs : s.toByteArray = s.toList.utf8Encode := by
    rw [← String.toByteArray_ofList, String.ofList_toList]
  rw [bytes, hs, List.utf8Encode, List.data_toByteArray]

/-- Two sequences of bytes differ at a byte that both have, the first one having the smaller. -/
def Precedes : List UInt8 → List UInt8 → Prop
  | x :: xs, y :: ys => x < y ∨ x = y ∧ Precedes xs ys
  | _, _ => False

theorem Precedes.append_lt : ∀ {xs ys : List UInt8}, Precedes xs ys →
    ∀ us vs : List UInt8, xs ++ us < ys ++ vs
  | x :: xs, y :: ys, h, us, vs => by
    rw [List.cons_append, List.cons_append, List.cons_lt_cons_iff]
    exact h.imp_right fun ⟨hxy, hrest⟩ => ⟨hxy, hrest.append_lt us vs⟩

/-- **The bytes of a smaller character come first.** -/
theorem utf8EncodeChar_precedes {c d : Char} (h : c < d) :
    Precedes (String.utf8EncodeChar c) (String.utf8EncodeChar d) := by
  have hlt : c.val.toNat < d.val.toNat := UInt32.lt_iff_toNat_lt.mp h
  have hbound : d.val.toNat < 0x110000 := by
    rcases d.valid with hd | ⟨-, hd⟩
    · exact Nat.lt_trans hd (by decide)
    · exact hd
  have hdiv (n : Nat) : n / 4096 = n / 64 / 64 ∧ n / 262144 = n / 64 / 64 / 64 := by omega
  -- a longer encoding has a greater first byte; at one length the bytes are digits to base 64
  simp only [String.utf8EncodeChar, (hdiv _).1, (hdiv _).2]
  split_ifs <;>
    simp only [Precedes, UInt8.lt_iff_toNat_lt, ← UInt8.toNat_inj, UInt8.toNat_ofNat'] <;>
    omega

theorem flatMap_utf8EncodeChar_lt : ∀ {l l' : List Char}, l < l' →
    l.flatMap String.utf8EncodeChar < l'.flatMap String.utf8EncodeChar
  | l, [], h => absurd h (List.not_lt_nil l)
  | [], d :: l', _ => by
    cases hd : String.utf8EncodeChar d with
    | nil => simp [String.utf8EncodeChar_ne_nil] at hd
    | cons x xs =>
      rw [List.flatMap_cons, hd]
      exact List.nil_lt_cons x _
  | c :: l, d :: l', h => by
    rw [List.flatMap_cons, List.flatMap_cons]
    rcases List.cons_lt_cons_iff.mp h with hcd | ⟨rfl, hrest⟩
    · exact (utf8EncodeChar_precedes hcd).append_lt _ _
    · exact List.append_left_lt (flatMap_utf8EncodeChar_lt hrest)

/-- **Texts stand in the order of their bytes.** -/
theorem bytes_lt_iff {s t : String} : bytes s < bytes t ↔ s < t := by
  have hmono {s t : String} (h : s < t) : bytes s < bytes t := by
    rw [bytes_eq_flatMap, bytes_eq_flatMap]
    exact flatMap_utf8EncodeChar_lt (String.lt_iff_toList_lt.mp h)
  refine ⟨fun h => ?_, hmono⟩
  rcases lt_trichotomy s t with hlt | rfl | hgt
  · exact hlt
  · exact absurd h (List.lt_irrefl _)
  · exact absurd h (List.lt_asymm (hmono hgt))

end TensorGraph.Text
