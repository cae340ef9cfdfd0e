import Mathlib
import TensorGraph.Text.Case

/-!
# Proofs/Text/Case — what lower case is like

In ASCII there are few enough characters to look at each (`of_ascii`).  Beyond it all that matters
here is that no character has a capital of ASCII for its lower case (`isUpper_lowerChar`).
-/

namespace TensorGraph.Text

/-- What holds of the codes of ASCII holds of its characters. -/
theorem of_ascii {P : Char → Prop} (hall : ∀ n < 128, P (Char.ofNat n)) {c : Char}
    (h : c.toNat < 128) : P c := by
  have hc := hall c.toNat h
  rwa [Char.ofNat_toNat] at hc

theorem isUpper_eq_false {c : Char} (h : c.toNat < 65 ∨ 90 < c.toNat) : c.isUpper = false := by
  refine Bool.eq_false_iff.mpr fun hupper => ?_
  have hbounds : 'A'.val ≤ c.val ∧ c.val ≤ 'Z'.val := of_decide_eq_true hupper
  have hlow : 65 ≤ c.toNat := UInt32.le_iff_toNat_le.mp hbounds.1
  have hhigh : c.toNat ≤ 90 := UInt32.le_iff_toNat_le.mp hbounds.2
  omega

theorem lowerChar_lowerChar {c : Char} (h : c.toNat < 128) :
    lowerChar (lowerChar c) = lowerChar c :=
  of_ascii (P := fun c => lowerChar (lowerChar c) = lowerChar c) (by decide +kernel) h

theorem toList_lowercase (s : String) : (lowercase s).toList = s.toList.map lowerChar := by
  rw [lowercase, String.toList_ofList]

theorem lowercase_lowercase {s : String} (h : s.toList.all (·.toNat < 128) = true) :
    lowercase (lowercase s) = lowercase s := by
  simp only [List.all_eq_true, decide_eq_true_eq] at h
  rw [← String.toList_inj, toList_lowercase, toList_lowercase, List.map_map]
  exact List.map_congr_left fun c hc => lowerChar_lowerChar (h c hc)

/-- No shift leads down to the capitals of ASCII. -/
theorem lowerShifts_above : ∀ e ∈ lowerShifts, 91 ≤ (e.1.first : Int) + e.2 := by
  decide +kernel

theorem toNat_ofNat_cases (n : Nat) : (Char.ofNat n).toNat = n ∨ (Char.ofNat n).toNat = 0 := by
  by_cases hvalid : n.isValidChar
  · have hchar : Char.ofNat n = Char.ofNatAux n hvalid := dif_pos hvalid
    exact .inl ((congrArg Char.toNat hchar).trans (UInt32.toNat_ofNatLT ..))
  · exact .inr (congrArg Char.toNat (dif_neg hvalid))

/-- **Lower case has no capitals.** -/
theorem isUpper_lowerChar (c : Char) : (lowerChar c).isUpper = false := by
  rw [lowerChar]
  split
  next => exact c.isUpper_toLower_eq_false
  next hbeyond =>
    split
    next run shift hfind =>
      have hmem := List.mem_of_find?_eq_some hfind
      have hcontains := List.find?_some hfind
      have hfirst : run.first ≤ c.toNat := by
        simp only [CodeRun.contains, Bool.and_eq_true, decide_eq_true_eq] at hcontains
        exact hcontains.1.1
      have habove : 91 ≤ (run.first : Int) + shift := lowerShifts_above _ hmem
      refine isUpper_eq_false ?_
      have hcases := toNat_ofNat_cases (c.toNat + shift).toNat
      omega
    next => exact isUpper_eq_false (by omega)

theorem lowercase_ne {s name : String} (h : name.toList.any Char.isUpper = true) :
    lowercase s ≠ name := by
  rintro rfl
  obtain ⟨c, hc, hupper⟩ := List.any_eq_true.mp h
  rw [toList_lowercase] at hc
  obtain ⟨b, -, rfl⟩ := List.mem_map.mp hc
  rw [isUpper_lowerChar] at hupper
  cases hupper

/-- A character that is its own lower case stays where it is. -/
theorem mem_lowercase {s : String} {c : Char} (hc : lowerChar c = c) (h : c ∈ s.toList) :
    c ∈ (lowercase s).toList := by
  rw [toList_lowercase]
  exact List.mem_map.mpr ⟨c, h, hc⟩

end TensorGraph.Text
