import Mathlib.Data.List.Sort
import TensorGraph.Registry

/-!
# Proofs/Registry/Versions — the versions of an operator are found by bisection

    version      1      6      7      11     13
    below 11     yes    yes    yes    no     no
    place                             ↑

Among schemas in strictly increasing order of version those below a given version come first, and
bisection finds where they end (`lt_bisect_iff`).  So a version is there exactly if it is at its
place (`Increasing.hasVersion_iff`), and a schema put at the place of a version that is not there
keeps the order (`Increasing.insertVersion`).
-/

namespace TensorGraph

/-! ## Bisection -/

/-- **Bisection finds where a property ends**, if it never holds above a place where it fails.  The
invariant of the loop is that it holds below `i` and fails from `j` on. -/
theorem lt_bisect_iff {below : Nat → Bool}
    (hdown : ∀ {a b}, a ≤ b → below b = true → below a = true) {i j : Nat} (hij : i ≤ j)
    (hi : ∀ a, a < i → below a = true) (hj : ∀ a, j ≤ a → ¬ below a = true) (a : Nat) :
    a < bisect below i j ↔ below a = true := by
  fun_induction bisect below i j with
  | case1 i j hlt hmid ih =>
    refine ih (by omega) (fun a ha => ?_) hj
    exact hdown (Nat.le_of_lt_succ ha) hmid
  | case2 i j hlt hmid ih =>
    refine ih (by omega) hi fun a ha hbelow => ?_
    exact hmid (hdown ha hbelow)
  | case3 i j hnot =>
    obtain rfl : i = j := by omega
    exact ⟨hi a, fun hbelow => Nat.lt_of_not_le fun hle => hj a hle hbelow⟩

/-! ## The place of a version -/

/-- Schemas in strictly increasing order of version. -/
abbrev Increasing (ss : List OpSchema) : Prop := ss.Pairwise fun s t => s.since < t.since

namespace Increasing

variable {ss : List OpSchema} {since : Int} {s t : OpSchema}

theorem nodup (h : Increasing ss) : ss.Nodup :=
  h.imp fun hlt heq => absurd (heq ▸ hlt) (lt_irrefl _)

theorem lt_versionPlace_iff (h : Increasing ss) (since : Int) (i : Nat) :
    i < versionPlace since ss ↔ ∃ t, ss[i]? = some t ∧ t.since < since := by
  have hbelow (i : Nat) : ss[i]?.any (fun t => decide (t.since < since)) = true ↔
      ∃ t, ss[i]? = some t ∧ t.since < since := by
    simp [Option.any_eq_true]
  rw [← hbelow, versionPlace]
  refine lt_bisect_iff (fun {a b} hab hb => ?_) (Nat.zero_le _) (by simp) (fun a ha => ?_) i
  · obtain ⟨t, ht, hlt⟩ := (hbelow b).mp hb
    obtain ⟨hlength, rfl⟩ := List.getElem?_eq_some_iff.mp ht
    refine (hbelow a).mpr ⟨ss[a], List.getElem?_eq_getElem _, ?_⟩
    obtain rfl | hlt' := Nat.eq_or_lt_of_le hab
    · exact hlt
    · exact lt_trans (List.pairwise_iff_getElem.mp h a b _ hlength hlt') hlt
  · simp [List.getElem?_eq_none ha]

theorem since_lt_of_mem_take (h : Increasing ss) (ht : t ∈ ss.take (versionPlace since ss)) :
    t.since < since := by
  obtain ⟨i, hi, rfl⟩ := List.mem_take_iff_getElem.mp ht
  obtain ⟨u, hu, hlt⟩ := (h.lt_versionPlace_iff since i).mp (by omega)
  obtain ⟨_, rfl⟩ := List.getElem?_eq_some_iff.mp hu
  exact hlt

theorem le_since_of_mem_drop (h : Increasing ss) (ht : t ∈ ss.drop (versionPlace since ss)) :
    since ≤ t.since := by
  obtain ⟨i, hi, rfl⟩ := List.mem_drop_iff_getElem.mp ht
  by_contra hlt
  have hplace := (h.lt_versionPlace_iff since (versionPlace since ss + i)).mpr
    ⟨_, List.getElem?_eq_getElem (by omega), not_le.mp hlt⟩
  omega

/-- **A version is there exactly if it is at its place.** -/
theorem hasVersion_iff (h : Increasing ss) :
    hasVersion since ss = true ↔ ∃ t ∈ ss, t.since = since := by
  rw [hasVersion, Option.any_eq_true]
  constructor
  · rintro ⟨t, ht, hsince⟩
    exact ⟨t, List.mem_of_getElem? ht, beq_iff_eq.mp hsince⟩
  · rintro ⟨t, ht, rfl⟩
    rw [← List.take_append_drop (versionPlace t.since ss) ss, List.mem_append] at ht
    have hdrop : t ∈ ss.drop (versionPlace t.since ss) :=
      ht.resolve_left fun htake => absurd (h.since_lt_of_mem_take htake) (lt_irrefl _)
    -- what stands at the place is not below the version, and nothing after it is as small
    obtain ⟨u, rest, hsplit⟩ := List.exists_cons_of_ne_nil (List.ne_nil_of_mem hdrop)
    have hat : ss[versionPlace t.since ss]? = some u := by
      rw [← List.head?_drop, hsplit, List.head?_cons]
    refine ⟨u, hat, beq_iff_eq.mpr ?_⟩
    have hle : t.since ≤ u.since := h.le_since_of_mem_drop (hsplit ▸ List.mem_cons_self)
    have hsorted : Increasing (u :: rest) :=
      hsplit ▸ h.sublist (List.drop_sublist (versionPlace t.since ss) ss)
    obtain rfl | hrest := List.mem_cons.mp (hsplit ▸ hdrop)
    · rfl
    · exact absurd ((List.pairwise_cons.mp hsorted).1 t hrest) (not_lt.mpr hle)

theorem insertVersion (h : Increasing ss) (hfree : ¬ hasVersion s.since ss = true) :
    Increasing (insertVersion s ss) := by
  have hne : ∀ t ∈ ss, t.since ≠ s.since := fun t ht heq =>
    hfree (h.hasVersion_iff.mpr ⟨t, ht, heq⟩)
  refine List.pairwise_append.mpr ⟨h.sublist (List.take_sublist _ ss),
    List.pairwise_cons.mpr ⟨fun t ht => ?_, h.sublist (List.drop_sublist _ ss)⟩,
    fun t ht u hu => ?_⟩
  · have hle := h.le_since_of_mem_drop ht
    have hother := hne t (List.mem_of_mem_drop ht)
    omega
  · have hlt := h.since_lt_of_mem_take ht
    obtain rfl | hu := List.mem_cons.mp hu
    · exact hlt
    · exact lt_of_lt_of_le hlt (h.le_since_of_mem_drop hu)

end Increasing

theorem insertVersion_perm (s : OpSchema) (ss : List OpSchema) :
    (insertVersion s ss).Perm (s :: ss) := by
  rw [insertVersion]
  exact List.perm_middle.trans (.of_eq (by rw [List.take_append_drop]))

@[simp] theorem hasVersion_nil (since : Int) : hasVersion since [] = false := by
  simp [hasVersion]

@[simp] theorem insertVersion_nil (s : OpSchema) : insertVersion s [] = [s] := by
  simp [insertVersion]

end TensorGraph
