import Mathlib
import TensorGraph.Proofs.Registry.History
import TensorGraph.Proofs.Schema.WellFormed
import TensorGraph.Proofs.Text.Delimited

/-!
# Proofs/Registry/KeyText — the text of a schema is its key

    Sum-1               default domain
    ai::Sum-1           domain ai
    ai::Sum-1::Sum-1    domain ai::Sum-1

A domain can be any text, so the parts are read off from the end.  The version of a schema that is
built has no sign, so the last dash stands in front of it.  The name is an identifier, so the last
colon stands in front of the name, and there is none if the domain is the default one
(`OpSchema.WellFormed.text_eq_iff`).  So the text of a schema tells which schemas it keeps
out of a registry (`OpSchema.text_identifies_key`).
-/

namespace TensorGraph

namespace OpSchema

variable {s t : OpSchema}

/-! ## Reading a text from its end -/

/-- The domain with its colons, unless it is the default one. -/
def domainChars (s : OpSchema) : List Char :=
  if s.domain = "" then [] else s.domain.toList ++ [':', ':']

theorem toList_text (s : OpSchema) :
    s.text.toList = (s.domainChars ++ s.name.toList) ++ '-' :: s.since.repr.toList := by
  by_cases hdomain : s.domain = "" <;> simp [text, domainChars, hdomain]

theorem WellFormed.dash_notMem_since (h : s.WellFormed) : '-' ∉ s.since.repr.toList := by
  have hpos := h.since
  rw [Int.repr_eq_if, if_pos (by omega), Nat.toList_repr]
  exact Text.notMem_toDigits (by decide) _

theorem WellFormed.colon_notMem_name (h : s.WellFormed) : ':' ∉ s.name.toList :=
  fun hcolon => absurd (Text.isWordChar_of_isIdentifier h.name hcolon) (by decide)

/-- A domain other than the default one brings a colon into the text. -/
theorem WellFormed.domain_eq_empty_iff (h : s.WellFormed) :
    s.domain = "" ↔ ':' ∉ s.domainChars ++ s.name.toList := by
  rw [List.mem_append, or_iff_left h.colon_notMem_name]
  by_cases hdefault : s.domain = "" <;> simp [domainChars, hdefault]

/-- The name begins after the last colon, if there is one. -/
theorem WellFormed.domain_eq_and_name_eq (hs : s.WellFormed) (ht : t.WellFormed)
    (h : s.domainChars ++ s.name.toList = t.domainChars ++ t.name.toList) :
    s.domain = t.domain ∧ s.name = t.name := by
  have hboth : s.domain = "" ↔ t.domain = "" := by
    rw [hs.domain_eq_empty_iff, h, ht.domain_eq_empty_iff]
  by_cases hdefault : s.domain = ""
  · have hdefault' := hboth.mp hdefault
    refine ⟨hdefault.trans hdefault'.symm, String.toList_inj.mp ?_⟩
    simpa [domainChars, hdefault, hdefault'] using h
  · have hsplit {s : OpSchema} (hdefault : s.domain ≠ "") : s.domainChars ++ s.name.toList
        = (s.domain.toList ++ [':']) ++ ':' :: s.name.toList := by
      simp [domainChars, hdefault]
    rw [hsplit hdefault, hsplit (mt hboth.mpr hdefault),
      Text.append_cons_inj_of_notMem_right hs.colon_notMem_name ht.colon_notMem_name] at h
    obtain ⟨hdomain, hname⟩ := h
    exact ⟨String.toList_inj.mp (List.append_cancel_right hdomain), String.toList_inj.mp hname⟩

/-- **Well-formed schemas are told apart by their texts**, as far as they are by their keys. -/
theorem WellFormed.text_eq_iff (hs : s.WellFormed) (ht : t.WellFormed) :
    s.text = t.text ↔ s.domain = t.domain ∧ s.name = t.name ∧ s.since = t.since := by
  constructor
  · intro h
    have hchars := congrArg String.toList h
    rw [toList_text, toList_text,
      Text.append_cons_inj_of_notMem_right hs.dash_notMem_since ht.dash_notMem_since] at hchars
    obtain ⟨hdomain, hname⟩ := hs.domain_eq_and_name_eq ht hchars.1
    exact ⟨hdomain, hname, Int.repr_injective (String.toList_inj.mp hchars.2)⟩
  · rintro ⟨hdomain, hname, hsince⟩
    rw [text, text, hdomain, hname, hsince]

theorem key_eq_iff :
    s.key = t.key ↔ s.domain = t.domain ∧ s.name = t.name ∧ s.since = t.since := by
  rw [key, key, SchemaKey.mk.injEq]

end OpSchema

/-! ## Registration -/

/-- A schema is refused as a repetition where an open registry has its key. -/
theorem Registry.Holds.register_eq_repeated_iff {r : Registry} {entries : List OpSchema}
    {frozen : Prop} (h : r.Holds entries frozen) {s : OpSchema} :
    r.register s = .error (.repeated s.text) ↔ ¬ frozen ∧ ∃ t ∈ entries, t.key = s.key := by
  rw [register_eq, ← h.frozen_iff, ← h.hasVersion_iff]
  cases r.frozen with
  | true => simp
  | false => cases hasVersion s.since (r.versionsOf s.domain s.name) <;> simp

/-- **The text of a schema is its key.**  Two schemas that are built have the same text exactly if
domain, name and version are the same, that is, if one of them keeps the other out of a registry
that was not frozen and in which nothing else was registered. -/
theorem OpSchema.text_identifies_key {name name' : String} {decls decls' : List Declaration}
    {s t : OpSchema} (hs : ((Draft.new name).declareAll decls).build = .ok s)
    (ht : ((Draft.new name').declareAll decls').build = .ok t) :
    (s.text = t.text ↔ s.domain = t.domain ∧ s.name = t.name ∧ s.since = t.since) ∧
      ∀ requests, Registry.empty.registered requests = [s] → .freeze ∉ requests →
        (s.text = t.text ↔
          (Registry.empty.serveAll requests).register t = .error (.repeated t.text)) := by
  have htext := (Draft.wellFormed_of_build hs).text_eq_iff (Draft.wellFormed_of_build ht)
  refine ⟨htext, fun requests hregistered hopen => ?_⟩
  have hholds : (Registry.empty.serveAll requests).Holds [s] (.freeze ∈ requests) :=
    hregistered ▸ Registry.holds_serveAll requests
  rw [htext, ← key_eq_iff, hholds.register_eq_repeated_iff]
  simp [hopen]

/-- A domain that has the form of a schema's text. -/
theorem OpSchema.text_identifies_key_nested :
    ∃ s t, ((Draft.new "Sum").declareAll [.domain "ai::Sum-1", .since 13]).build = .ok s ∧
      ((Draft.new "Sum").declareAll [.since 13, .doc "Adds up.", .domain "ai::Sum-1"]).build
        = .ok t ∧
      s.text = "ai::Sum-1::Sum-13" ∧
      (Registry.empty.serveAll [.register s]).register t = .error (.repeated t.text) := by
  have hbuilt : ∃ s, ((Draft.new "Sum").declareAll [.domain "ai::Sum-1", .since 13]).build
      = .ok s := ⟨_, rfl⟩
  have hbuilt' : ∃ t, ((Draft.new "Sum").declareAll
      [.since 13, .doc "Adds up.", .domain "ai::Sum-1"]).build = .ok t := ⟨_, rfl⟩
  obtain ⟨s, hs⟩ := hbuilt
  obtain ⟨t, ht⟩ := hbuilt'
  obtain ⟨hkey, hrepeated⟩ := text_identifies_key hs ht
  have hsame : s.text = t.text := by
    refine hkey.mpr ?_
    cases hs
    cases ht
    exact ⟨rfl, rfl, rfl⟩
  have honly : Registry.empty.registered [.register s] = [s] :=
    Registry.registered_of_ok (Registry.register_of_new rfl (by simp [Registry.empty])) []
  refine ⟨s, t, hs, ht, ?_, (hrepeated [.register s] honly (by simp)).mp hsame⟩
  cases hs
  decide

end TensorGraph
