import Mathlib.Data.List.Nodup
import TensorGraph.Proofs.Graph.Node

/-!
# Proofs/Graph/Attributes — the attributes a schema takes, and what inference reads of them

    set         axes = [1]   keepdims = 0   axes = [2]
    seen        ·            axes           axes, keepdims     set before: refused

The check walks the attributes with the names it has seen.  It passes exactly if the names are
distinct, each attribute is one the schema takes (`OpSchema.Takes`), and none that is required is
missing (`checkAttributes_eq_ok_iff`).  Inference then reads an attribute as the node sets it, or
its declared default (`attribute?_of_settings`): the defaults are put last, and of attributes with
one name the last counts, but no name is there twice.
-/

namespace TensorGraph

/-! ## Looking up by a key -/

/-- Where keys are distinct, the last one with a key is the first. -/
theorem find?_key_reverse {α : Type} {key : α → String} {xs : List α} (h : (xs.map key).Nodup)
    (k : String) : xs.reverse.find? (key · == k) = xs.find? (key · == k) := by
  have hreverse : (xs.reverse.map key).Nodup := by
    rw [List.map_reverse]
    exact List.nodup_reverse.mpr h
  ext x
  rw [find?_key_eq_some_iff h, find?_key_eq_some_iff hreverse, List.mem_reverse]

/-! ## The check -/

/-- What a schema asks of one attribute: to have the declared type, and to be declared where others
are refused. -/
structure OpSchema.Takes (s : OpSchema) (strict : Bool) (a : Attribute) : Prop where
  typed : ∀ spec, s.attribute? a.name = some spec → a.type = spec.type
  declared : strict = true → s.attribute? a.name ≠ none

section

variable {strict : Bool} {s : OpSchema} {a : Attribute}

theorem OpSchema.takes_iff_of_none (h : s.attribute? a.name = none) :
    s.Takes strict a ↔ strict = false := by
  constructor
  · intro htakes
    by_contra hstrict
    exact htakes.declared (by simpa using hstrict) h
  · rintro rfl
    exact ⟨fun spec hspec => absurd (h.symm.trans hspec) nofun, nofun⟩

theorem OpSchema.takes_iff_of_some {spec : AttributeSpec} (h : s.attribute? a.name = some spec) :
    s.Takes strict a ↔ a.type = spec.type := by
  constructor
  · intro htakes
    exact htakes.typed spec h
  · intro htype
    refine ⟨fun spec' hspec => ?_, fun _ hnone => absurd (h.symm.trans hnone) nofun⟩
    rw [htype, Option.some.inj (h.symm.trans hspec)]

/-- **One step** — an attribute passes if its name is new and the schema takes it. -/
theorem checkAttributesFrom_cons_eq_ok_iff {seen : List String} {as : List Attribute} :
    checkAttributesFrom strict s seen (a :: as) = .ok () ↔
      a.name ∉ seen ∧ s.Takes strict a ∧
        checkAttributesFrom strict s (a.name :: seen) as = .ok () := by
  by_cases hseen : a.name ∈ seen
  · simp [checkAttributesFrom, hseen, bind_eq_ok_iff, throw_ne_ok]
  cases hspec : s.attribute? a.name with
  | none =>
    rw [OpSchema.takes_iff_of_none hspec]
    cases strict <;> simp [checkAttributesFrom, hseen, hspec, bind_eq_ok_iff, throw_ne_ok]
  | some spec =>
    rw [OpSchema.takes_iff_of_some hspec]
    by_cases htype : a.type = spec.type <;>
      simp [checkAttributesFrom, hseen, hspec, htype, bind_eq_ok_iff, throw_ne_ok]

/-- **All attributes** — they pass if their names are new and distinct and the schema takes them. -/
theorem checkAttributesFrom_eq_ok_iff :
    ∀ {as : List Attribute} {seen : List String},
      checkAttributesFrom strict s seen as = .ok () ↔
        (∀ a ∈ as, a.name ∉ seen) ∧ (as.map (·.name)).Nodup ∧ ∀ a ∈ as, s.Takes strict a
  | [], seen => by simp [checkAttributesFrom]
  | a :: as, seen => by
    -- a later name is new exactly if it is not this one and was not seen before
    have hnew : (∀ b ∈ as, b.name ∉ a.name :: seen) ↔
        a.name ∉ as.map (·.name) ∧ ∀ b ∈ as, b.name ∉ seen := by
      simp only [List.mem_cons, not_or, List.mem_map, not_exists, not_and]
      exact ⟨fun h => ⟨fun b hb => (h b hb).1, fun b hb => (h b hb).2⟩,
        fun h b hb => ⟨h.1 b hb, h.2 b hb⟩⟩
    rw [checkAttributesFrom_cons_eq_ok_iff, checkAttributesFrom_eq_ok_iff, hnew, List.map_cons,
      List.nodup_cons, List.forall_mem_cons, List.forall_mem_cons]
    tauto

/-- **The check passes exactly if** names are distinct, the schema takes every attribute, and no
required one is missing. -/
theorem checkAttributes_eq_ok_iff {as : List Attribute} :
    checkAttributes strict s as = .ok () ↔
      (as.map (·.name)).Nodup ∧ (∀ a ∈ as, s.Takes strict a) ∧
        ∀ spec ∈ s.attributes, spec.required = true → ∃ a ∈ as, a.name = spec.name := by
  have hrequired : (s.attributes.find? fun spec =>
      spec.required && !as.any (·.name == spec.name)) = none ↔
        ∀ spec ∈ s.attributes, spec.required = true → ∃ a ∈ as, a.name = spec.name := by
    simp [List.find?_eq_none]
  have hwalk : checkAttributesFrom strict s [] as = .ok () ↔
      (as.map (·.name)).Nodup ∧ ∀ a ∈ as, s.Takes strict a := by
    simp [checkAttributesFrom_eq_ok_iff]
  rw [checkAttributes, bind_eq_ok_iff, ← hrequired, ← and_assoc, ← hwalk]
  cases s.attributes.find? fun spec => spec.required && !as.any (·.name == spec.name) with
  | none => exact ⟨fun ⟨_, hpass, _⟩ => ⟨hpass, rfl⟩, fun ⟨hpass, _⟩ => ⟨(), hpass, rfl⟩⟩
  | some spec => simp [throw_ne_ok]

/-- A checked attribute has the type that the schema declares. -/
theorem type_of_checkAttributes {as : List Attribute}
    (h : checkAttributes strict s as = .ok ()) (spec : AttributeSpec)
    (hspec : s.attribute? spec.name = some spec) :
    ∀ a ∈ as, a.name = spec.name → a.type = spec.type := by
  intro a ha hname
  obtain ⟨-, htakes, -⟩ := checkAttributes_eq_ok_iff.mp h
  exact (htakes a ha).typed spec (hname ▸ hspec)

end

/-! ## What inference reads -/

/-- The attributes of a schema have distinct names, and their defaults carry these. -/
structure OpSchema.AttributesNamed (s : OpSchema) : Prop where
  nodup : (s.attributes.map (·.name)).Nodup
  default : ∀ spec ∈ s.attributes, ∀ v, spec.default? = some v → v.name = spec.name

theorem mem_missingDefaults_iff {s : OpSchema} {given : List Attribute} {v : Attribute} :
    v ∈ missingDefaults s given ↔
      ∃ spec ∈ s.attributes, spec.default? = some v ∧ ∀ a ∈ given, a.name ≠ spec.name := by
  rw [missingDefaults, List.mem_filterMap]
  refine exists_congr fun spec => and_congr_right fun _ => ?_
  rw [Option.ite_none_left_eq_some, and_comm]
  simp

section

variable {s : OpSchema} (hs : s.AttributesNamed) {given : List Attribute}

include hs

/-- A missing default has a name of its own, which no attribute that is set has. -/
theorem nodup_append_missingDefaults (h : (given.map (·.name)).Nodup) :
    ((given ++ missingDefaults s given).map (·.name)).Nodup := by
  rw [List.map_append, List.nodup_append]
  refine ⟨h, ?_, ?_⟩
  · have hspecs : s.attributes.Pairwise (·.name ≠ ·.name) := List.pairwise_map.mp hs.nodup
    refine List.pairwise_map.mpr (List.pairwise_filterMap.mpr (hspecs.imp_of_mem ?_))
    intro spec spec' hspec hspec' hne v hv v' hv'
    rwa [hs.default spec hspec v (Option.ite_none_left_eq_some.mp hv).2,
      hs.default spec' hspec' v' (Option.ite_none_left_eq_some.mp hv').2]
  · intro name hgiven name' hmissing
    obtain ⟨a, ha, rfl⟩ := List.mem_map.mp hgiven
    obtain ⟨v, hv, rfl⟩ := List.mem_map.mp hmissing
    obtain ⟨spec, hspec, hdefault, hfree⟩ := mem_missingDefaults_iff.mp hv
    rw [hs.default spec hspec v hdefault]
    exact hfree a ha

/-- **Inference reads an attribute as the node sets it, or its declared default.** -/
theorem attribute?_of_settings (h : (given.map (·.name)).Nodup) {c : InferenceContext}
    (hc : c.attributes = given ++ missingDefaults s given) (name : String) :
    c.attribute? name
      = (given.find? (·.name == name)).or ((s.attribute? name).bind (·.default?)) := by
  ext v
  rw [InferenceContext.attribute?, hc, find?_key_reverse (nodup_append_missingDefaults hs h),
    find?_key_eq_some_iff (nodup_append_missingDefaults hs h), List.mem_append,
    mem_missingDefaults_iff, Option.or_eq_some_iff, find?_key_eq_some_iff h,
    List.find?_eq_none, Option.bind_eq_some_iff]
  constructor
  · rintro ⟨hv | ⟨spec, hspec, hdefault, hfree⟩, rfl⟩
    · exact .inl ⟨hv, rfl⟩
    · have hname := hs.default spec hspec v hdefault
      refine .inr ⟨by simpa [hname] using hfree, spec, ?_, hdefault⟩
      exact (find?_key_eq_some_iff hs.nodup).mpr ⟨hspec, hname.symm⟩
  · rintro (⟨hv, rfl⟩ | ⟨hfree, spec, hfound, hdefault⟩)
    · exact ⟨.inl hv, rfl⟩
    · obtain ⟨hspec, rfl⟩ := (find?_key_eq_some_iff hs.nodup).mp hfound
      exact ⟨.inr ⟨spec, hspec, hdefault, by simpa using hfree⟩, hs.default spec hspec v hdefault⟩

end

end TensorGraph
