import TensorGraph.Proofs.Registry.History
import TensorGraph.Proofs.Text.ByteOrder

/-!
# Proofs/Registry/Canonical — one list for one set of schemas

    operators, in some order     b       a           c
    their schemas                b₁      a₁ a₂       c₇
    rearranged by key            a₁ a₂ b₁ c₇

A registry lists its schemas by domain, name and version, the texts in the order of their bytes
(`SchemaKey.before_iff`).  Keys are distinct, so there is one such list
(`KeySorted.eq_of_perm`): it does not matter in which order the schemas were registered, in which
order the operators are visited to gather their schemas, or whether the sorting that follows is
stable (`Registry.schemas_canonical`).  The list says all that the registry knows: an operator has
the schemas of the list that are for it (`Registry.Holds.versionsOf_eq_filter`), and a registration
puts its schema into the list (`Registry.Holds.schemas_register`).
-/

namespace TensorGraph

/-! ## The order of keys -/

/-- The order of keys, said of bytes. -/
def SchemaKey.ByteLt (a b : SchemaKey) : Prop :=
  Text.bytes a.domain < Text.bytes b.domain ∨
    a.domain = b.domain ∧ (Text.bytes a.name < Text.bytes b.name ∨
      a.name = b.name ∧ a.since < b.since)

namespace SchemaKey

theorem before_trans {a b c : SchemaKey} (hab : a.before b) (hbc : b.before c) : a.before c := by
  simp only [before] at hab hbc ⊢
  grind

theorem before_of_not_before {a b : SchemaKey} (h : ¬ a.before b) (hne : a ≠ b) : b.before a := by
  obtain ⟨domain, name, since⟩ := a
  obtain ⟨domain', name', since'⟩ := b
  simp only [before] at h ⊢
  grind

theorem before_iff {a b : SchemaKey} : a.before b = true ↔ a.ByteLt b := by
  rw [ByteLt, Text.bytes_lt_iff, Text.bytes_lt_iff, before]
  by_cases hdomain : a.domain = b.domain
  · by_cases hname : a.name = b.name
    · simp [hdomain, hname]
    · simp [hdomain, hname]
  · simp [hdomain]

theorem before_irrefl (a : SchemaKey) : ¬ a.before a = true := by simp [before]

end SchemaKey

/-- Among the schemas of one operator the key order is the order of versions. -/
theorem OpSchema.since_lt_of_before {s t : OpSchema} {domain name : String}
    (hs : s.isFor domain name) (ht : t.isFor domain name) (h : s.key.before t.key) :
    s.since < t.since := by
  obtain ⟨rfl, rfl⟩ := isFor_iff.mp hs
  obtain ⟨hdomain, hname⟩ := isFor_iff.mp ht
  simpa [SchemaKey.before, key, hdomain, hname] using h

/-! ## A strictly sorted list is determined by what is in it -/

/-- Schemas in strictly increasing order of their keys. -/
abbrev KeySorted (ss : List OpSchema) : Prop := ss.Pairwise fun s t => s.key.before t.key

theorem insertSchema_eq_orderedInsert (s : OpSchema) (ss : List OpSchema) :
    insertSchema s ss = ss.orderedInsert (fun s t => s.key.before t.key = true) s := by
  induction ss with
  | nil => rfl
  | cons t ts ih => rw [insertSchema, List.orderedInsert, ih]

theorem insertSchema_perm (s : OpSchema) (ss : List OpSchema) :
    (insertSchema s ss).Perm (s :: ss) := by
  rw [insertSchema_eq_orderedInsert]
  exact List.perm_orderedInsert _ s ss

theorem sortSchemas_perm (ss : List OpSchema) : (sortSchemas ss).Perm ss := by
  induction ss with
  | nil => exact .refl _
  | cons s ss ih => exact (insertSchema_perm s _).trans (ih.cons s)

namespace KeySorted

theorem insertSchema {s : OpSchema} {ss : List OpSchema} (h : KeySorted ss)
    (hfree : ∀ t ∈ ss, t.key ≠ s.key) : KeySorted (insertSchema s ss) := by
  rw [insertSchema_eq_orderedInsert]
  refine pairwise_orderedInsert (r := fun s t : OpSchema => s.key.before t.key = true)
    SchemaKey.before_trans h fun t ht hnot => ?_
  exact SchemaKey.before_of_not_before hnot (hfree t ht).symm

/-- **Sorting schemas with distinct keys** leaves no two that are not in order. -/
theorem sortSchemas {ss : List OpSchema} (h : (ss.map (·.key)).Nodup) :
    KeySorted (sortSchemas ss) := by
  induction ss with
  | nil => exact .nil
  | cons s ss ih =>
    rw [List.map_cons, List.nodup_cons] at h
    refine (ih h.2).insertSchema fun t ht heq => h.1 ?_
    rw [← heq]
    exact List.mem_map_of_mem ((sortSchemas_perm ss).mem_iff.mp ht)

theorem nodup_keys {ss : List OpSchema} (h : KeySorted ss) : (ss.map (·.key)).Nodup := by
  refine List.pairwise_map.mpr (h.imp fun {s t} hst heq => ?_)
  rw [heq] at hst
  exact SchemaKey.before_irrefl _ hst

theorem nodup {ss : List OpSchema} (h : KeySorted ss) : ss.Nodup := h.nodup_keys.of_map

theorem not_before {ss : List OpSchema} (h : KeySorted ss) :
    ss.Pairwise fun s t => ¬ t.key.before s.key = true :=
  h.imp fun hst hts => SchemaKey.before_irrefl _ (SchemaKey.before_trans hst hts)

/-- **One sorted form** — a rearrangement in which nothing stands before a smaller key is the list
itself.  Only distinct keys make it so; with equal ones a sort that is not stable could choose. -/
theorem eq_of_perm {ss l : List OpSchema} (h : KeySorted ss) (hperm : l.Perm ss)
    (hl : l.Pairwise fun s t => ¬ t.key.before s.key = true) : l = ss := by
  refine List.Perm.eq_of_pairwise (fun s t hs ht hst hts => ?_) hl h.not_before hperm
  have hkey : s.key = t.key := by
    by_contra hne
    exact hst (SchemaKey.before_of_not_before hts hne)
  exact List.inj_on_of_nodup_map h.nodup_keys (hperm.mem_iff.mp hs) ht hkey

end KeySorted

namespace Registry

/-! ## Gathering the schemas operator by operator -/

/-- The schemas of some operators, given by domain and name, one operator after another. -/
def gather (r : Registry) (operators : List (String × String)) : List OpSchema :=
  operators.flatMap fun o => r.versionsOf o.1 o.2

/-- A list of operators in which the operator of every schema stands, and none twice. -/
structure Covers (operators : List (String × String)) (ss : List OpSchema) : Prop where
  nodup : operators.Nodup
  complete : ∀ s ∈ ss, (s.domain, s.name) ∈ operators

/-! ## The list of a registry -/

section

variable {r r' : Registry} {entries : List OpSchema} {frozen : Prop}

/-- No two schemas of a registry have one key: they differ in operator or in version. -/
theorem Holds.nodup_keys (h : r.Holds entries frozen) : (r.gathered.map (·.key)).Nodup := by
  rw [List.Nodup, List.pairwise_map, gathered, List.pairwise_flatMap]
  constructor
  · intro o ho
    exact (h.increasing o ho).imp fun {s t} hlt heq => hlt.ne (congrArg SchemaKey.since heq)
  · refine (List.pairwise_map.mp h.distinct).imp fun {o p} hne s hs t ht heq => hne ?_
    rw [OperatorVersions.operator_eq_of_mem hs, OperatorVersions.operator_eq_of_mem ht]
    exact congrArg (fun k : SchemaKey => (k.domain, k.name)) heq

theorem Holds.keySorted (h : r.Holds entries frozen) : KeySorted r.schemas :=
  .sortSchemas h.nodup_keys

theorem Holds.schemas_perm (h : r.Holds entries frozen) : r.schemas.Perm entries :=
  (sortSchemas_perm r.gathered).trans h.perm

/-- **The list of a registry has the schemas of each operator**, in the same order. -/
theorem Holds.versionsOf_eq_filter (h : r.Holds entries frozen) (domain name : String) :
    r.versionsOf domain name = r.schemas.filter (·.isFor domain name) := by
  have hversions := h.versionsOf_increasing domain name
  have hfilter : Increasing (r.schemas.filter (·.isFor domain name)) :=
    (h.keySorted.filter _).imp_of_mem fun {s t} hs ht hbefore =>
      OpSchema.since_lt_of_before (List.mem_filter.mp hs).2 (List.mem_filter.mp ht).2 hbefore
  have hperm : (r.versionsOf domain name).Perm (r.schemas.filter (·.isFor domain name)) := by
    refine (List.perm_ext_iff_of_nodup hversions.nodup hfilter.nodup).mpr fun s => ?_
    rw [h.mem_versionsOf_iff, List.mem_filter, h.schemas_perm.mem_iff, OpSchema.isFor_iff]
  exact hperm.eq_of_pairwise (fun s t _ _ hst hts => absurd (lt_trans hst hts) (lt_irrefl _))
    hversions hfilter

/-- **A registration puts its schema into the list.** -/
theorem Holds.schemas_register (h : r.Holds entries frozen) {s : OpSchema}
    (hs : r.register s = .ok r') : r'.schemas = insertSchema s r.schemas := by
  have h' := h.register hs
  have hfree : ∀ t ∈ r.schemas, t.key ≠ s.key := by
    intro t ht heq
    obtain ⟨-, hnot, -⟩ := register_eq_ok_iff.mp hs
    exact hnot (h.hasVersion_iff.mpr ⟨t, h.schemas_perm.mem_iff.mp ht, heq⟩)
  refine (h.keySorted.insertSchema hfree).eq_of_perm ?_ h'.keySorted.not_before
  calc r'.schemas
    _ |>.Perm (entries ++ [s]) := h'.schemas_perm
    _ |>.Perm (s :: entries) := List.perm_append_singleton s entries
    _ |>.Perm (s :: r.schemas) := h.schemas_perm.symm.cons s
    _ |>.Perm (insertSchema s r.schemas) := (insertSchema_perm s r.schemas).symm

theorem Holds.gather_perm (h : r.Holds entries frozen) {operators : List (String × String)}
    (hcovers : Covers operators entries) : (r.gather operators).Perm r.schemas := by
  have hgather : (r.gather operators).Nodup := by
    refine List.nodup_flatMap.mpr
      ⟨fun o _ => (h.versionsOf_increasing o.1 o.2).nodup, hcovers.nodup.imp ?_⟩
    intro o o' hne s hs hs'
    -- a schema has one operator, so no two operators share one
    obtain ⟨-, hdomain, hname⟩ := h.mem_versionsOf_iff.mp hs
    obtain ⟨-, hdomain', hname'⟩ := h.mem_versionsOf_iff.mp hs'
    exact hne (Prod.ext (hdomain.symm.trans hdomain') (hname.symm.trans hname'))
  refine (List.perm_ext_iff_of_nodup hgather h.keySorted.nodup).mpr fun s => ?_
  simp only [gather, List.mem_flatMap, h.mem_versionsOf_iff, h.schemas_perm.mem_iff]
  constructor
  · rintro ⟨o, -, hs, -⟩
    exact hs
  · intro hs
    exact ⟨(s.domain, s.name), hcovers.complete s hs, hs, rfl, rfl⟩

end

/-- Two registries that give the same answers. -/
structure SameAnswers (r r' : Registry) : Prop where
  schemas : r.schemas = r'.schemas
  schema? : ∀ domain name opset, r.schema? domain name opset = r'.schema? domain name opset
  versions : ∀ domain name, r.versions domain name = r'.versions domain name
  size : r.size = r'.size

theorem Holds.sameAnswers {r r' : Registry} {entries entries' : List OpSchema}
    {frozen frozen' : Prop} (h : r.Holds entries frozen) (h' : r'.Holds entries' frozen')
    (hperm : entries.Perm entries') : r.SameAnswers r' := by
  have hschemas : r.schemas = r'.schemas :=
    h'.keySorted.eq_of_perm ((h.schemas_perm.trans hperm).trans h'.schemas_perm.symm)
      h.keySorted.not_before
  have hversions (domain name : String) : r.versionsOf domain name = r'.versionsOf domain name := by
    rw [h.versionsOf_eq_filter, h'.versionsOf_eq_filter, hschemas]
  exact
    { schemas := hschemas
      schema? := fun domain name opset => by rw [Registry.schema?, Registry.schema?, hversions]
      versions := fun domain name => by rw [Registry.versions, Registry.versions, hversions]
      size := by rw [h.size_eq, h'.size_eq, hperm.length_eq] }

/-- The list of a registry in which some schemas were registered. -/
structure Canonical (r : Registry) (registered : List OpSchema) : Prop where
  /-- Everything that was registered is listed, as often as it was registered; -/
  perm : r.schemas.Perm registered
  /-- that is once, since no two schemas have one key. -/
  nodup : (r.schemas.map (·.key)).Nodup
  increasing : r.schemas.Pairwise fun s t => s.key.ByteLt t.key
  size_eq : ∀ operators, Covers operators registered → r.size = (r.gather operators).length
  /-- Gathering the schemas in any order of the operators and sorting them in any way gives the
  list. -/
  sorted_gather : ∀ operators, Covers operators registered →
    ∀ l : List OpSchema, l.Perm (r.gather operators) →
      (l.Pairwise fun s t => ¬ t.key.ByteLt s.key) → l = r.schemas

theorem Holds.canonical {r : Registry} {entries : List OpSchema} {frozen : Prop}
    (h : r.Holds entries frozen) : r.Canonical entries := by
  refine
    { perm := h.schemas_perm
      nodup := h.keySorted.nodup_keys
      increasing := h.keySorted.imp SchemaKey.before_iff.mp
      size_eq := fun operators hcovers => ?_
      sorted_gather := fun operators hcovers l hl hsorted => ?_ }
  · rw [(h.gather_perm hcovers).length_eq, h.schemas_perm.length_eq, h.size_eq]
  · exact h.keySorted.eq_of_perm (hl.trans (h.gather_perm hcovers))
      (hsorted.imp fun hts hbefore => hts (SchemaKey.before_iff.mp hbefore))

/-- **A registry lists its schemas in one way** — after any requests to an empty registry, the
list is that of the schemas whose registration succeeded, each once, in increasing order of keys,
and requests that register the same schemas in another order lead to the same answers. -/
theorem schemas_canonical (requests : List Request) :
    (empty.serveAll requests).Canonical (empty.registered requests) ∧
      ∀ requests', (empty.registered requests').Perm (empty.registered requests) →
        (empty.serveAll requests').SameAnswers (empty.serveAll requests) :=
  ⟨(holds_serveAll requests).canonical, fun requests' =>
    (holds_serveAll requests').sameAnswers (holds_serveAll requests)⟩

/-- A schema with nothing but a key. -/
def keyOnly (domain name : String) (since : Int) : OpSchema :=
  ⟨name, domain, since, "", [], [], [], [], none⟩

/-- One operator in two versions and one in another domain, registered in two orders; a repeated
registration and one after the freeze register nothing. -/
theorem schemas_canonical_interleaved :
    let add domain name since := Request.register (keyOnly domain name since)
    let requests := [add "" "Sum" 13, add "é" "Sum" 1, add "" "Sum" 1]
    let requests' := [add "" "Sum" 1, add "" "Sum" 13, add "" "Sum" 1, add "é" "Sum" 1, .freeze,
      add "z" "Max" 1]
    let operators := [("é", "Sum"), ("", "Sum")]
    let listed := [keyOnly "" "Sum" 1, keyOnly "" "Sum" 13, keyOnly "é" "Sum" 1]
    (empty.registered requests').Perm (empty.registered requests) ∧
      (empty.serveAll requests').SameAnswers (empty.serveAll requests) ∧
      Covers operators (empty.registered requests) ∧
      listed.Perm ((empty.serveAll requests).gather operators) ∧
      (empty.serveAll requests).schemas = listed := by
  intro add requests requests' operators listed
  have hregistered : empty.registered requests =
      [keyOnly "" "Sum" 13, keyOnly "é" "Sum" 1, keyOnly "" "Sum" 1] := by
    with_unfolding_all rfl
  have hregistered' : empty.registered requests' = listed := by
    with_unfolding_all rfl
  have hperm : (empty.registered requests').Perm (empty.registered requests) := by
    rw [hregistered, hregistered']
    exact (List.perm_append_singleton _ [_, _]).symm
  have hcovers : Covers operators (empty.registered requests) := by
    rw [hregistered]
    exact ⟨by decide, by simp [operators, keyOnly]⟩
  have hgather : listed.Perm ((empty.serveAll requests).gather operators) := by
    have heq : (empty.serveAll requests).gather operators =
        [keyOnly "é" "Sum" 1, keyOnly "" "Sum" 1, keyOnly "" "Sum" 13] := by
      with_unfolding_all rfl
    rw [heq]
    exact List.perm_append_singleton _ [_, _]
  have hsorted : listed.Pairwise fun s t => ¬ t.key.ByteLt s.key := by
    simp only [← SchemaKey.before_iff]
    decide
  obtain ⟨hcanonical, hsame⟩ := schemas_canonical requests
  exact ⟨hperm, hsame requests' hperm, hcovers, hgather,
    (hcanonical.sorted_gather operators hcovers listed hgather hsorted).symm⟩

end Registry

end TensorGraph
