import Mathlib.Data.List.Nodup
import TensorGraph.Proofs.Actions
import TensorGraph.Proofs.Registry.Versions
import TensorGraph.Proofs.Results

/-!
# Proofs/Registry/History — a registry answers for what was registered

    requests     register a₂   register b₁   register a₂   register a₁   freeze   register c₁
    answer       ok            ok            repeated      ok                     frozen
    operators    a: 2          a: 2, b: 1    a: 2, b: 1    a: 1 2, b: 1

A registry is reached from the empty one by requests.  What it answers is determined by the
schemas whose registration succeeded, in whatever order they came, and by whether it was frozen
(`Registry.reflects_serveAll`).  The invariant behind it is `Registry.Holds`: no operator has two
entries, the schemas of each entry stand in strictly increasing order of version, and all of them
together are a rearrangement of what was registered.
-/

namespace TensorGraph

/-! ## The entries of operators -/

theorem OpSchema.isFor_iff {s : OpSchema} {domain name : String} :
    s.isFor domain name = true ↔ s.domain = domain ∧ s.name = name := by
  simp [isFor]

namespace OperatorVersions

/-- The operator of an entry. -/
def operator (o : OperatorVersions) : String × String := (o.domain, o.name)

theorem isFor_iff {o : OperatorVersions} {domain name : String} :
    o.isFor domain name = true ↔ o.operator = (domain, name) := by
  simp [isFor, operator]

variable {o p : OperatorVersions} {os : List OperatorVersions}

/-- What is in an entry belongs to its operator. -/
theorem operator_eq_of_mem {s : OpSchema} (h : s ∈ o.schemas) :
    o.operator = (s.domain, s.name) := by
  obtain ⟨hdomain, hname⟩ := OpSchema.isFor_iff.mp (o.own s h)
  rw [operator, hdomain, hname]

theorem mem_putEntry (h : p ∈ putEntry o os) : p = o ∨ p ∈ os := by
  induction os with
  | nil => exact .inl (List.mem_singleton.mp h)
  | cons q os ih =>
    rw [putEntry] at h
    split at h <;> rw [List.mem_cons] at h <;> grind

/-- Setting the entry of an operator leaves one entry for each operator. -/
theorem nodup_putEntry (h : (os.map operator).Nodup) : ((putEntry o os).map operator).Nodup := by
  induction os with
  | nil => exact List.nodup_singleton _
  | cons q os ih =>
    rw [List.map_cons, List.nodup_cons] at h
    rw [putEntry]
    split
    next hq =>
      have hsame : q.operator = o.operator := isFor_iff.mp hq
      rw [List.map_cons, List.nodup_cons, ← hsame]
      exact h
    next hq =>
      rw [List.map_cons, List.nodup_cons]
      refine ⟨fun hmem => ?_, ih h.2⟩
      obtain ⟨p, hp, hsame⟩ := List.mem_map.mp hmem
      obtain rfl | hp := mem_putEntry hp
      · exact hq (isFor_iff.mpr hsame.symm)
      · exact h.1 (List.mem_map.mpr ⟨p, hp, hsame⟩)

/-- An operator other than that of the entry is looked up as before. -/
theorem find?_putEntry {domain name : String} (h : ¬ (o.domain = domain ∧ o.name = name)) :
    (putEntry o os).find? (·.isFor domain name) = os.find? (·.isFor domain name) := by
  have ho : ¬ o.isFor domain name = true := by simpa [isFor] using h
  induction os with
  | nil => simp [putEntry, ho]
  | cons q os ih =>
    rw [putEntry]
    split
    next hq =>
      have hsame : q.isFor domain name = o.isFor domain name := by
        obtain ⟨hdomain, hname⟩ := Prod.mk.inj (isFor_iff.mp hq)
        rw [isFor, isFor, hdomain, hname]
      simp [ho, hsame]
    next => rw [List.find?_cons, List.find?_cons, ih]

/-- An entry with one schema more than its operator had brings one schema more. -/
theorem flatMap_putEntry_perm {s : OpSchema}
    (h : o.schemas.Perm (s :: (os.find? (·.isFor o.domain o.name)).elim [] (·.schemas))) :
    ((putEntry o os).flatMap (·.schemas)).Perm (s :: os.flatMap (·.schemas)) := by
  induction os with
  | nil => simpa [putEntry] using h
  | cons q os ih =>
    rw [List.find?_cons] at h
    rw [putEntry]
    split
    next hq =>
      rw [hq] at h
      simpa using h.append_right (os.flatMap (·.schemas))
    next hq =>
      rw [Bool.eq_false_iff.mpr hq] at h
      calc (q :: putEntry o os).flatMap (·.schemas)
        _ |>.Perm (q.schemas ++ s :: os.flatMap (·.schemas)) := (ih h).append_left _
        _ |>.Perm (s :: (q :: os).flatMap (·.schemas)) := List.perm_middle

theorem putEntry_of_new (h : ∀ p ∈ os, p.operator ≠ o.operator) : putEntry o os = os ++ [o] := by
  induction os with
  | nil => rfl
  | cons q os ih =>
    have hq : ¬ q.isFor o.domain o.name = true := fun hq => h q List.mem_cons_self (isFor_iff.mp hq)
    rw [putEntry, if_neg hq, ih fun p hp => h p (.tail q hp), List.cons_append]

/-- The entry of an operator with one schema. -/
def single (s : OpSchema) : OperatorVersions where
  domain := s.domain
  name := s.name
  schemas := [s]
  own t ht := by simp [List.mem_singleton.mp ht, OpSchema.isFor]

end OperatorVersions

/-! ## Requests, and what they register -/

/-- A request that may change a registry. -/
inductive Request where
  | register (s : OpSchema)
  | freeze

namespace Registry

/-- What a request leaves of a registry, whether it succeeds or fails. -/
def serve (r : Registry) : Request → Registry
  | .register s => (add s).left r
  | .freeze => r.freeze

/-- Serves requests in order. -/
def serveAll (r : Registry) (requests : List Request) : Registry := requests.foldl serve r

/-- The schemas whose registration succeeds as requests are served, in order. -/
def registered (r : Registry) : List Request → List OpSchema
  | [] => []
  | .freeze :: rest => r.freeze.registered rest
  | .register s :: rest =>
    match add s r with
    | .ok _ r' => s :: r'.registered rest
    | .error _ r' => r'.registered rest

/-- A registration tests before it writes. -/
theorem isAtomic_add (s : OpSchema) : (add s).IsAtomic :=
  Action.isAtomic_get_bind fun _ =>
    .ite (Action.isAtomic_throw _) (.ite (Action.isAtomic_throw _) (Action.isAtomic_set _))

section

variable {r r' : Registry} {s : OpSchema}

/-- **A registration that fails leaves the registry as it was.** -/
theorem serve_of_register_eq_error {e : RegisterFault} (h : r.register s = .error e) :
    r.serve (.register s) = r :=
  (isAtomic_add s).left_of_error h

theorem serve_of_register_eq_ok (h : r.register s = .ok r') : r.serve (.register s) = r' :=
  Action.left_of_result h

theorem registered_of_error {e : RegisterFault} (h : r.register s = .error e)
    (rest : List Request) : r.registered (.register s :: rest) = r.registered rest := by
  obtain ⟨r', hr'⟩ := Action.result_eq_error_iff.mp h
  obtain rfl := isAtomic_add s r e r' hr'
  rw [registered, hr']

theorem registered_of_ok (h : r.register s = .ok r') (rest : List Request) :
    r.registered (.register s :: rest) = s :: r'.registered rest := by
  obtain ⟨_, hr'⟩ := Action.result_eq_ok_iff.mp h
  rw [registered, hr']

theorem register_eq : r.register s =
    if r.frozen then .error (.frozen s.text)
    else if hasVersion s.since (r.versionsOf s.domain s.name) then .error (.repeated s.text)
    else .ok { r with operators := putEntry (r.entryWith s) r.operators } := by
  simp [register, add]

/-- A schema is registered exactly where the registry is open and its version is not found. -/
theorem register_eq_ok_iff : r.register s = .ok r' ↔
    ¬ r.frozen = true ∧ ¬ hasVersion s.since (r.versionsOf s.domain s.name) = true ∧
      r' = { r with operators := putEntry (r.entryWith s) r.operators } := by
  rw [register_eq, guard_eq_ok_iff, guard_eq_ok_iff, Except.ok.injEq, @eq_comm _ r']

/-- The first schema of an operator brings an entry. -/
theorem register_of_new (hopen : r.frozen = false)
    (hnew : ∀ o ∈ r.operators, o.operator ≠ (s.domain, s.name)) :
    r.register s = .ok { r with operators := r.operators ++ [.single s] } := by
  have hversions : r.versionsOf s.domain s.name = [] := by
    rw [versionsOf, List.find?_eq_none.mpr fun o ho hfor =>
      hnew o ho (OperatorVersions.isFor_iff.mp hfor)]
    rfl
  have hentry : r.entryWith s = .single s := by
    simp only [entryWith, hversions, insertVersion_nil]
    rfl
  rw [register_eq_ok_iff, hversions, hentry, OperatorVersions.putEntry_of_new hnew]
  simp [hopen]

/-- **A registration leaves all other operators alone.** -/
theorem versionsOf_register (hs : r.register s = .ok r') {domain name : String}
    (h : ¬ (s.domain = domain ∧ s.name = name)) :
    r'.versionsOf domain name = r.versionsOf domain name := by
  obtain ⟨-, -, rfl⟩ := register_eq_ok_iff.mp hs
  rw [versionsOf, versionsOf, OperatorVersions.find?_putEntry h]

end

/-! ## The invariant of a run -/

/-- A registry that holds some schemas, each at its place, and is frozen or not. -/
structure Holds (r : Registry) (entries : List OpSchema) (frozen : Prop) : Prop where
  frozen_iff : r.frozen = true ↔ frozen
  perm : r.gathered.Perm entries
  distinct : (r.operators.map (·.operator)).Nodup
  increasing : ∀ o ∈ r.operators, Increasing o.schemas

theorem holds_empty : empty.Holds [] False := ⟨by simp [empty], .refl _, .nil, nofun⟩

section

variable {r r' : Registry} {entries : List OpSchema} {frozen : Prop} {domain name : String}
  {s t : OpSchema}

theorem Holds.find?_of_mem (h : r.Holds entries frozen) {o : OperatorVersions}
    (ho : o ∈ r.operators) (hoperator : o.operator = (domain, name)) :
    r.operators.find? (·.isFor domain name) = some o := by
  cases hfind : r.operators.find? (·.isFor domain name) with
  | none =>
    have hnot := List.find?_eq_none.mp hfind o ho
    exact absurd (OperatorVersions.isFor_iff.mpr hoperator) hnot
  | some o' =>
    have hfor := List.find?_some hfind
    have hsame : o'.operator = (domain, name) := OperatorVersions.isFor_iff.mp hfor
    have hmem := List.mem_of_find?_eq_some hfind
    rw [List.inj_on_of_nodup_map h.distinct hmem ho (hsame.trans hoperator.symm)]

/-- The schemas of one operator stand in strictly increasing order of version. -/
theorem Holds.versionsOf_increasing (h : r.Holds entries frozen) (domain name : String) :
    Increasing (r.versionsOf domain name) := by
  rw [versionsOf]
  cases hfind : r.operators.find? (·.isFor domain name) with
  | none => exact .nil
  | some o => exact h.increasing o (List.mem_of_find?_eq_some hfind)

/-- A schema of an operator is in one of the entries. -/
theorem exists_of_mem_versionsOf (h : s ∈ r.versionsOf domain name) :
    ∃ o ∈ r.operators, s ∈ o.schemas := by
  rw [versionsOf] at h
  cases hfind : r.operators.find? (·.isFor domain name) with
  | none => simp [hfind] at h
  | some o => exact ⟨o, List.mem_of_find?_eq_some hfind, by simpa [hfind] using h⟩

/-- **The schemas of one operator are those registered for it.** -/
theorem Holds.mem_versionsOf_iff (h : r.Holds entries frozen) :
    s ∈ r.versionsOf domain name ↔ s ∈ entries ∧ s.domain = domain ∧ s.name = name := by
  rw [← h.perm.mem_iff, gathered, List.mem_flatMap]
  constructor
  · intro hs
    exact ⟨exists_of_mem_versionsOf hs, OpSchema.isFor_iff.mp (isFor_of_mem_versionsOf hs)⟩
  · rintro ⟨⟨o, ho, hs⟩, rfl, rfl⟩
    rw [versionsOf, h.find?_of_mem ho (OperatorVersions.operator_eq_of_mem hs)]
    exact hs

/-- A version is found exactly if it was registered: bisection misses nothing, as the versions
are in order. -/
theorem Holds.hasVersion_iff (h : r.Holds entries frozen) :
    hasVersion s.since (r.versionsOf s.domain s.name) = true ↔ ∃ t ∈ entries, t.key = s.key := by
  rw [(h.versionsOf_increasing s.domain s.name).hasVersion_iff]
  simp only [h.mem_versionsOf_iff, OpSchema.key, SchemaKey.mk.injEq, and_assoc]

theorem Holds.exists_register_eq_error_iff (h : r.Holds entries frozen) :
    (∃ e, r.register s = .error e) ↔ frozen ∨ ∃ t ∈ entries, t.key = s.key := by
  rw [exists_eq_error_iff]
  simp only [register_eq_ok_iff, exists_and_left, exists_eq, and_true]
  rw [not_and_or, not_not, not_not, h.frozen_iff, h.hasVersion_iff]

theorem Holds.freeze (h : r.Holds entries frozen) : r.freeze.Holds entries True :=
  ⟨by simp [Registry.freeze], h.perm, h.distinct, h.increasing⟩

/-- **The step lemma** — a registration that succeeds adds its schema, and keeps the versions of
each operator in order. -/
theorem Holds.register (h : r.Holds entries frozen) (hs : r.register s = .ok r') :
    r'.Holds (entries ++ [s]) frozen := by
  obtain ⟨-, hfree, rfl⟩ := register_eq_ok_iff.mp hs
  refine ⟨h.frozen_iff, ?_, OperatorVersions.nodup_putEntry h.distinct, fun o ho => ?_⟩
  · calc (putEntry (r.entryWith s) r.operators).flatMap (·.schemas)
      _ |>.Perm (s :: r.gathered) :=
        OperatorVersions.flatMap_putEntry_perm (insertVersion_perm s _)
      _ |>.Perm (s :: entries) := h.perm.cons s
      _ |>.Perm (entries ++ [s]) := (List.perm_append_singleton s entries).symm
  · obtain rfl | ho := OperatorVersions.mem_putEntry ho
    · exact (h.versionsOf_increasing s.domain s.name).insertVersion hfree
    · exact h.increasing o ho

/-- **The run lemma** — serving requests adds what is registered, and freezes if one of them asks
for it. -/
theorem Holds.serveAll : ∀ (requests : List Request) {r : Registry} {entries : List OpSchema}
    {frozen : Prop}, r.Holds entries frozen →
      (r.serveAll requests).Holds (entries ++ r.registered requests)
        (frozen ∨ .freeze ∈ requests)
  | [], r, entries, frozen, h => by
    simpa [Registry.serveAll, registered] using h
  | .freeze :: rest, r, entries, frozen, h => by
    have hrest := h.freeze.serveAll rest
    simpa [Registry.serveAll, serve, registered] using hrest
  | .register s :: rest, r, entries, frozen, h => by
    cases hs : r.register s with
    | error e =>
      have hrest := h.serveAll rest
      rw [registered_of_error hs]
      simpa [Registry.serveAll, serve_of_register_eq_error hs] using hrest
    | ok r' =>
      have hrest := (h.register hs).serveAll rest
      rw [registered_of_ok hs]
      simpa [Registry.serveAll, serve_of_register_eq_ok hs] using hrest

/-- A registry that is reached from the empty one holds what was registered. -/
theorem holds_serveAll (requests : List Request) :
    (empty.serveAll requests).Holds (empty.registered requests) (.freeze ∈ requests) := by
  simpa using holds_empty.serveAll requests

end

/-! ## The answers of a registry -/

/-- The schema in effect for an opset: one of the operator, with the greatest version that is not
above the opset. -/
structure InEffect (ss : List OpSchema) (domain name : String) (opset : Int) (s : OpSchema) :
    Prop where
  mem : s ∈ ss
  isFor : s.domain = domain ∧ s.name = name
  since_le : s.since ≤ opset
  greatest : ∀ t ∈ ss, t.domain = domain → t.name = name → t.since ≤ opset → t.since ≤ s.since

/-- In increasing order of version, the last that is not above an opset is the greatest. -/
theorem greatest_of_find?_reverse {ss : List OpSchema} {opset : Int} {s : OpSchema}
    (hsorted : Increasing ss)
    (h : ss.reverse.find? (·.since ≤ opset) = some s) {t : OpSchema} (ht : t ∈ ss)
    (hle : t.since ≤ opset) : t.since ≤ s.since := by
  obtain ⟨-, later, earlier, hsplit, hlater⟩ := List.find?_eq_some_iff_append.mp h
  have hss : ss = earlier.reverse ++ s :: later.reverse := by
    rw [← List.reverse_reverse ss, hsplit]
    simp
  rw [hss] at ht hsorted
  rcases List.mem_append.mp ht with ht | ht
  · exact le_of_lt ((List.pairwise_append.mp hsorted).2.2 t ht s List.mem_cons_self)
  · rcases List.mem_cons.mp ht with rfl | ht
    · exact le_refl _
    · have hnot := hlater t (List.mem_reverse.mp ht)
      simp [hle] at hnot

section

variable {r : Registry} {entries : List OpSchema} {frozen : Prop}

/-- Two schemas of one operator and one version in a registry are the same schema. -/
theorem Holds.eq_of_since_eq (h : r.Holds entries frozen) {domain name : String} {s t : OpSchema}
    (hs : s ∈ r.versionsOf domain name) (ht : t ∈ r.versionsOf domain name)
    (hsince : s.since = t.since) : s = t := by
  have hnodup : ((r.versionsOf domain name).map (·.since)).Nodup :=
    List.pairwise_map.mpr ((h.versionsOf_increasing domain name).imp ne_of_lt)
  exact List.inj_on_of_nodup_map hnodup hs ht hsince

theorem Holds.inEffect_of_schema? (h : r.Holds entries frozen) {domain name : String}
    {opset : Int} {s : OpSchema} (hs : r.schema? domain name opset = some s) :
    InEffect entries domain name opset s := by
  have hversion : s ∈ r.versionsOf domain name :=
    List.mem_reverse.mp (List.mem_of_find?_eq_some hs)
  obtain ⟨hmem, hfor⟩ := h.mem_versionsOf_iff.mp hversion
  refine ⟨hmem, hfor, by simpa using List.find?_some hs, ?_⟩
  intro t ht hdomain hname hle
  have htversion : t ∈ r.versionsOf domain name := h.mem_versionsOf_iff.mpr ⟨ht, hdomain, hname⟩
  exact greatest_of_find?_reverse (h.versionsOf_increasing domain name) hs htversion hle

theorem Holds.schema?_eq_none_iff (h : r.Holds entries frozen) {domain name : String}
    {opset : Int} : r.schema? domain name opset = none ↔
      ¬ ∃ t ∈ entries, (t.domain = domain ∧ t.name = name) ∧ t.since ≤ opset := by
  rw [schema?, List.find?_eq_none]
  constructor
  · rintro hnone ⟨t, ht, hfor, hle⟩
    have htversion : t ∈ r.versionsOf domain name := h.mem_versionsOf_iff.mpr ⟨ht, hfor⟩
    exact hnone t (List.mem_reverse.mpr htversion) (by simpa using hle)
  · intro hnone t ht hle
    obtain ⟨hmem, hfor⟩ := h.mem_versionsOf_iff.mp (List.mem_reverse.mp ht)
    exact hnone ⟨t, hmem, hfor, by simpa using hle⟩

/-- **A registry finds exactly the schema in effect.** -/
theorem Holds.schema?_eq_some_iff (h : r.Holds entries frozen) {domain name : String}
    {opset : Int} {s : OpSchema} :
    r.schema? domain name opset = some s ↔ InEffect entries domain name opset s := by
  refine ⟨h.inEffect_of_schema?, fun hs => ?_⟩
  cases hfound : r.schema? domain name opset with
  | none => exact absurd ⟨s, hs.mem, hs.isFor, hs.since_le⟩ (h.schema?_eq_none_iff.mp hfound)
  | some t =>
    -- what is found has the same version, and versions tell the schemas of an operator apart
    have ht := h.inEffect_of_schema? hfound
    have hsince : t.since = s.since :=
      le_antisymm (hs.greatest t ht.mem ht.isFor.1 ht.isFor.2 ht.since_le)
        (ht.greatest s hs.mem hs.isFor.1 hs.isFor.2 hs.since_le)
    have htversion := h.mem_versionsOf_iff.mpr ⟨ht.mem, ht.isFor⟩
    have hsversion := h.mem_versionsOf_iff.mpr ⟨hs.mem, hs.isFor⟩
    rw [h.eq_of_since_eq htversion hsversion hsince]

theorem Holds.mem_versions_iff (h : r.Holds entries frozen) {domain name : String} {v : Int} :
    v ∈ r.versions domain name ↔
      ∃ t ∈ entries, (t.domain = domain ∧ t.name = name) ∧ t.since = v := by
  simp only [versions, List.mem_map, h.mem_versionsOf_iff, and_assoc]

theorem size_eq_length_gathered (r : Registry) : r.size = r.gathered.length := by
  rw [size, gathered]
  induction r.operators with
  | nil => rfl
  | cons o os ih => rw [List.foldr_cons, List.flatMap_cons, List.length_append, ih]

theorem Holds.size_eq (h : r.Holds entries frozen) : r.size = entries.length := by
  rw [size_eq_length_gathered, h.perm.length_eq]

end

/-- What a registry answers after some requests, which registered some schemas. -/
structure Reflects (r : Registry) (requests : List Request) (registered : List OpSchema) :
    Prop where
  /-- A registration is refused after a freeze, and where the key is taken. -/
  refuses_iff : ∀ s, (∃ e, r.register s = .error e) ↔
    .freeze ∈ requests ∨ ∃ t ∈ registered, t.key = s.key
  refused : ∀ s e, r.register s = .error e → r.serve (.register s) = r
  schema?_eq_some_iff : ∀ domain name opset s,
    r.schema? domain name opset = some s ↔ InEffect registered domain name opset s
  schema?_eq_none_iff : ∀ domain name opset, r.schema? domain name opset = none ↔
    ¬ ∃ t ∈ registered, (t.domain = domain ∧ t.name = name) ∧ t.since ≤ opset
  versions_increasing : ∀ domain name, (r.versions domain name).Pairwise (· < ·)
  mem_versions_iff : ∀ domain name v, v ∈ r.versions domain name ↔
    ∃ t ∈ registered, (t.domain = domain ∧ t.name = name) ∧ t.since = v
  size_eq : r.size = registered.length
  /-- A registration that succeeds changes the answers for its own operator only. -/
  frame : ∀ s r', r.register s = .ok r' →
    ∀ domain name, ¬ (s.domain = domain ∧ s.name = name) →
      r'.versions domain name = r.versions domain name ∧
        ∀ opset, r'.schema? domain name opset = r.schema? domain name opset

/-- **A registry answers for what was registered** — after any requests to an empty registry, its
answers are those of the set of schemas whose registration succeeded. -/
theorem reflects_serveAll (requests : List Request) :
    (empty.serveAll requests).Reflects requests (empty.registered requests) := by
  have h := holds_serveAll requests
  refine
    { refuses_iff := fun _ => h.exists_register_eq_error_iff
      refused := fun _ _ => serve_of_register_eq_error
      schema?_eq_some_iff := fun _ _ _ _ => h.schema?_eq_some_iff
      schema?_eq_none_iff := fun _ _ _ => h.schema?_eq_none_iff
      versions_increasing := fun domain name => ?_
      mem_versions_iff := fun _ _ _ => h.mem_versions_iff
      size_eq := h.size_eq
      frame := fun s r' hs domain name hother => ?_ }
  · exact List.pairwise_map.mpr (h.versionsOf_increasing domain name)
  · have hversions := versionsOf_register hs hother
    exact ⟨by rw [versions, versions, hversions], fun opset => by rw [schema?, schema?, hversions]⟩

end Registry

end TensorGraph
