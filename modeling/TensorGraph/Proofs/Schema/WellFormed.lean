import Mathlib.Data.List.Forall2
import Mathlib.Data.List.Perm.Subperm
import TensorGraph.Proofs.Schema.Declarations
import TensorGraph.Proofs.Tensor.TypeSyntax

/-!
# Proofs/Schema/WellFormed — a schema that is built is in order

    declared        input 2   input 0   input 1
    count           3, and no index is 3 or more
    hence           0  1  2, each once
    schema          input 0   input 1   input 2

Building checks only that no index reaches the number of parameters.  The indices are distinct, so
they are then all the numbers below it, and each position holds the parameter declared for it
(`Arranges`).  A parameter is concrete or generic and never both, since the variables are
identifiers and identifiers are no tensor types.  `Draft.wellFormed_of_build` says so of every
schema that is built, whatever the declarations.
-/

namespace TensorGraph

/-! ## Schemas in order -/

/-- A parameter of a concrete tensor type, which names no type variable. -/
structure Parameter.IsConcrete (p : Parameter) (cs : List TypeConstraint) : Prop where
  parsed : parseTensorText p.typeText = some (.ok p.dtype)
  known : p.dtype ≠ .invalid
  unnamed : ∀ c ∈ cs, c.name ≠ p.typeText

/-- A parameter whose type is given by exactly one type variable. -/
structure Parameter.IsGeneric (p : Parameter) (cs : List TypeConstraint) : Prop where
  unknown : p.dtype = .invalid
  named : ∃! c, c ∈ cs ∧ c.name = p.typeText

/-- A parameter in order: it is concrete or generic, and can tell which. -/
structure Parameter.WellFormed (p : Parameter) (cs : List TypeConstraint) : Prop where
  name : Text.isIdentifier p.name = true
  typed : p.IsConcrete cs ∨ p.IsGeneric cs
  isVariable_iff : p.isVariable = true ↔ p.IsGeneric cs

namespace OpSchema

/-- The parameters of one side. -/
def parameters (s : OpSchema) : Side → List Parameter
  | .input => s.inputs
  | .output => s.outputs

/-- A schema in order. -/
structure WellFormed (s : OpSchema) : Prop where
  name : Text.isIdentifier s.name = true
  since : 1 ≤ s.since
  attributes : ∀ a ∈ s.attributes, a.WellFormed
  attributes_nodup : (s.attributes.map (·.name)).Nodup
  constraints : ∀ c ∈ s.constraints, c.WellFormed
  constraints_nodup : (s.constraints.map (·.name)).Nodup
  parameters : ∀ side, ∀ p ∈ s.parameters side, p.WellFormed s.constraints

end OpSchema

/-- The same parameter, but for the element type that its text names. -/
structure Parameter.SameDeclared (p q : Parameter) : Prop where
  name : q.name = p.name
  description : q.description = p.description
  typeText : q.typeText = p.typeText

/-- Declared parameters arranged by index: the indices are `0 … n - 1`, each once, and each
parameter stands at its own. -/
structure Arranges (declared : List (Int × Parameter)) (ps : List Parameter) : Prop where
  indices : (declared.map (·.1)).Perm ((List.range ps.length).map Int.ofNat)
  at_index : ∀ e ∈ declared, ∃ q, ps[e.1.toNat]? = some q ∧ e.2.SameDeclared q

theorem Arranges.of_perm {declared declared' : List (Int × Parameter)} {ps : List Parameter}
    (h : Arranges declared ps) (hperm : declared.Perm declared') : Arranges declared' ps :=
  ⟨(hperm.symm.map _).trans h.indices, fun e he => h.at_index e (hperm.mem_iff.mpr he)⟩

/-! ## Indices without a gap -/

/-- **Distinct indices below their number are all the numbers below it.** -/
theorem IndexSorted.map_fst_eq_range {ps : IndexedParameters} (h : IndexSorted ps)
    (hbound : ∀ e ∈ ps, e.1 < ps.length) : ps.map (·.1) = List.range ps.length := by
  have hsorted : (ps.map (·.1)).Pairwise (· < ·) := List.pairwise_map.mpr h
  have hsub : ps.map (·.1) ⊆ List.range ps.length := by
    intro i hi
    obtain ⟨e, he, rfl⟩ := List.mem_map.mp hi
    exact List.mem_range.mpr (hbound e he)
  have hnodup : (ps.map (·.1)).Nodup := hsorted.imp ne_of_lt
  have hperm : (ps.map (·.1)).Perm (List.range ps.length) :=
    (hnodup.subperm hsub).perm_of_length_le (by simp)
  exact hperm.eq_of_pairwise (fun _ _ _ _ hij hji => absurd hji (lt_asymm hij)) hsorted
    List.pairwise_lt_range

/-! ## Resolving parameters -/

theorem exists_getElem?_of_forall₂ {α β : Type} {R : α → β → Prop} {xs : List α} {ys : List β}
    (h : List.Forall₂ R xs ys) {i : Nat} {y : β} (hy : ys[i]? = some y) :
    ∃ x, xs[i]? = some x ∧ R x y := by
  induction h generalizing i with
  | nil => simp at hy
  | @cons a b _ _ hab _ ih =>
    cases i with
    | zero =>
      obtain rfl : b = y := by simpa using hy
      exact ⟨a, rfl, hab⟩
    | succ i => simpa using ih (by simpa using hy)

/-- A name that a list of distinct names has, it has once. -/
theorem existsUnique_name {cs : List TypeConstraint} (hnodup : (cs.map (·.name)).Nodup)
    {name : String} (h : ∃ c ∈ cs, c.name = name) : ∃! c, c ∈ cs ∧ c.name = name := by
  obtain ⟨c, hc, hname⟩ := h
  refine ⟨c, ⟨hc, hname⟩, fun b ⟨hb, hbname⟩ => ?_⟩
  exact List.inj_on_of_nodup_map hnodup hb hc (hbname.trans hname.symm)

namespace Draft

theorem resolveParameter_eq_ok_iff {d : Draft} {side : Side} {index : Nat} {p q : Parameter} :
    d.resolveParameter side index p = .ok q ↔
      (∃ t, parseTensorText p.typeText = some (.ok t) ∧ q = { p with dtype := t }) ∨
      parseTensorText p.typeText = none ∧ (∃ c ∈ d.constraints, c.name = p.typeText) ∧ q = p := by
  rw [resolveParameter]
  cases parseTensorText p.typeText with
  | none =>
    by_cases hdeclared : ∃ c ∈ d.constraints, c.name = p.typeText
    · have hany : d.constraints.any (·.name == p.typeText) = true := by simpa using hdeclared
      simp [hany, hdeclared, eq_comm]
    · have hany : ¬ d.constraints.any (·.name == p.typeText) = true := by simpa using hdeclared
      rw [if_neg hany]
      simp [hdeclared]
  | some parsed =>
    cases parsed with
    | error e => simp
    | ok t => simp [eq_comm]

theorem resolveFrom_eq_ok_iff {d : Draft} {side : Side} {count : Nat} :
    ∀ {ps : IndexedParameters} {qs : List Parameter},
      d.resolveFrom side count ps = .ok qs ↔
        (∀ e ∈ ps, e.1 < count) ∧
          List.Forall₂ (fun e q => d.resolveParameter side e.1 e.2 = .ok q) ps qs
  | [], qs => by simp [resolveFrom, eq_comm]
  | (index, p) :: rest, qs => by
    rw [resolveFrom, List.forall₂_cons_left_iff, List.forall_mem_cons]
    by_cases hindex : count ≤ index
    · simp [hindex, bind_eq_ok_iff, throw_ne_ok, not_lt.mpr hindex]
    · simp only [hindex, if_false, bind_eq_ok_iff, pure_eq_ok_iff,
        @resolveFrom_eq_ok_iff d side count rest]
      constructor
      · rintro ⟨q, hq, qs', ⟨hbound, hrest⟩, rfl⟩
        exact ⟨⟨not_le.mp hindex, hbound⟩, q, qs', hq, hrest, rfl⟩
      · rintro ⟨⟨-, hbound⟩, q, qs', hq, hrest, rfl⟩
        exact ⟨q, hq, qs', ⟨hbound, hrest⟩, rfl⟩

/-- **A resolved parameter is concrete or generic**, and is otherwise as declared. -/
theorem Sound.resolved {d : Draft} (hd : d.Sound) {side : Side} {e : Nat × Parameter}
    (he : e ∈ d.parameters side) {q : Parameter}
    (h : d.resolveParameter side e.1 e.2 = .ok q) :
    q.WellFormed d.constraints ∧ e.2.SameDeclared q := by
  obtain ⟨hname, hunknown⟩ := hd.parameters side e he
  rcases resolveParameter_eq_ok_iff.mp h with ⟨t, hparsed, rfl⟩ | ⟨hnone, hdeclared, rfl⟩
  · have hknown : t ≠ .invalid := ne_invalid_of_parseTensorText hparsed
    have hconcrete : Parameter.IsConcrete { e.2 with dtype := t } d.constraints := by
      refine ⟨hparsed, hknown, fun c hc hctext => ?_⟩
      -- an identifier would not have been read as a tensor type
      have hnone := parseTensorText_eq_none_of_isIdentifier (hd.constraints c hc).name
      rw [hctext] at hnone
      exact Option.some_ne_none _ (hparsed.symm.trans hnone)
    refine ⟨⟨hname, .inl hconcrete, ?_⟩, ⟨rfl, rfl, rfl⟩⟩
    exact ⟨fun hvar => absurd (eq_of_beq hvar) hknown, fun hg => absurd hg.unknown hknown⟩
  · have hgeneric : e.2.IsGeneric d.constraints :=
      ⟨hunknown, existsUnique_name hd.constraints_nodup hdeclared⟩
    refine ⟨⟨hname, .inr hgeneric, ?_⟩, ⟨rfl, rfl, rfl⟩⟩
    exact ⟨fun _ => hgeneric, fun _ => beq_iff_eq.mpr hunknown⟩

theorem Sound.wellFormed_of_resolve {d : Draft} (hd : d.Sound) {side : Side} {ps : List Parameter}
    (h : d.resolve side = .ok ps) : ∀ p ∈ ps, p.WellFormed d.constraints := by
  intro p hp
  obtain ⟨-, hresolved⟩ := resolveFrom_eq_ok_iff.mp h
  obtain ⟨i, hi⟩ := List.mem_iff_getElem?.mp hp
  obtain ⟨e, he, hep⟩ := exists_getElem?_of_forall₂ hresolved hi
  exact (hd.resolved (List.mem_of_getElem? he) hep).1

/-- **The parameters of a side are arranged by their indices.** -/
theorem Sound.arranges_of_resolve {d : Draft} (hd : d.Sound) {side : Side} {ps : List Parameter}
    (h : d.resolve side = .ok ps) : Arranges (declaredForm (d.parameters side)) ps := by
  obtain ⟨hbound, hresolved⟩ := resolveFrom_eq_ok_iff.mp h
  have hrange := (hd.sorted side).map_fst_eq_range hbound
  refine ⟨?_, fun f hf => ?_⟩
  · have hindices : (declaredForm (d.parameters side)).map (·.1)
        = ((d.parameters side).map (·.1)).map Int.ofNat := by
      simp [declaredForm]
    rw [hindices, hrange, hresolved.length_eq]
  · obtain ⟨e, he, rfl⟩ := List.mem_map.mp hf
    obtain ⟨i, hi⟩ := List.mem_iff_getElem?.mp he
    -- the position of a parameter is its index, as the indices are a range
    have hposition : e.1 = i := by
      have hget : ((d.parameters side).map (·.1))[i]? = some e.1 := by simp [hi]
      rw [hrange] at hget
      obtain ⟨hlt, heq⟩ := List.getElem?_eq_some_iff.mp hget
      rw [← heq, List.getElem_range]
    obtain ⟨q, hq, hqe⟩ := exists_getElem?_of_forall₂ hresolved.flip hi
    exact ⟨q, by simpa [hposition] using hq, (hd.resolved he hqe).2⟩

/-- A draft is built when nothing was refused, its name is in order, and its parameters resolve. -/
theorem build_eq_ok_iff {d : Draft} {s : OpSchema} :
    d.build = .ok s ↔
      d.refusal? = none ∧ Text.isIdentifier d.name = true ∧
        ∃ inputs outputs, d.resolve .input = .ok inputs ∧ d.resolve .output = .ok outputs ∧
          s = { name := d.name, domain := d.domain, since := d.since, doc := d.doc?.getD ""
                attributes := d.attributes, inputs := inputs, outputs := outputs
                constraints := d.constraints, inference? := d.inference? } := by
  rw [build, make, Action.answer_get_bind]
  cases d.refusal? with
  | some e => simp
  | none =>
    simp only [Action.answer_ite, Action.answer_throw, Action.answer_ofExcept_bind,
      Action.answer_pure, guard_eq_ok_iff, bind_eq_ok_iff, Bool.not_eq_true', Bool.not_eq_false,
      Except.ok.injEq, exists_and_left, true_and, @eq_comm _ s]

/-- **A schema that is built is in order.** -/
theorem wellFormed_of_build {name : String} {decls : List Declaration} {s : OpSchema}
    (h : ((new name).declareAll decls).build = .ok s) : s.WellFormed := by
  obtain ⟨hrefusal, hname, inputs, outputs, hinputs, houtputs, rfl⟩ := build_eq_ok_iff.mp h
  have hsound := sound_declareAll hrefusal
  exact
    { name := hname
      since := hsound.since
      attributes := hsound.attributes
      attributes_nodup := hsound.attributes_nodup
      constraints := hsound.constraints
      constraints_nodup := hsound.constraints_nodup
      parameters := fun side => by
        cases side with
        | input => exact hsound.wellFormed_of_resolve hinputs
        | output => exact hsound.wellFormed_of_resolve houtputs }

/-- The parameters of a schema that is built are those declared, arranged by their indices. -/
theorem arranges_of_build {name : String} {decls : List Declaration} {s : OpSchema}
    (h : ((new name).declareAll decls).build = .ok s) (side : Side) :
    Arranges (declaredParameters side decls) (s.parameters side) := by
  obtain ⟨hrefusal, -, inputs, outputs, hinputs, houtputs, rfl⟩ := build_eq_ok_iff.mp h
  have hsound := sound_declareAll hrefusal
  refine Arranges.of_perm ?_ (parameters_perm side hrefusal)
  cases side with
  | input => exact hsound.arranges_of_resolve hinputs
  | output => exact hsound.arranges_of_resolve houtputs

/-- **Whatever is declared, a schema that is built is in order**: it is well formed, it keeps its
name, and on each side it has exactly the declared parameters, each at its own index. -/
theorem build_inOrder {name : String} {decls : List Declaration} {s : OpSchema}
    (h : ((new name).declareAll decls).build = .ok s) :
    s.WellFormed ∧ s.name = name ∧
      ∀ side, Arranges (declaredParameters side decls) (s.parameters side) := by
  have hname : s.name = name := by
    obtain ⟨hrefusal, -, _, _, -, -, rfl⟩ := build_eq_ok_iff.mp h
    exact name_declareAll hrefusal
  exact ⟨wellFormed_of_build h, hname, arranges_of_build h⟩

/-- Inputs out of order, a type variable declared after its first use, and a default under another
name. -/
def gatherDeclarations : List Declaration := [
  .parameter .input 1 "indices" "Where to look." "tensor( INT64)",
  .parameter .output 0 "picked" "What is found." "T",
  .attributeDefault "axis" "The axis to look along." ⟨"other", .int 0⟩,
  .since 11,
  .parameter .input 0 "data" "Where to look into." "T",
  .constraint "T" highPrecisionTypes "Numbers."]

theorem build_inOrder_gather :
    ∃ s, ((new "Gather").declareAll gatherDeclarations).build = .ok s ∧
      s.inputs = [⟨"data", "Where to look into.", "T", .invalid⟩,
        ⟨"indices", "Where to look.", "tensor( INT64)", .int64⟩] ∧
      s.WellFormed ∧
      ∀ side, Arranges (declaredParameters side gatherDeclarations) (s.parameters side) := by
  have h : ∃ s, ((new "Gather").declareAll gatherDeclarations).build = .ok s := ⟨_, rfl⟩
  obtain ⟨s, hs⟩ := h
  obtain ⟨hwf, -, harranges⟩ := build_inOrder hs
  refine ⟨s, hs, ?_, hwf, harranges⟩
  cases hs
  rfl

end Draft

end TensorGraph
