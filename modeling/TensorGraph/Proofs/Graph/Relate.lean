import Mathlib.Data.List.Forall2
import TensorGraph.Proofs.Graph.Consistent

/-!
# Proofs/Graph/Relate — what every node respects, every graph respects

    t₁ … tₖ  ──node──▸  u₁ … uₘ
    R    R              R    R
    t₁'… tₖ' ──node──▸  u₁'… uₘ'

A checker respects a relation of types when a node that is accepted stays accepted on related
inputs, with related outputs.  Then two runs over the same nodes, from related inputs, go in
lockstep: `typeNodes_rel` by induction on the nodes, and `checkGraph_rel` for graphs.
-/

namespace TensorGraph

theorem rel_none_left_iff {α β : Type} {R : α → β → Prop} {b : Option β} :
    Option.Rel R none b ↔ b = none := by cases b <;> simp

theorem rel_some_left_iff {α β : Type} {R : α → β → Prop} {a : α} {b : Option β} :
    Option.Rel R (some a) b ↔ ∃ b', b = some b' ∧ R a b' := by cases b <;> simp

/-- Entries with the same name and related types. -/
def EntryRel (R : ValueType → ValueType → Prop) (p q : String × ValueType) : Prop :=
  p.1 = q.1 ∧ R p.2 q.2

/-- Typings with the same names in the same order, and related types. -/
abbrev TypingRel (R : ValueType → ValueType → Prop) (typing typing' : Typing) : Prop :=
  List.Forall₂ (EntryRel R) typing typing'

/-- **Nodes carry related inputs to related outputs**, and are never refused for it. -/
def Checker.Respects (c : Checker) (R : ValueType → ValueType → Prop) : Prop :=
  ∀ (n : Node) (opset : Int) (inputs inputs' : List (Option ValueType)) (types : List ValueType),
    List.Forall₂ (Option.Rel R) inputs inputs' → c.checkNode n inputs opset = .ok types →
      ∃ types', c.checkNode n inputs' opset = .ok types' ∧ List.Forall₂ R types types'

section

variable {R : ValueType → ValueType → Prop}

theorem namesOf_eq_of_rel {typing typing' : Typing} (h : TypingRel R typing typing') :
    namesOf typing = namesOf typing' := by
  induction h with
  | nil => rfl
  | cons hp _ ih => rw [namesOf_cons, namesOf_cons, hp.1, ih]

/-- **Lookup in related typings gives related answers.** -/
theorem lookup_rel {typing typing' : Typing} (h : TypingRel R typing typing') (name : String) :
    Option.Rel R (typing.lookup name) (typing'.lookup name) := by
  induction h with
  | nil => exact Option.Rel.none
  | @cons p q _ _ hpq _ ih =>
    obtain ⟨k, t⟩ := p
    obtain ⟨k', t'⟩ := q
    obtain ⟨rfl, ht⟩ : k = k' ∧ R t t' := hpq
    by_cases hname : name = k
    · subst hname
      simpa using Option.Rel.some ht
    · simpa [List.lookup_cons, beq_false_of_ne hname] using ih

theorem inputTypes_rel {typing typing' : Typing} (h : TypingRel R typing typing') (n : Node) :
    List.Forall₂ (Option.Rel R) (n.inputTypes fun name => typing.lookup name)
      (n.inputTypes fun name => typing'.lookup name) := by
  rw [Node.inputTypes, Node.inputTypes, List.forall₂_map_left_iff, List.forall₂_map_right_iff]
  refine List.forall₂_same.mpr fun name _ => ?_
  by_cases hempty : name = ""
  · simp [typeAt, hempty]
  · simpa [typeAt, hempty] using lookup_rel h name

theorem outputEntries_rel : ∀ {names : List String} {types types' : List ValueType},
    List.Forall₂ R types types' →
      TypingRel R (outputEntries names types) (outputEntries names types')
  | [], _, _, _ => by simp [outputEntries]
  | _ :: _, _, _, .nil => by simp [outputEntries]
  | name :: names, _, _, .cons ht hts => by
    by_cases hempty : name = ""
    · simpa [hempty] using outputEntries_rel hts
    · rw [outputEntries_cons hempty, outputEntries_cons hempty]
      exact .cons ⟨rfl, ht⟩ (outputEntries_rel hts)

/-- **Runs over the same nodes go in lockstep.** -/
theorem Checker.Respects.typeNodes_rel {c : Checker} (hc : c.Respects R) {opset : Int}
    {final : Typing} : ∀ {ns : List Node} {typing typing' : Typing} {index : Nat},
      TypingRel R typing typing' → c.typeNodes opset typing index ns = .ok final →
        ∃ final', c.typeNodes opset typing' index ns = .ok final' ∧ TypingRel R final final'
  | [], typing, typing', _, hrel, h => by
    obtain rfl : typing = final := by simpa [Checker.typeNodes] using h
    exact ⟨typing', rfl, hrel⟩
  | n :: ns, typing, typing', _, hrel, h => by
    obtain ⟨types, hadmits, hrest⟩ := Checker.typeNodes_cons_eq_ok_iff.mp h
    obtain ⟨types', haccepted, htypes⟩ :=
      hc n opset _ _ types (inputTypes_rel hrel n) hadmits.accepted
    have hnames := namesOf_eq_of_rel hrel
    have hadmits' : c.Admits opset typing' n types' :=
      { available := fun name hname hne => hnames ▸ hadmits.available name hname hne
        accepted := haccepted
        fresh := ⟨hadmits.fresh.nodup, fun name hname => hnames ▸ hadmits.fresh.notMem name hname⟩ }
    obtain ⟨final', hfinal, hfinalRel⟩ :=
      hc.typeNodes_rel (List.rel_append hrel (outputEntries_rel htypes)) hrest
    exact ⟨final', Checker.typeNodes_cons_eq_ok_iff.mpr ⟨types', hadmits', hfinal⟩, hfinalRel⟩

/-- Inputs with the same name and related types. -/
def InputRel (R : ValueType → ValueType → Prop) (v w : ValueInfo) : Prop :=
  v.name = w.name ∧ R v.type w.type

theorem inputEntries_rel {vs ws : List ValueInfo} (h : List.Forall₂ (InputRel R) vs ws) :
    TypingRel R (inputEntries vs) (inputEntries ws) := by
  rw [inputEntries, inputEntries, TypingRel, List.forall₂_map_left_iff,
    List.forall₂_map_right_iff]
  exact h

/-- **Graphs that differ only in related input types are accepted together**, with related
typings. -/
theorem Checker.Respects.checkGraph_rel {c : Checker} (hc : c.Respects R) {g : Graph}
    {inputs : List ValueInfo} (hinputs : List.Forall₂ (InputRel R) g.inputs inputs)
    {typing : Typing} (h : c.checkGraph g = .ok typing) :
    ∃ typing', c.checkGraph { g with inputs := inputs } = .ok typing' ∧
      TypingRel R typing typing' := by
  obtain ⟨hnamed, hnd, hrun⟩ := Checker.checkGraph_eq_ok_iff.mp h
  have hrel := inputEntries_rel hinputs
  have hnames : g.inputs.map (·.name) = inputs.map (·.name) := by
    simpa using namesOf_eq_of_rel hrel
  have hnamed' : ∀ w ∈ inputs, w.name ≠ "" := by
    intro w hw hempty
    have hmem : w.name ∈ g.inputs.map (·.name) := hnames ▸ List.mem_map_of_mem hw
    obtain ⟨v, hv, hname⟩ := List.mem_map.mp hmem
    exact hnamed v hv (hname.trans hempty)
  obtain ⟨typing', hrun', hfinal⟩ := hc.typeNodes_rel hrel hrun
  exact ⟨typing', Checker.checkGraph_eq_ok_iff.mpr ⟨hnamed', hnames ▸ hnd, hrun'⟩, hfinal⟩

end

/-- **What all inputs of a graph have and every node hands on, all its values have.**  A run is
related to itself, by a relation that holds of a type and itself where the type has the property. -/
theorem Checker.Respects.forall_of_checkGraph {c : Checker} {P : ValueType → Prop}
    (hc : c.Respects fun t t' => t = t' ∧ P t) {g : Graph} (hinputs : ∀ v ∈ g.inputs, P v.type)
    {typing : Typing} (h : c.checkGraph g = .ok typing) {name : String} {t : ValueType}
    (ht : typing.lookup name = some t) : P t := by
  have hsame : List.Forall₂ (InputRel fun t t' => t = t' ∧ P t) g.inputs g.inputs :=
    List.forall₂_same.mpr fun v hv => ⟨rfl, rfl, hinputs v hv⟩
  obtain ⟨typing', -, hrel⟩ := hc.checkGraph_rel hsame h
  have hlookup := lookup_rel hrel name
  rw [ht, rel_some_left_iff] at hlookup
  obtain ⟨_, -, -, hP⟩ := hlookup
  exact hP

end TensorGraph
