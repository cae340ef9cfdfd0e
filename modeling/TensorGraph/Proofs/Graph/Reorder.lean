import Mathlib.Data.List.FinRange
import Mathlib.Data.List.Flatten
import Mathlib.Data.List.Perm.Subperm
import TensorGraph.Proofs.Graph.Consistent
import TensorGraph.Proofs.Reduction.Schemas

/-!
# Proofs/Graph/Reorder — types do not depend on the order of nodes or on unrelated nodes

    g.nodes        n₀ n₁ n₂ n₃ n₄
    positions      3, 0, 4
    chosen nodes   n₃ n₀ n₄

A graph may be cut down to some of its nodes, in another order, as long as every node still finds
its inputs before it.  Consistency speaks about the final map only, so it passes to the chosen
nodes (`Consistent.choose`): each of them sees the same input types as before.
-/

namespace TensorGraph

/-- The graph with the nodes at the given positions only, in the given order. -/
def Graph.choose (g : Graph) (positions : List (Fin g.nodes.length)) : Graph :=
  { g with nodes := positions.map g.nodes.get }

/-- A map cut down to some names. -/
def restrict (M : String → Option ValueType) (names : List String) (name : String) :
    Option ValueType := if name ∈ names then M name else none

theorem restrict_of_mem {M : String → Option ValueType} {names : List String} {name : String}
    (h : name ∈ names) : restrict M names name = M name := if_pos h

theorem isSome_restrict_iff {M : String → Option ValueType} {names : List String}
    (h : ∀ name ∈ names, (M name).isSome) (name : String) :
    (restrict M names name).isSome ↔ name ∈ names := by
  by_cases hmem : name ∈ names
  · simp [restrict_of_mem hmem, h name hmem, hmem]
  · simp [restrict, hmem]

theorem mem_nodes_of_mem_choose {g : Graph} {positions : List (Fin g.nodes.length)} {n : Node}
    (h : n ∈ (g.choose positions).nodes) : n ∈ g.nodes := by
  obtain ⟨i, -, rfl⟩ := List.mem_map.mp h
  exact List.get_mem g.nodes i

/-- **Choosing each position at most once repeats no name**: the values of the chosen nodes are
some of the values of the graph, in some order. -/
theorem defined_choose_subperm (g : Graph) {positions : List (Fin g.nodes.length)}
    (h : positions.Nodup) : (g.choose positions).defined.Subperm g.defined := by
  obtain ⟨l, hperm, hsub⟩ := h.subperm fun i _ => List.mem_finRange i
  refine ⟨g.inputs.map (·.name) ++ (l.map g.nodes.get).flatMap Node.defined, ?_, ?_⟩
  · exact ((hperm.map g.nodes.get).flatMap_right Node.defined).append_left _
  · have hnodes : (l.map g.nodes.get).Sublist g.nodes := by
      have := hsub.map g.nodes.get
      rwa [List.map_get_finRange] at this
    exact (List.Sublist.refl _).append (hnodes.flatMap Node.defined)

theorem nodup_of_subperm {α : Type} {xs ys : List α} (h : xs.Subperm ys) (hys : ys.Nodup) :
    xs.Nodup := by
  obtain ⟨l, hperm, hsub⟩ := h
  exact hperm.nodup_iff.mp (hys.sublist hsub)

/-- A name that a wired node reads is a value of the graph. -/
theorem mem_defined_of_wired {g : Graph} (hwired : Wired (g.inputs.map (·.name)) g.nodes)
    {n : Node} (hn : n ∈ g.nodes) {name : String} (hname : name ∈ n.inputs) (hne : name ≠ "") :
    name ∈ g.defined := by
  obtain ⟨i, hi⟩ := List.mem_iff_getElem?.mp hn
  have hsub := (List.take_sublist i g.nodes).flatMap Node.defined
  exact ((List.Sublist.refl _).append hsub).subset (hwired i n hi name hname hne)

/-- **Consistency passes to chosen nodes that are still wired**, with the map cut down to what
they define. -/
theorem Checker.Consistent.choose {c : Checker} {g : Graph} {M : String → Option ValueType}
    (h : c.Consistent g M) {positions : List (Fin g.nodes.length)} (hnodup : positions.Nodup)
    (hwired : Wired (g.inputs.map (·.name)) (g.choose positions).nodes) :
    c.Consistent (g.choose positions) (restrict M (g.choose positions).defined) := by
  have hsubperm := defined_choose_subperm g hnodup
  have hinput : ∀ v ∈ g.inputs, v.name ∈ (g.choose positions).defined := fun v hv =>
    List.mem_append_left _ (List.mem_map_of_mem hv)
  refine
    { named := h.named
      distinct := nodup_of_subperm hsubperm h.distinct
      wired := hwired
      domain := isSome_restrict_iff fun name hname =>
        (h.domain name).mpr (hsubperm.subset hname)
      inputs := fun v hv => (restrict_of_mem (hinput v hv)).trans (h.inputs v hv)
      nodes := fun n hn => ?_ }
  obtain ⟨types, haccepted, houtputs⟩ := h.nodes n (mem_nodes_of_mem_choose hn)
  have hinputs : n.inputTypes (restrict M (g.choose positions).defined) = n.inputTypes M :=
    Node.inputTypes_congr fun name hname hne =>
      restrict_of_mem (mem_defined_of_wired hwired hn hname hne)
  refine ⟨types, by rw [hinputs]; exact haccepted, fun j name hj hne => ?_⟩
  have hdefined : name ∈ n.defined :=
    List.mem_filter.mpr ⟨List.mem_of_getElem? hj, by simpa using hne⟩
  have hmem : name ∈ (g.choose positions).defined :=
    List.mem_append_right _ (List.mem_flatMap.mpr ⟨n, hn, hdefined⟩)
  obtain ⟨t, ht, hM⟩ := houtputs j name hj hne
  exact ⟨t, ht, (restrict_of_mem hmem).trans hM⟩

/-- **The types in a graph do not depend on the order of its nodes or on unrelated nodes**: any of
the nodes of an accepted graph, in any order in which each finds its inputs, are accepted, and the
values they define keep their types. -/
theorem Checker.checkGraph_choose {c : Checker} {g : Graph} {typing : Typing}
    (h : c.checkGraph g = .ok typing) {positions : List (Fin g.nodes.length)}
    (hnodup : positions.Nodup)
    (hwired : Wired (g.inputs.map (·.name)) (g.choose positions).nodes) :
    ∃ typing', c.checkGraph (g.choose positions) = .ok typing' ∧
      ∀ name, typing'.lookup name
        = restrict (fun name => typing.lookup name) (g.choose positions).defined name :=
  ((consistent_of_checkGraph h).choose hnodup hwired).exists_checkGraph

/-- Two reductions of one input, and one of the first of them. -/
def forkGraph : Graph where
  name := "fork"
  opset := 13
  inputs := [⟨"x", ⟨.tensor, .float32, some [.symbolic "batch", .static 3]⟩⟩]
  nodes := [
    ⟨"total", "ReduceSum", "", ["x"], ["sum"], [⟨"axes", .ints [1]⟩]⟩,
    ⟨"best", "ArgMax", "", ["sum"], ["class"], []⟩,
    ⟨"peak", "ReduceMax", "", ["x"], ["max"], [⟨"axes", .ints [0]⟩, ⟨"keepdims", .int 0⟩]⟩]

/-- The last node comes first, and the middle one goes. -/
def forkPositions : List (Fin forkGraph.nodes.length) := [⟨2, by decide⟩, ⟨0, by decide⟩]

theorem Checker.checkGraph_choose_fork :
    forkPositions.Nodup ∧
      Wired (forkGraph.inputs.map (·.name)) (forkGraph.choose forkPositions).nodes ∧
      ∃ typing, standardChecker.checkGraph (forkGraph.choose forkPositions) = .ok typing ∧
        typing.lookup "max" = some ⟨.tensor, .float32, some [.static 3]⟩ ∧
        typing.lookup "class" = none := by
  have hnodup : forkPositions.Nodup := by decide
  have hwired : Wired (forkGraph.inputs.map (·.name)) (forkGraph.choose forkPositions).nodes := by
    simp [Graph.choose, forkPositions, forkGraph, wired_cons_iff, wired_nil]
  obtain ⟨typing, h, hlookup⟩ :=
    checkGraph_choose (c := standardChecker) (g := forkGraph) rfl hnodup hwired
  refine ⟨hnodup, hwired, typing, h, ?_, ?_⟩
  · rw [hlookup]
    rfl
  · rw [hlookup]
    rfl

end TensorGraph
