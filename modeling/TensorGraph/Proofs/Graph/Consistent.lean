import Mathlib.Data.List.Count
import Mathlib.Data.Option.Basic
import TensorGraph.Proofs.Graph.Typing
import TensorGraph.Report.Values

/-!
# Proofs/Graph/Consistent — checking a graph computes its consistent typing

A map from names to types is **consistent** with a graph when it types the values of the graph and
nothing else, and every node, asked for the types of its outputs on the types of its inputs, answers
with what the map says.  The map is the *final* one: it knows the outputs of later nodes while an
earlier one is asked.  `consistent_iff` says that checking succeeds with a map exactly when the map
is consistent.  The invariant is that a run only appends fresh names, so a lookup that a node made
gives the same answer ever after (`typeNodes_types`); conversely a run that follows a consistent map
is never refused (`exists_typeNodes`).
-/

namespace TensorGraph

/-! ## What consistent means -/

/-- The values of a graph: its inputs, and the outputs its nodes name, counted with repetition. -/
def Graph.defined (g : Graph) : List String :=
  g.inputs.map (·.name) ++ g.nodes.flatMap Node.defined

/-- Every input that a node names is defined before it: it is one of the given names or an output
of an earlier node. -/
def Wired (given : List String) (ns : List Node) : Prop :=
  ∀ (i : Nat) (n : Node), ns[i]? = some n → ∀ name ∈ n.inputs, name ≠ "" →
    name ∈ given ++ (ns.take i).flatMap Node.defined

/-- A map types a node: on the types of its inputs the node is accepted, and it answers at every
named output with the type in the map. -/
def Checker.Types (c : Checker) (opset : Int) (M : String → Option ValueType) (n : Node) : Prop :=
  ∃ types, c.checkNode n (n.inputTypes M) opset = .ok types ∧
    ∀ (j : Nat) (name : String), n.outputs[j]? = some name → name ≠ "" →
      ∃ t, types[j]? = some t ∧ M name = some t

/-- **A consistent typing of a graph.** -/
structure Checker.Consistent (c : Checker) (g : Graph) (M : String → Option ValueType) :
    Prop where
  named : ∀ v ∈ g.inputs, v.name ≠ ""
  distinct : g.defined.Nodup
  wired : Wired (g.inputs.map (·.name)) g.nodes
  domain : ∀ name, (M name).isSome ↔ name ∈ g.defined
  inputs : ∀ v ∈ g.inputs, M v.name = some v.type
  nodes : ∀ n ∈ g.nodes, c.Types (c.opset g.opset) M n

theorem wired_cons_iff {given : List String} {n : Node} {ns : List Node} :
    Wired given (n :: ns) ↔
      (∀ name ∈ n.inputs, name ≠ "" → name ∈ given) ∧ Wired (given ++ n.defined) ns := by
  constructor
  · intro h
    refine ⟨fun name hname hne => by simpa using h 0 n rfl name hname hne, fun i m hm => ?_⟩
    simpa using h (i + 1) m (by simpa using hm)
  · rintro ⟨hn, hns⟩ i m hm name hname hne
    cases i with
    | zero =>
      obtain rfl : n = m := by simpa using hm
      simpa using hn name hname hne
    | succ i => simpa using hns i m (by simpa using hm) name hname hne

theorem wired_nil (given : List String) : Wired given [] := fun _ _ h => by simp at h

/-- **A map types a node exactly when it has the entries the node makes.** -/
theorem Checker.types_iff {c : Checker} {opset : Int} {M : String → Option ValueType} {n : Node} :
    c.Types opset M n ↔ ∃ types, c.checkNode n (n.inputTypes M) opset = .ok types ∧
      Agrees (outputEntries n.outputs types) M := by
  refine exists_congr fun types => and_congr_right fun haccepted => ?_
  constructor
  · rintro h ⟨name, t⟩ hmem
    obtain ⟨hne, j, hj, ht⟩ := mem_outputEntries_iff.mp hmem
    obtain ⟨u, hu, hM⟩ := h j name hj hne
    obtain rfl : t = u := Option.some.inj (ht.symm.trans hu)
    exact hM
  · intro h j name hj hne
    have hlt : j < types.length :=
      Nat.lt_of_lt_of_le (List.getElem?_eq_some_iff.mp hj).1 (length_outputs_le haccepted)
    have ht : types[j]? = some types[j] := List.getElem?_eq_getElem hlt
    exact ⟨types[j], ht, h _ (mem_outputEntries_iff.mpr ⟨hne, j, hj, ht⟩)⟩

/-! ## Along a run -/

/-- **A run defines the named outputs of its nodes, each once, and only reads what is there.** -/
theorem Checker.typeNodes_names {c : Checker} {opset : Int} {typing' : Typing} :
    ∀ {ns : List Node} {typing : Typing} {index : Nat},
      c.typeNodes opset typing index ns = .ok typing' → (namesOf typing).Nodup →
        namesOf typing' = namesOf typing ++ ns.flatMap Node.defined ∧ (namesOf typing').Nodup ∧
          Wired (namesOf typing) ns
  | [], typing, _, h, hnd => by
    obtain rfl : typing = typing' := by simpa [typeNodes] using h
    exact ⟨by simp, hnd, wired_nil _⟩
  | n :: ns, typing, _, h, hnd => by
    obtain ⟨types, hadmits, hrest⟩ := typeNodes_cons_eq_ok_iff.mp h
    have hentries := namesOf_entries hadmits.accepted
    have hnd' : (namesOf (typing ++ outputEntries n.outputs types)).Nodup := by
      rw [namesOf_append, hentries]
      exact (nodup_append_iff_fresh hnd).mpr hadmits.fresh
    obtain ⟨hnames, hnodup, hwired⟩ := typeNodes_names hrest hnd'
    rw [namesOf_append, hentries] at hnames hwired
    refine ⟨?_, hnodup, wired_cons_iff.mpr ⟨hadmits.available, hwired⟩⟩
    rw [hnames, List.flatMap_cons, List.append_assoc]

/-- **What a run ends with types every node on the way**, and still has what it started from. -/
theorem Checker.typeNodes_types {c : Checker} {opset : Int} {typing' : Typing}
    {M : String → Option ValueType} (hM : Agrees typing' M) :
    ∀ {ns : List Node} {typing : Typing} {index : Nat},
      c.typeNodes opset typing index ns = .ok typing' →
        Agrees typing M ∧ ∀ n ∈ ns, c.Types opset M n
  | [], typing, _, h => by
    obtain rfl : typing = typing' := by simpa [typeNodes] using h
    exact ⟨hM, fun _ hn => absurd hn List.not_mem_nil⟩
  | n :: ns, typing, _, h => by
    obtain ⟨types, hadmits, hrest⟩ := typeNodes_cons_eq_ok_iff.mp h
    obtain ⟨hagrees, htypes⟩ := typeNodes_types hM hrest
    obtain ⟨htyping, hentries⟩ := agrees_append_iff.mp hagrees
    have hinputs : n.inputTypes (fun name => typing.lookup name) = n.inputTypes M :=
      Node.inputTypes_congr fun name hname hne =>
        htyping.lookup_eq (hadmits.available name hname hne)
    have hn : c.Types opset M n := types_iff.mpr ⟨types, hinputs ▸ hadmits.accepted, hentries⟩
    refine ⟨htyping, fun m hm => ?_⟩
    rcases List.mem_cons.mp hm with rfl | hm
    · exact hn
    · exact htypes m hm

/-- **A run that follows a map is never refused**, and does not leave the map. -/
theorem Checker.exists_typeNodes {c : Checker} {opset : Int} {M : String → Option ValueType} :
    ∀ {ns : List Node} {typing : Typing} (index : Nat), Agrees typing M →
      (namesOf typing ++ ns.flatMap Node.defined).Nodup → Wired (namesOf typing) ns →
        (∀ n ∈ ns, c.Types opset M n) →
          ∃ typing', c.typeNodes opset typing index ns = .ok typing' ∧ Agrees typing' M
  | [], typing, _, hagrees, _, _, _ => ⟨typing, rfl, hagrees⟩
  | n :: ns, typing, index, hagrees, hnd, hwired, htypes => by
    obtain ⟨havailable, hwired⟩ := wired_cons_iff.mp hwired
    obtain ⟨types, haccepted, hentries⟩ := types_iff.mp (htypes n List.mem_cons_self)
    rw [List.flatMap_cons, ← List.append_assoc] at hnd
    have hfresh : Fresh typing n.defined :=
      (nodup_append_iff_fresh (List.nodup_append.mp (List.nodup_append.mp hnd).1).1).mp
        (List.nodup_append.mp hnd).1
    have hinputs : n.inputTypes (fun name => typing.lookup name) = n.inputTypes M :=
      Node.inputTypes_congr fun name hname hne => hagrees.lookup_eq (havailable name hname hne)
    have hnames : namesOf (typing ++ outputEntries n.outputs types)
        = namesOf typing ++ n.defined := by rw [namesOf_append, namesOf_entries haccepted]
    obtain ⟨typing', hrest, hM⟩ := exists_typeNodes (index + 1)
      (agrees_append_iff.mpr ⟨hagrees, hentries⟩) (hnames ▸ hnd) (hnames ▸ hwired)
      fun m hm => htypes m (List.mem_cons_of_mem _ hm)
    exact ⟨typing', typeNodes_cons_eq_ok_iff.mpr
      ⟨types, ⟨havailable, hinputs ▸ haccepted, hfresh⟩, hrest⟩, hM⟩

/-! ## The whole graph -/

/-- A graph is accepted when its inputs have distinct names and a run from them goes through. -/
theorem Checker.checkGraph_eq_ok_iff {c : Checker} {g : Graph} {typing : Typing} :
    c.checkGraph g = .ok typing ↔
      (∀ v ∈ g.inputs, v.name ≠ "") ∧ (g.inputs.map (·.name)).Nodup ∧
        c.typeNodes (c.opset g.opset) (inputEntries g.inputs) 0 g.nodes = .ok typing := by
  have hrun : c.checkGraph g = .ok typing ↔
      (typeInputs [] g.inputs >>= fun t => c.typeNodes (c.opset g.opset) t 0 g.nodes)
        = .ok typing := by
    rw [checkGraph]
    split
    · rename_i t ht
      rw [ht]
      simp
    · rename_i e he
      rw [he]
      simp
  simp only [hrun, bind_eq_ok_iff, typeInputs_eq_ok_iff, List.nil_append]
  constructor
  · rintro ⟨_, ⟨hnamed, hfresh, rfl⟩, h⟩
    exact ⟨hnamed, hfresh.nodup, h⟩
  · rintro ⟨hnamed, hnd, h⟩
    exact ⟨_, ⟨hnamed, ⟨hnd, fun _ _ => List.not_mem_nil⟩, rfl⟩, h⟩

/-- **The names of an accepted graph are its values, each once**, in the order of definition. -/
theorem Checker.checkGraph_names {c : Checker} {g : Graph} {typing : Typing}
    (h : c.checkGraph g = .ok typing) : namesOf typing = g.defined ∧ g.defined.Nodup := by
  obtain ⟨-, hnd, hrun⟩ := checkGraph_eq_ok_iff.mp h
  obtain ⟨hnames, hnodup, -⟩ := typeNodes_names hrun (by rwa [namesOf_inputEntries])
  rw [namesOf_inputEntries, ← Graph.defined] at hnames
  exact ⟨hnames, hnames ▸ hnodup⟩

theorem agrees_inputEntries_iff {vs : List ValueInfo} {M : String → Option ValueType} :
    Agrees (inputEntries vs) M ↔ ∀ v ∈ vs, M v.name = some v.type := by
  simp [Agrees, inputEntries]

theorem Checker.consistent_of_checkGraph {c : Checker} {g : Graph} {typing : Typing}
    (h : c.checkGraph g = .ok typing) : c.Consistent g fun name => typing.lookup name := by
  obtain ⟨hnamed, hnd, hrun⟩ := checkGraph_eq_ok_iff.mp h
  obtain ⟨hnames, hdistinct⟩ := checkGraph_names h
  obtain ⟨hinputs, hnodes⟩ := typeNodes_types (agrees_lookup (hnames ▸ hdistinct)) hrun
  obtain ⟨-, -, hwired⟩ := typeNodes_names hrun (by rwa [namesOf_inputEntries])
  exact
    { named := hnamed
      distinct := hdistinct
      wired := namesOf_inputEntries g.inputs ▸ hwired
      domain := fun name => hnames ▸ isSome_lookup_iff
      inputs := agrees_inputEntries_iff.mp hinputs
      nodes := hnodes }

theorem Checker.Consistent.exists_checkGraph {c : Checker} {g : Graph}
    {M : String → Option ValueType} (h : c.Consistent g M) :
    ∃ typing, c.checkGraph g = .ok typing ∧ ∀ name, typing.lookup name = M name := by
  have hnd : (g.inputs.map (·.name)).Nodup := (List.nodup_append.mp h.distinct).1
  obtain ⟨typing, hrun, hM⟩ := exists_typeNodes 0 (agrees_inputEntries_iff.mpr h.inputs)
    (by rw [namesOf_inputEntries]; exact h.distinct)
    (by rw [namesOf_inputEntries]; exact h.wired) h.nodes
  have hok : c.checkGraph g = .ok typing := checkGraph_eq_ok_iff.mpr ⟨h.named, hnd, hrun⟩
  have hnames := (checkGraph_names hok).1
  refine ⟨typing, hok, fun name => ?_⟩
  by_cases hmem : name ∈ namesOf typing
  · exact hM.lookup_eq hmem
  · have hnone : ¬ (M name).isSome := fun hsome => hmem (hnames ▸ (h.domain name).mp hsome)
    rw [lookup_eq_none_of_notMem hmem, Option.not_isSome_iff_eq_none.mp hnone]

/-- **Checking succeeds with a map exactly when the map is consistent with the graph.** -/
theorem Checker.consistent_iff {c : Checker} {g : Graph} {M : String → Option ValueType} :
    (∃ typing, c.checkGraph g = .ok typing ∧ ∀ name, typing.lookup name = M name) ↔
      c.Consistent g M := by
  refine ⟨fun ⟨typing, hok, hM⟩ => ?_, Consistent.exists_checkGraph⟩
  obtain rfl : (fun name => typing.lookup name) = M := funext hM
  exact consistent_of_checkGraph hok

/-! ## The report of an accepted graph -/

/-- The rows of the report name the values of the graph in the order of definition. -/
theorem head?_rows_valuesTable (g : Graph) (typing : Typing) :
    (Report.valuesTable g typing).rows.map List.head? = g.defined.map some := by
  simp [Report.valuesTable, Report.producers, Report.valueRow, Graph.defined, Node.defined,
    List.map_flatMap, Function.comp_def]

/-- **Checking a graph computes exactly its consistent typing**: it succeeds with a map exactly
when the map is consistent with the graph, and then the report names every key of the map in exactly
one row, and nothing else. -/
theorem Checker.checkGraph_iff_consistent (c : Checker) (g : Graph)
    (M : String → Option ValueType) :
    ((∃ typing, c.checkGraph g = .ok typing ∧ ∀ name, typing.lookup name = M name) ↔
      c.Consistent g M) ∧
    ∀ typing, c.checkGraph g = .ok typing → (∀ name, typing.lookup name = M name) →
      ∀ name, ((Report.valuesTable g typing).rows.map List.head?).count (some name)
        = if (M name).isSome then 1 else 0 := by
  refine ⟨consistent_iff, fun typing hok hM name => ?_⟩
  obtain ⟨hnames, hnd⟩ := checkGraph_names hok
  have hdomain : (M name).isSome ↔ name ∈ g.defined := by
    rw [← hM, isSome_lookup_iff, hnames]
  rw [head?_rows_valuesTable, List.count_map_of_injective _ _ (Option.some_injective _),
    hnd.count]
  simp only [hdomain]

end TensorGraph
