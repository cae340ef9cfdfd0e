import TensorGraph.Proofs.Graph.Node

/-!
# Proofs/Graph/Typing — how a typing grows along a graph

    inputs ──▸ typing ──node──▸ typing ++ outputs ──node──▸ typing ++ outputs ++ outputs ──▸ …

A typing only ever grows at its end, by names it does not have yet (`Fresh`).  Each function that
reads or extends a typing is described once: `typeInputs_eq_ok_iff`, `inputTypes_eq_ok_iff` and
`typeOutputs_eq_ok_iff` say when it succeeds and with what.  Together they make one step of a run,
`typeNodes_cons_eq_ok_iff`.
-/

namespace TensorGraph

/-! ## Names and lookup -/

/-- The names that a typing gives a type to, in the order of definition. -/
def namesOf (typing : Typing) : List String := typing.map Prod.fst

@[simp] theorem namesOf_nil : namesOf [] = [] := rfl

@[simp] theorem namesOf_cons (p : String × ValueType) (typing : Typing) :
    namesOf (p :: typing) = p.1 :: namesOf typing := rfl

@[simp] theorem namesOf_append (typing more : Typing) :
    namesOf (typing ++ more) = namesOf typing ++ namesOf more := List.map_append

theorem mem_namesOf_of_mem {typing : Typing} {p : String × ValueType} (h : p ∈ typing) :
    p.1 ∈ namesOf typing := List.mem_map_of_mem h

/-- What is found under a name is an entry of the typing. -/
theorem mem_of_lookup {name : String} {t : ValueType} :
    ∀ {typing : Typing}, typing.lookup name = some t → (name, t) ∈ typing
  | (k, u) :: typing, h => by
    rw [List.lookup_cons] at h
    by_cases hk : name = k
    · subst hk
      obtain rfl : u = t := by simpa using h
      exact List.mem_cons_self
    · rw [beq_false_of_ne hk] at h
      exact List.mem_cons_of_mem _ (mem_of_lookup h)

/-- Something is found exactly under the names of a typing. -/
theorem isSome_lookup_iff {name : String} {typing : Typing} :
    (typing.lookup name).isSome ↔ name ∈ namesOf typing := by
  simp only [List.lookup_isSome_iff, beq_iff_eq, namesOf, List.mem_map]
  exact exists_congr fun p => and_congr_right fun _ => eq_comm

theorem exists_lookup_of_mem {name : String} {typing : Typing} (h : name ∈ namesOf typing) :
    ∃ t, typing.lookup name = some t := Option.isSome_iff_exists.mp (isSome_lookup_iff.mpr h)

theorem lookup_eq_none_of_notMem {name : String} {typing : Typing}
    (h : name ∉ namesOf typing) : typing.lookup name = none := by
  rw [← Option.not_isSome_iff_eq_none, isSome_lookup_iff]
  exact h

/-! ## Agreement with a map

A typing agrees with a map when the map has all its entries.  Names may repeat in a typing only as
far as their types do, so lookup in it is lookup in the map. -/

/-- Every entry of the typing is one of the map. -/
def Agrees (typing : Typing) (M : String → Option ValueType) : Prop :=
  ∀ p ∈ typing, M p.1 = some p.2

theorem Agrees.lookup_eq {typing : Typing} {M : String → Option ValueType} (h : Agrees typing M)
    {name : String} (hname : name ∈ namesOf typing) : typing.lookup name = M name := by
  obtain ⟨t, ht⟩ := exists_lookup_of_mem hname
  rw [ht, h _ (mem_of_lookup ht)]

theorem agrees_append_iff {typing more : Typing} {M : String → Option ValueType} :
    Agrees (typing ++ more) M ↔ Agrees typing M ∧ Agrees more M := by
  simp only [Agrees, List.mem_append]
  exact ⟨fun h => ⟨fun p hp => h p (.inl hp), fun p hp => h p (.inr hp)⟩,
    fun h p hp => hp.elim (h.1 p) (h.2 p)⟩

/-- **A typing without repeated names agrees with its own lookup.** -/
theorem agrees_lookup : ∀ {typing : Typing}, (namesOf typing).Nodup →
    Agrees typing fun name => typing.lookup name
  | [], _ => fun _ hp => absurd hp List.not_mem_nil
  | (k, u) :: typing, hnd => by
    obtain ⟨hk, hnd⟩ := List.nodup_cons.mp hnd
    intro p hp
    rcases List.mem_cons.mp hp with rfl | hp
    · exact List.lookup_cons_self
    · have hmem : p.1 ∈ namesOf typing := mem_namesOf_of_mem hp
      have hne : p.1 ≠ k := fun h => hk (h ▸ hmem)
      simp only [List.lookup_cons, beq_false_of_ne hne]
      exact agrees_lookup hnd p hp

/-! ## Fresh names -/

/-- Names that a typing does not have yet, each once. -/
structure Fresh (typing : Typing) (names : List String) : Prop where
  nodup : names.Nodup
  notMem : ∀ name ∈ names, name ∉ namesOf typing

theorem fresh_nil (typing : Typing) : Fresh typing [] :=
  ⟨List.nodup_nil, fun _ h => absurd h List.not_mem_nil⟩

theorem fresh_cons_iff {typing : Typing} {name : String} {t : ValueType} {names : List String} :
    Fresh typing (name :: names) ↔
      name ∉ namesOf typing ∧ Fresh (typing ++ [(name, t)]) names := by
  constructor
  · rintro ⟨hnd, hnot⟩
    obtain ⟨hname, hnd⟩ := List.nodup_cons.mp hnd
    refine ⟨hnot name List.mem_cons_self, hnd, fun x hx => ?_⟩
    rw [namesOf_append, List.mem_append, not_or]
    refine ⟨hnot x (List.mem_cons_of_mem _ hx), fun h => hname ?_⟩
    obtain rfl : x = name := by simpa using h
    exact hx
  · rintro ⟨hname, hnd, hnot⟩
    simp only [namesOf_append, List.mem_append, not_or] at hnot
    refine ⟨List.nodup_cons.mpr ⟨fun h => (hnot name h).2 (by simp), hnd⟩, fun x hx => ?_⟩
    rcases List.mem_cons.mp hx with rfl | hx
    · exact hname
    · exact (hnot x hx).1

/-- **Adding fresh names keeps the names of a typing distinct**, and nothing else does. -/
theorem nodup_append_iff_fresh {typing : Typing} {names : List String}
    (h : (namesOf typing).Nodup) : (namesOf typing ++ names).Nodup ↔ Fresh typing names := by
  rw [List.nodup_append]
  constructor
  · rintro ⟨-, hnd, hdisjoint⟩
    exact ⟨hnd, fun x hx hmem => hdisjoint x hmem x hx rfl⟩
  · rintro ⟨hnd, hnot⟩
    exact ⟨h, hnd, fun x hx y hy hxy => hnot y hy (hxy ▸ hx)⟩

/-! ## The inputs of a graph -/

/-- The entries that the inputs of a graph make. -/
def inputEntries (vs : List ValueInfo) : Typing := vs.map fun v => (v.name, v.type)

@[simp] theorem namesOf_inputEntries (vs : List ValueInfo) :
    namesOf (inputEntries vs) = vs.map (·.name) := by simp [namesOf, inputEntries]

theorem typeInputs_eq_ok_iff {typing' : Typing} : ∀ {vs : List ValueInfo} {typing : Typing},
    typeInputs typing vs = .ok typing' ↔
      (∀ v ∈ vs, v.name ≠ "") ∧ Fresh typing (vs.map (·.name)) ∧
        typing' = typing ++ inputEntries vs
  | [], typing => by
    simp only [typeInputs, inputEntries, List.map_nil, List.append_nil, Except.ok.injEq]
    exact ⟨fun h => ⟨fun _ hv => absurd hv List.not_mem_nil, fresh_nil typing, h.symm⟩,
      fun h => h.2.2.symm⟩
  | v :: vs, typing => by
    rw [typeInputs]
    by_cases hname : v.name = ""
    · simp [hname]
    by_cases hmem : v.name ∈ namesOf typing
    · have hnot : ¬ Fresh typing ((v :: vs).map (·.name)) :=
        fun h => h.notMem v.name List.mem_cons_self hmem
      rw [if_neg hname, if_pos (isSome_lookup_iff.mpr hmem)]
      exact ⟨fun h => (nomatch h), fun h => absurd h.2.1 hnot⟩
    · rw [if_neg hname, if_neg (mt isSome_lookup_iff.mp hmem), typeInputs_eq_ok_iff,
        List.map_cons, fresh_cons_iff (t := v.type)]
      simp [hname, hmem, inputEntries]

/-! ## The inputs of a node -/

/-- The type a map gives to a name; the empty name stands for no value. -/
def typeAt (M : String → Option ValueType) (name : String) : Option ValueType :=
  if name = "" then none else M name

/-- The types a map gives to the inputs of a node. -/
def Node.inputTypes (n : Node) (M : String → Option ValueType) : List (Option ValueType) :=
  n.inputs.map (typeAt M)

theorem Node.inputTypes_congr {n : Node} {M M' : String → Option ValueType}
    (h : ∀ name ∈ n.inputs, name ≠ "" → M name = M' name) : n.inputTypes M = n.inputTypes M' := by
  refine List.map_congr_left fun name hname => ?_
  by_cases hempty : name = ""
  · simp [typeAt, hempty]
  · simp [typeAt, hempty, h name hname hempty]

theorem inputTypes_cons_eq_ok_iff {typing : Typing} {index : Nat} {n : Node} {name : String}
    {names : List String} {types : List (Option ValueType)} :
    inputTypes typing index n (name :: names) = .ok types ↔
      (name ≠ "" → name ∈ namesOf typing) ∧ ∃ rest, inputTypes typing index n names = .ok rest ∧
        types = typeAt (fun name => typing.lookup name) name :: rest := by
  rw [inputTypes]
  by_cases hempty : name = ""
  · simp only [hempty, if_true, bind_eq_ok_iff, pure_eq_ok_iff]
    simp [typeAt, @eq_comm _ types]
  by_cases hmem : name ∈ namesOf typing
  · obtain ⟨t, ht⟩ := exists_lookup_of_mem hmem
    simp only [hempty, if_false, ht, bind_eq_ok_iff, pure_eq_ok_iff]
    simp [typeAt, hempty, hmem, ht, @eq_comm _ types]
  · simp [hempty, hmem, lookup_eq_none_of_notMem hmem, bind_eq_ok_iff, throw_ne_ok]

/-- **The inputs of a node are there, and have the types of the typing.** -/
theorem inputTypes_eq_ok_iff {typing : Typing} {index : Nat} {n : Node} :
    ∀ {names : List String} {types : List (Option ValueType)},
      inputTypes typing index n names = .ok types ↔
        (∀ name ∈ names, name ≠ "" → name ∈ namesOf typing) ∧
          types = names.map (typeAt fun name => typing.lookup name)
  | [], types => by simp [inputTypes, @eq_comm _ []]
  | name :: names, types => by
    have ih := @inputTypes_eq_ok_iff typing index n names
    simp only [inputTypes_cons_eq_ok_iff, ih, List.forall_mem_cons, List.map_cons]
    constructor
    · rintro ⟨hname, _, ⟨hnames, rfl⟩, rfl⟩
      exact ⟨⟨hname, hnames⟩, rfl⟩
    · rintro ⟨⟨hname, hnames⟩, rfl⟩
      exact ⟨hname, _, ⟨hnames, rfl⟩, rfl⟩

/-! ## The outputs of a node -/

/-- The names a node defines: those of its outputs that have one. -/
def Node.defined (n : Node) : List String := n.outputs.filter (· ≠ "")

/-- The entries that named outputs make with their types. -/
def outputEntries (names : List String) (types : List ValueType) : Typing :=
  (names.zip types).filter (·.1 ≠ "")

@[simp] theorem outputEntries_cons_empty (names : List String) (t : ValueType)
    (types : List ValueType) : outputEntries ("" :: names) (t :: types)
      = outputEntries names types := by simp [outputEntries]

theorem outputEntries_cons {name : String} (h : name ≠ "") (names : List String) (t : ValueType)
    (types : List ValueType) : outputEntries (name :: names) (t :: types)
      = (name, t) :: outputEntries names types := by simp [outputEntries, h]

theorem namesOf_outputEntries : ∀ {names : List String} {types : List ValueType},
    names.length ≤ types.length → namesOf (outputEntries names types) = names.filter (· ≠ "")
  | [], _, _ => by simp [outputEntries]
  | name :: names, t :: types, h => by
    have ih := namesOf_outputEntries (Nat.le_of_succ_le_succ h)
    by_cases hempty : name = ""
    · simp only [hempty, outputEntries_cons_empty, ih]
      simp
    · simp [outputEntries_cons hempty, ih, hempty]

/-- An entry of the outputs is the name and the type at one position. -/
theorem mem_outputEntries_iff {names : List String} {types : List ValueType} {name : String}
    {t : ValueType} : (name, t) ∈ outputEntries names types ↔
      name ≠ "" ∧ ∃ j : Nat, names[j]? = some name ∧ types[j]? = some t := by
  rw [outputEntries, List.mem_filter, List.mem_iff_getElem?]
  simp only [List.getElem?_zip_eq_some, decide_eq_true_eq]
  exact and_comm

theorem typeOutputs_eq_ok_iff {typing' : Typing} {index : Nat} {n : Node} :
    ∀ {names : List String} {types : List ValueType} {typing : Typing},
      typeOutputs typing index n names types = .ok typing' ↔
        Fresh typing (namesOf (outputEntries names types)) ∧
          typing' = typing ++ outputEntries names types
  | [], _, typing => by simp [typeOutputs, outputEntries, fresh_nil, @eq_comm _ typing]
  | _ :: _, [], typing => by simp [typeOutputs, outputEntries, fresh_nil, @eq_comm _ typing]
  | name :: names, t :: types, typing => by
    rw [typeOutputs]
    by_cases hempty : name = ""
    · rw [if_pos hempty, typeOutputs_eq_ok_iff, hempty, outputEntries_cons_empty]
    rw [if_neg hempty, outputEntries_cons hempty, namesOf_cons]
    by_cases hmem : name ∈ namesOf typing
    · have hnot : ¬ Fresh typing (name :: namesOf (outputEntries names types)) :=
        fun h => h.notMem name List.mem_cons_self hmem
      rw [if_pos (isSome_lookup_iff.mpr hmem)]
      exact ⟨fun h => (nomatch h), fun h => absurd h.1 hnot⟩
    · rw [if_neg (mt isSome_lookup_iff.mp hmem), typeOutputs_eq_ok_iff,
        fresh_cons_iff (t := t)]
      simp [hmem]

/-! ## One step of a run -/

/-- A checker takes a node on top of a typing: its inputs are there, it is accepted with the types
of its outputs, and the names it defines are new. -/
structure Checker.Admits (c : Checker) (opset : Int) (typing : Typing) (n : Node)
    (types : List ValueType) : Prop where
  available : ∀ name ∈ n.inputs, name ≠ "" → name ∈ namesOf typing
  accepted : c.checkNode n (n.inputTypes fun name => typing.lookup name) opset = .ok types
  fresh : Fresh typing n.defined

/-- The entries of an accepted node have exactly the names it defines. -/
theorem Checker.namesOf_entries {c : Checker} {n : Node} {inputs : List (Option ValueType)}
    {opset : Int} {types : List ValueType} (h : c.checkNode n inputs opset = .ok types) :
    namesOf (outputEntries n.outputs types) = n.defined :=
  namesOf_outputEntries (length_outputs_le h)

/-- **A run takes its first node and goes on from the typing that has its outputs.** -/
theorem Checker.typeNodes_cons_eq_ok_iff {c : Checker} {opset : Int} {typing typing' : Typing}
    {index : Nat} {n : Node} {ns : List Node} :
    c.typeNodes opset typing index (n :: ns) = .ok typing' ↔
      ∃ types, c.Admits opset typing n types ∧
        c.typeNodes opset (typing ++ outputEntries n.outputs types) (index + 1) ns
          = .ok typing' := by
  simp only [typeNodes, bind_eq_ok_iff, inputTypes_eq_ok_iff]
  constructor
  · rintro ⟨inputs, ⟨havailable, rfl⟩, h⟩
    rw [← Node.inputTypes] at h
    cases hnode : c.checkNode n (n.inputTypes fun name => typing.lookup name) opset with
    | error e =>
      simp only [hnode, bind_eq_ok_iff, throw_ne_ok, false_and, exists_false] at h
    | ok types =>
      simp only [hnode, bind_eq_ok_iff, pure_eq_ok_iff, typeOutputs_eq_ok_iff] at h
      obtain ⟨_, rfl, _, ⟨hfresh, rfl⟩, hrest⟩ := h
      rw [namesOf_entries hnode] at hfresh
      exact ⟨types, ⟨havailable, hnode, hfresh⟩, hrest⟩
  · rintro ⟨types, ⟨havailable, hnode, hfresh⟩, hrest⟩
    refine ⟨_, ⟨havailable, rfl⟩, ?_⟩
    rw [← Node.inputTypes]
    simp only [hnode, bind_eq_ok_iff, pure_eq_ok_iff, typeOutputs_eq_ok_iff]
    exact ⟨types, rfl, _, ⟨(namesOf_entries hnode).symm ▸ hfresh, rfl⟩, hrest⟩

end TensorGraph
