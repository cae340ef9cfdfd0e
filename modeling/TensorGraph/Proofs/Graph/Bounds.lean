import TensorGraph.Proofs.Graph.Refusals
import TensorGraph.Proofs.Graph.TypeVariables
import TensorGraph.Proofs.Reduction.Schemas

/-!
# Proofs/Graph/Bounds — checking reaches only for what is there

    reached for                        there, because
    the type variable of an input      building a schema resolves every parameter
    the parameter of an output slot    there are no more slots than declared outputs
    the type of a named output         a node answers once for each output it names

Checking is total: a variable that is not declared is taken as one that allows nothing, and a list
that is too short ends a walk.  The tested run (`Tested`) is the same walk with each of the three
accesses made by name or by position, and it stops if what it reaches for is missing.  Over schemas
that were built the two runs are one (`Checker.OnlyBuilt.tested_checkGraph`), whatever the graph.
-/

namespace TensorGraph

/-! ## Runs that test what they reach for -/

/-- How a tested run stops short: it refuses what it is given, or what it reaches for is missing. -/
inductive Stop (ε : Type) where
  | refused (cause : ε)
  | missing

/-- A run that tests what it reaches for. -/
abbrev Tested (ε α : Type) := Except (Stop ε) α

namespace Tested

variable {ε ε' α β : Type}

/-- A run that reaches for nothing. -/
def of : Except ε α → Tested ε α
  | .ok a => .ok a
  | .error e => .error (.refused e)

/-- Takes what has to be there. -/
def reach : Option α → Tested ε α
  | some a => .ok a
  | none => .error .missing

/-- Puts a refusal into its place. -/
def within (f : ε → ε') : Tested ε α → Tested ε' α
  | .ok a => .ok a
  | .error (.refused e) => .error (.refused (f e))
  | .error .missing => .error .missing

theorem of_bind (x : Except ε α) (f : α → Except ε β) :
    of (x >>= f) = of x >>= fun a => of (f a) := by
  cases x <;> rfl

theorem of_ite {p : Prop} [Decidable p] (x y : Except ε α) :
    of (if p then x else y) = if p then of x else of y := by
  split <;> rfl

/-- What reaches for nothing misses nothing. -/
theorem of_ne_missing (x : Except ε α) : of x ≠ .error .missing := by
  cases x <;> nofun

theorem reach_of_eq_some {x : Option α} {a : α} (h : x = some a) :
    (reach x : Tested ε α) = .ok a := by
  rw [h]
  rfl

/-- The type variable of a parameter, which has to be declared and to allow something. -/
def constraint (s : OpSchema) (p : Parameter) : Tested ε TypeConstraint := do
  let v ← reach (s.constraint? p.typeText)
  if v.allowed.isEmpty then throw .missing
  return v

/-- Checks one input against its parameter, with the type variable reached for. -/
def checkInput (s : OpSchema) (index : Nat) (p : Parameter) (input : Option ValueType)
    (bindings : Bindings) : Tested NodeFault Bindings :=
  match input with
  | none => .error (.refused (.inputMissing index p.name))
  | some t =>
    if t.kind = .notSet then .ok bindings
    else if !t.isTensor then .error (.refused (.inputNotTensor index p.name t))
    else if t.dtype = .invalid then .ok bindings
    else if !p.isVariable then
      if t.dtype = p.dtype then .ok bindings
      else .error (.refused (.inputType index p.name p.typeText t))
    else do
      let c ← constraint s p
      if !c.allows t.dtype then throw (.refused (.inputNotAllowed index p.name t c))
      match bindings.lookup p.typeText with
        | none => return (p.typeText, t.dtype) :: bindings
        | some bound =>
          if bound = t.dtype then return bindings
          else throw (.refused (.inputBinding index p.name t.dtype p.typeText bound))

def checkInputsFrom (s : OpSchema) (index : Nat) (bindings : Bindings) :
    List Parameter → List (Option ValueType) → Tested NodeFault Bindings
  | [], _ => .ok bindings
  | p :: ps, inputs => do
    let bindings ← checkInput s index p inputs.head?.join bindings
    checkInputsFrom s (index + 1) bindings ps inputs.tail

def checkInputs (s : OpSchema) (inputs : List (Option ValueType)) : Tested NodeFault Bindings :=
  if s.inputs.length < inputs.length then
    .error (.refused (.inputsBeyond inputs.length s.inputs.length))
  else checkInputsFrom s 0 [] s.inputs inputs

/-- Completes outputs in order, the first at position `index`, each with the parameter at its
position. -/
def completeOutputsFrom (s : OpSchema) (bindings : Bindings) (index : Nat) :
    List ValueType → Tested NodeFault (List ValueType)
  | [] => .ok []
  | t :: ts => do
    let p ← reach s.outputs[index]?
    let t ← of (completeOutput bindings index p t)
    let ts ← completeOutputsFrom s bindings (index + 1) ts
    return t :: ts

def checkAgainst (strict : Bool) (s : OpSchema) (n : Node) (inputs : List (Option ValueType)) :
    Tested NodeFault (List ValueType) := do
  of (checkAttributes strict s n.attributes)
  let bindings ← checkInputs s inputs
  if s.outputs.length < n.outputs.length then
    throw (.refused (.outputsBeyond n.outputs.length s.outputs.length))
  let outcome := s.infer (nodeContext s n inputs)
  if let some e := outcome.failure then throw (.refused (.inference e))
  completeOutputsFrom s bindings 0 (slotTypes outcome.slots)

def checkNode (c : Checker) (n : Node) (inputs : List (Option ValueType)) (version : Int) :
    Tested NodeError (List ValueType) :=
  let opset := c.opset version
  match c.lookup n.domain n.op opset with
  | none => .error (.refused (.noSchema n.text n.op n.domain opset))
  | some s => within (.fault n.text s.text) (checkAgainst c.strict s n inputs)

/-- Adds the outputs of a node to what is typed, the first at position `j`, each with the type at
its position. -/
def typeOutputs (types : List ValueType) (index : Nat) (n : Node) (typing : Typing) (j : Nat) :
    List String → Tested GraphFault Typing
  | [] => .ok typing
  | name :: names =>
    if name = "" then typeOutputs types index n typing (j + 1) names
    else if (typing.lookup name).isSome then .error (.refused (.redefined index n.text name))
    else do
      let t ← reach types[j]?
      typeOutputs types index n (typing ++ [(name, t)]) (j + 1) names

def typeNodes (c : Checker) (opset : Int) (typing : Typing) (index : Nat) :
    List Node → Tested GraphFault Typing
  | [] => .ok typing
  | n :: ns => do
    let inputs ← of (inputTypes typing index n n.inputs)
    let types ← within (.node index) (checkNode c n inputs opset)
    let typing ← typeOutputs types index n typing 0 n.outputs
    typeNodes c opset typing (index + 1) ns

def checkGraph (c : Checker) (g : Graph) : Tested GraphError Typing :=
  within (GraphError.mk g.name) do
    let typing ← of (typeInputs [] g.inputs)
    typeNodes c (c.opset g.opset) typing 0 g.nodes

end Tested

/-! ## Schemas that were built -/

/-- A schema that comes of declarations, whichever they are. -/
def OpSchema.IsBuilt (s : OpSchema) : Prop :=
  ∃ name decls, ((Draft.new name).declareAll decls).build = .ok s

/-- A checker that finds only schemas that were built. -/
def Checker.OnlyBuilt (c : Checker) : Prop :=
  ∀ domain name opset s, c.lookup domain name opset = some s → s.IsBuilt

theorem OpSchema.IsBuilt.wellFormed {s : OpSchema} (h : s.IsBuilt) : s.WellFormed := by
  obtain ⟨name, decls, hbuild⟩ := h
  exact Draft.wellFormed_of_build hbuild

/-- **The type variable of a generic parameter is declared**, and allows something. -/
theorem OpSchema.WellFormed.exists_constraint {s : OpSchema} (hs : s.WellFormed) (side : Side)
    {p : Parameter} (hp : p ∈ s.parameters side) (hvariable : p.isVariable = true) :
    ∃ v ∈ s.constraints, s.constraint? p.typeText = some v ∧ v.allowed ≠ [] := by
  obtain ⟨v, ⟨hv, hname⟩, -⟩ := ((hs.parameters side p hp).isVariable_iff.mp hvariable).named
  exact ⟨v, hv, hname ▸ hs.constraint?_eq hv, (hs.constraints v hv).allowed⟩

/-! ## Inputs -/

section

variable {s : OpSchema} (hs : s.WellFormed)

include hs

omit hs in
theorem tested_constraint {p : Parameter} {v : TypeConstraint}
    (hv : s.constraint? p.typeText = some v) (hallowed : v.allowed ≠ []) :
    (Tested.constraint s p : Tested NodeFault TypeConstraint) = .ok v := by
  rw [Tested.constraint, Tested.reach_of_eq_some hv]
  simp [hallowed, bind, Except.bind, pure, Except.pure]

theorem tested_checkInput {p : Parameter} (hp : p ∈ s.inputs) (index : Nat)
    (input : Option ValueType) (b : Bindings) :
    Tested.checkInput s index p input b = Tested.of (checkInput s index p input b) := by
  cases input with
  | none => rfl
  | some t =>
    rw [Tested.checkInput, checkInput]
    by_cases hvariable : p.isVariable = true
    · obtain ⟨v, -, hv, hallowed⟩ := hs.exists_constraint .input hp hvariable
      rw [tested_constraint hv hallowed, hv, ok_bind, Option.getD_some]
      simp only [Tested.of_ite, hvariable, Bool.not_true, Bool.false_eq_true, if_false]
      cases b.lookup p.typeText with
      | none => rfl
      | some bound =>
        simp only [Tested.of_ite]
        rfl
    · simp only [Tested.of_ite, hvariable]
      rfl

/-- **The inputs**: every type variable that is reached for is there. -/
theorem tested_checkInputsFrom : ∀ {ps : List Parameter} (_ : ∀ p ∈ ps, p ∈ s.inputs)
    (index : Nat) (b : Bindings) (inputs : List (Option ValueType)),
    Tested.checkInputsFrom s index b ps inputs = Tested.of (checkInputsFrom s index b ps inputs)
  | [], _, _, _, _ => rfl
  | p :: ps, hps, index, b, inputs => by
    obtain ⟨hp, hps⟩ := List.forall_mem_cons.mp hps
    rw [Tested.checkInputsFrom, checkInputsFrom, Tested.of_bind, tested_checkInput hs hp]
    exact bind_congr fun b' => tested_checkInputsFrom hps (index + 1) b' inputs.tail

theorem tested_checkInputs (inputs : List (Option ValueType)) :
    Tested.checkInputs s inputs = Tested.of (checkInputs s inputs) := by
  rw [Tested.checkInputs, checkInputs, Tested.of_ite,
    tested_checkInputsFrom hs (fun _ hp => hp)]
  rfl

end

/-! ## Outputs -/

/-- **The output slots**: each has a parameter at its position, as there are not more slots. -/
theorem tested_completeOutputsFrom {s : OpSchema} (b : Bindings) :
    ∀ (ts : List ValueType) (index : Nat) (_ : index + ts.length ≤ s.outputs.length),
      Tested.completeOutputsFrom s b index ts
        = Tested.of (completeOutputsFrom b index (s.outputs.drop index) ts)
  | [], index, _ => by
    cases s.outputs.drop index <;> rfl
  | t :: ts, index, h => by
    have hindex : index < s.outputs.length := by
      rw [List.length_cons] at h
      omega
    have hrest : index + 1 + ts.length ≤ s.outputs.length := by
      rw [List.length_cons] at h
      omega
    rw [List.drop_eq_getElem_cons hindex, Tested.completeOutputsFrom, completeOutputsFrom,
      Tested.reach_of_eq_some (List.getElem?_eq_getElem hindex), ok_bind,
      Tested.of_bind]
    refine bind_congr fun u => ?_
    rw [tested_completeOutputsFrom b ts (index + 1) hrest, Tested.of_bind]
    rfl

/-- **The named outputs**: each has a type at its position, as there are not more names. -/
theorem tested_typeOutputs (types : List ValueType) (index : Nat) (n : Node) :
    ∀ (names : List String) (typing : Typing) (j : Nat) (_ : j + names.length ≤ types.length),
      Tested.typeOutputs types index n typing j names
        = Tested.of (typeOutputs typing index n names (types.drop j))
  | [], typing, j, _ => by
    cases types.drop j <;> rfl
  | name :: names, typing, j, h => by
    have hj : j < types.length := by
      rw [List.length_cons] at h
      omega
    have hrest : j + 1 + names.length ≤ types.length := by
      rw [List.length_cons] at h
      omega
    rw [List.drop_eq_getElem_cons hj, Tested.typeOutputs, typeOutputs,
      Tested.reach_of_eq_some (List.getElem?_eq_getElem hj)]
    simp only [Tested.of_ite, tested_typeOutputs types index n names _ (j + 1) hrest]
    rfl

/-! ## Nodes and graphs -/

/-- **There are no more output slots than declared outputs**, whether the slots are counted by the
node or by the schema. -/
theorem length_slotTypes_le {s : OpSchema} {n : Node} (inputs : List (Option ValueType))
    (h : n.outputs.length ≤ s.outputs.length) :
    (slotTypes (s.infer (nodeContext s n inputs)).slots).length ≤ s.outputs.length := by
  rw [slotTypes, List.length_map, length_infer_slots, length_nodeContext_outputs]
  split
  · exact Nat.le_refl _
  · exact h

theorem tested_checkAgainst {s : OpSchema} (hs : s.WellFormed) (strict : Bool) (n : Node)
    (inputs : List (Option ValueType)) :
    Tested.checkAgainst strict s n inputs = Tested.of (checkAgainst strict s n inputs) := by
  rw [Tested.checkAgainst, checkAgainst, Tested.of_bind]
  refine bind_congr fun _ => ?_
  rw [Tested.of_bind, tested_checkInputs hs]
  refine bind_congr fun b => ?_
  by_cases hlen : s.outputs.length < n.outputs.length
  · simp only [hlen, if_true]
    rfl
  · simp only [hlen, if_false]
    cases (s.infer (nodeContext s n inputs)).failure with
    | some e => rfl
    | none =>
      have hslots := length_slotTypes_le inputs (Nat.le_of_not_lt hlen)
      exact tested_completeOutputsFrom b _ 0 (by rwa [Nat.zero_add])

namespace Checker.OnlyBuilt

variable {c : Checker} (hc : c.OnlyBuilt)

include hc

/-- **A node**: the tested run is the plain one. -/
theorem tested_checkNode (n : Node) (inputs : List (Option ValueType)) (version : Int) :
    Tested.checkNode c n inputs version = Tested.of (c.checkNode n inputs version) := by
  rw [Tested.checkNode, checkNode]
  cases hlookup : c.lookup n.domain n.op (c.opset version) with
  | none => rfl
  | some s =>
    have hs : s.WellFormed := (hc _ _ _ s hlookup).wellFormed
    simp only [tested_checkAgainst hs]
    cases checkAgainst c.strict s n inputs <;> rfl

/-- **All nodes**: each hands on a typing, and the next one starts from it. -/
theorem tested_typeNodes (opset : Int) : ∀ (ns : List Node) (typing : Typing) (index : Nat),
    Tested.typeNodes c opset typing index ns = Tested.of (c.typeNodes opset typing index ns)
  | [], _, _ => rfl
  | n :: ns, typing, index => by
    rw [Tested.typeNodes, typeNodes, Tested.of_bind]
    refine bind_congr fun inputs => ?_
    rw [hc.tested_checkNode]
    cases hnode : c.checkNode n inputs opset with
    | error e => rfl
    | ok types =>
      have hnames : 0 + n.outputs.length ≤ types.length := by
        rw [Nat.zero_add]
        exact length_outputs_le hnode
      change (Tested.typeOutputs types index n typing 0 n.outputs >>= fun typing =>
          Tested.typeNodes c opset typing (index + 1) ns)
        = Tested.of (typeOutputs typing index n n.outputs types >>= fun typing =>
          c.typeNodes opset typing (index + 1) ns)
      rw [tested_typeOutputs types index n n.outputs typing 0 hnames, Tested.of_bind,
        List.drop_zero]
      exact bind_congr fun typing' => tested_typeNodes opset ns typing' (index + 1)

/-- **A graph**: the tested run is the plain one. -/
theorem tested_checkGraph (g : Graph) : Tested.checkGraph c g = Tested.of (c.checkGraph g) := by
  have hrun : (Tested.of (typeInputs [] g.inputs) >>= fun typing =>
        Tested.typeNodes c (c.opset g.opset) typing 0 g.nodes)
      = Tested.of (typeInputs [] g.inputs >>= fun typing =>
        c.typeNodes (c.opset g.opset) typing 0 g.nodes) := by
    rw [Tested.of_bind]
    exact bind_congr fun typing => hc.tested_typeNodes _ g.nodes typing 0
  rw [Tested.checkGraph, checkGraph, hrun]
  cases typeInputs [] g.inputs >>= fun typing => c.typeNodes (c.opset g.opset) typing 0 g.nodes <;>
    rfl

/-- **Whatever the graph, checking reaches only for what is there** — over schemas that were built,
with any inference functions.  The type variable of an input is declared and allows something; each
output slot has a parameter; each output that a node names has a type in its answer.  So a run that
stops where something is missing never does so, on a node or on a graph, and ends as the plain one
does. -/
theorem reaches_in_bounds :
    (∀ domain name opset s, c.lookup domain name opset = some s →
      ∀ p ∈ s.inputs, p.isVariable = true →
        ∃ v ∈ s.constraints, s.constraint? p.typeText = some v ∧ v.allowed ≠ []) ∧
    (∀ n inputs version s, c.Reaches n inputs version s →
      ∀ i < (slotTypes (s.infer (nodeContext s n inputs)).slots).length, i < s.outputs.length) ∧
    (∀ n inputs version types, c.checkNode n inputs version = .ok types →
      ∀ j < n.outputs.length, j < types.length) ∧
    (∀ n inputs version, Tested.checkNode c n inputs version ≠ .error .missing ∧
      Tested.checkNode c n inputs version = Tested.of (c.checkNode n inputs version)) ∧
    ∀ g, Tested.checkGraph c g ≠ .error .missing ∧
      Tested.checkGraph c g = Tested.of (c.checkGraph g) := by
  refine ⟨?_, ?_, ?_, ?_, ?_⟩
  · intro domain name opset s hfound p hp hvariable
    exact (hc _ _ _ s hfound).wellFormed.exists_constraint .input hp hvariable
  · intro n inputs version s hreaches i hi
    exact Nat.lt_of_lt_of_le hi (length_slotTypes_le inputs hreaches.outputCount)
  · intro n inputs version types h j hj
    exact Nat.lt_of_lt_of_le hj (length_outputs_le h)
  · intro n inputs version
    rw [hc.tested_checkNode]
    exact ⟨Tested.of_ne_missing _, rfl⟩
  · intro g
    rw [hc.tested_checkGraph]
    exact ⟨Tested.of_ne_missing _, rfl⟩

end Checker.OnlyBuilt

/-! ## The standard registry -/

theorem Operator.isBuilt_of_schema {op : Operator} {s : OpSchema} (h : op.schema = .ok s) :
    s.IsBuilt := by
  rw [Operator.schema] at h
  split at h
  · cases h
  · split at h
    · rename_i hbuild
      obtain rfl := Except.ok.inj h
      exact ⟨op.name, _, hbuild⟩
    · cases h

/-- A standard checker finds only schemas that were built. -/
theorem Checker.IsStandard.onlyBuilt {c : Checker} (hc : c.IsStandard) : c.OnlyBuilt := by
  intro domain name opset s h
  obtain ⟨op, hop, rfl, -⟩ := hc.exists_operator h
  exact Operator.isBuilt_of_schema (Operator.schema_eq_standardSchema op hop)

/-- A node that names no output, one whose output has no name, and one that names more outputs than
there are. -/
def raggedGraph : Graph where
  name := "ragged"
  opset := 0
  inputs := [⟨"x", ⟨.tensor, .float32, some [.static 2, .unknown]⟩⟩]
  nodes := [
    ⟨"", "ReduceSum", "", ["x"], [], []⟩,
    ⟨"", "ArgMax", "", ["x"], [""], []⟩,
    ⟨"", "ReduceMax", "", ["x"], ["y", "z"], []⟩]

/-- A checker whose one schema names a type variable that it does not declare. -/
def undeclaredChecker : Checker where
  lookup _ _ _ := some ⟨"ReduceSum", "", 1, "", [], [⟨"x", "", "T", .invalid⟩], [], [], none⟩

/-- The ragged graph is refused and nothing is missing; over a schema that was not built its first
node reaches for a variable that is not there. -/
theorem Checker.OnlyBuilt.reaches_in_bounds_ragged :
    standardChecker.OnlyBuilt ∧
      (∃ e, standardChecker.checkGraph raggedGraph = .error e ∧
        Tested.checkGraph standardChecker raggedGraph = .error (.refused e)) ∧
      Tested.checkGraph undeclaredChecker raggedGraph = .error .missing := by
  have hc : standardChecker.OnlyBuilt := isStandard_standardChecker.onlyBuilt
  obtain ⟨e, he⟩ : ∃ e, standardChecker.checkGraph raggedGraph = .error e := ⟨_, rfl⟩
  refine ⟨hc, ⟨e, he, ?_⟩, rfl⟩
  obtain ⟨-, -, -, -, hgraph⟩ := reaches_in_bounds hc
  rw [(hgraph raggedGraph).2, he]
  rfl

end TensorGraph
