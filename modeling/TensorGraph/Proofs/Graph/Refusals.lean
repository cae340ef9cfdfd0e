import TensorGraph.Proofs.Graph.Node

/-!
# Proofs/Graph/Refusals — a refused node tells which stage refused it

    attributes ──▸ inputs ──▸ number of outputs ──▸ inference ──▸ declared types
        │             │               │                  │               │
        ▾             ▾               ▾                  ▾               ▾
      fault         fault           fault              fault           fault

Every stage has its own faults (`NodeFault.stage`), so a fault of inference is one that inference
gave: the stages before it let the node through, and its function failed with just this cause
(`Checker.checkNode_eq_inference_iff`).
-/

namespace TensorGraph

/-- The stages of checking a node that has a schema. -/
inductive Stage where
  | attributes | inputs | outputCount | inference | outputs
  deriving DecidableEq, Repr

/-- The stage that a fault is found in. -/
def NodeFault.stage : NodeFault → Stage
  | attributeRepeated .. => .attributes
  | attributeUndeclared .. => .attributes
  | attributeType .. => .attributes
  | attributeMissing .. => .attributes
  | inputsBeyond .. => .inputs
  | inputMissing .. => .inputs
  | inputNotTensor .. => .inputs
  | inputType .. => .inputs
  | inputNotAllowed .. => .inputs
  | inputBinding .. => .inputs
  | outputsBeyond .. => .outputCount
  | inference .. => .inference
  | outputType .. => .outputs

/-! ## Checks of one stage -/

/-- A check that fails, if it does, with a fault of one stage. -/
def FailsIn (stage : Stage) {α : Type} (x : Except NodeFault α) : Prop :=
  ∀ e, x = .error e → e.stage = stage

namespace FailsIn

variable {stage : Stage} {α β : Type}

theorem ok (a : α) : FailsIn stage (.ok a) := by
  intro e h
  cases h

theorem error {e : NodeFault} (h : e.stage = stage) : FailsIn stage (.error e : Except _ α) := by
  intro e' h'
  cases h'
  exact h

theorem bind {x : Except NodeFault α} {f : α → Except NodeFault β} (hx : FailsIn stage x)
    (hf : ∀ a, FailsIn stage (f a)) : FailsIn stage (x >>= f) := by
  cases x with
  | error e => exact error (hx e rfl)
  | ok a => exact hf a

theorem ite {p : Prop} [Decidable p] {x y : Except NodeFault α} (hx : FailsIn stage x)
    (hy : FailsIn stage y) : FailsIn stage (if p then x else y) := by
  split
  · exact hx
  · exact hy

/-- A check of one stage gives no fault of another. -/
theorem ne_error {x : Except NodeFault α} (hx : FailsIn stage x) {e : NodeFault}
    (he : e.stage ≠ stage) : x ≠ .error e := fun h => he (hx e h)

end FailsIn

section

variable {strict : Bool} {s : OpSchema}

theorem failsIn_checkAttributesFrom : ∀ (as : List Attribute) (seen : List String),
    FailsIn .attributes (checkAttributesFrom strict s seen as)
  | [], _ => .ok ()
  | a :: as, seen => by
    have ih := failsIn_checkAttributesFrom as (a.name :: seen)
    rw [checkAttributesFrom]
    refine .ite (.error rfl) ?_
    cases s.attribute? a.name with
    | none => exact .ite (.error rfl) ih
    | some spec => exact .ite (.error rfl) ih

theorem failsIn_checkAttributes (as : List Attribute) :
    FailsIn .attributes (checkAttributes strict s as) := by
  refine .bind (failsIn_checkAttributesFrom as []) fun _ => ?_
  split
  · exact .error rfl
  · exact .ok ()

theorem failsIn_checkInput (index : Nat) (p : Parameter) (input : Option ValueType)
    (b : Bindings) : FailsIn .inputs (checkInput s index p input b) := by
  cases input with
  | none => exact .error rfl
  | some t =>
    rw [checkInput]
    refine .ite (.ok b) (.ite (.error rfl) (.ite (.ok b) (.ite ?_ (.ite (.error rfl) ?_))))
    · exact .ite (.ok b) (.error rfl)
    · split
      · exact .ok _
      · exact .ite (.ok b) (.error rfl)

theorem failsIn_checkInputsFrom : ∀ (ps : List Parameter) (index : Nat) (b : Bindings)
    (inputs : List (Option ValueType)), FailsIn .inputs (checkInputsFrom s index b ps inputs)
  | [], _, b, _ => .ok b
  | p :: ps, index, b, inputs => by
    rw [checkInputsFrom]
    exact .bind (failsIn_checkInput index p _ b) fun b' =>
      failsIn_checkInputsFrom ps (index + 1) b' inputs.tail

theorem failsIn_checkInputs (inputs : List (Option ValueType)) :
    FailsIn .inputs (checkInputs s inputs) := by
  rw [checkInputs]
  exact .ite (.error rfl) (failsIn_checkInputsFrom s.inputs 0 [] inputs)

theorem failsIn_completeOutput (b : Bindings) (index : Nat) (p : Parameter) (t : ValueType) :
    FailsIn .outputs (completeOutput b index p t) := by
  rw [completeOutput]
  exact .ite (.ok t) (.ite (.ok t) (.ite (.ok _) (.ite (.ok t) (.error rfl))))

theorem failsIn_completeOutputsFrom (b : Bindings) : ∀ (ps : List Parameter) (index : Nat)
    (ts : List ValueType), FailsIn .outputs (completeOutputsFrom b index ps ts)
  | [], _, ts => .ok ts
  | _ :: _, _, [] => .ok []
  | p :: ps, index, t :: ts => by
    rw [completeOutputsFrom]
    exact .bind (failsIn_completeOutput b index p t) fun u =>
      .bind (failsIn_completeOutputsFrom b ps (index + 1) ts) fun us => .ok (u :: us)

end

/-! ## Faults of inference -/

/-- A node that gets as far as inference: its operator has a schema, and its attributes, its inputs
and the number of its outputs are as the schema asks. -/
structure Checker.Reaches (c : Checker) (n : Node) (inputs : List (Option ValueType))
    (version : Int) (s : OpSchema) : Prop where
  found : c.lookup n.domain n.op (c.opset version) = some s
  attributes : checkAttributes c.strict s n.attributes = .ok ()
  inputs : ∃ bindings, checkInputs s inputs = .ok bindings
  outputCount : n.outputs.length ≤ s.outputs.length

/-- **A schema refuses a node in inference exactly when** the stages before let it through and its
function fails. -/
theorem checkAgainst_eq_inference_iff {strict : Bool} {s : OpSchema} {n : Node}
    {inputs : List (Option ValueType)} {cause : InferenceFailure} :
    checkAgainst strict s n inputs = .error (.inference cause) ↔
      checkAttributes strict s n.attributes = .ok () ∧
      (∃ bindings, checkInputs s inputs = .ok bindings) ∧
      n.outputs.length ≤ s.outputs.length ∧
      (s.infer (nodeContext s n inputs)).failure = some cause := by
  have hattributes : checkAttributes strict s n.attributes ≠ .error (.inference cause) :=
    (failsIn_checkAttributes _).ne_error (by simp [NodeFault.stage])
  have hinputs : checkInputs s inputs ≠ .error (.inference cause) :=
    (failsIn_checkInputs _).ne_error (by simp [NodeFault.stage])
  have hcomplete (b ts) : completeOutputs s b ts ≠ .error (.inference cause) :=
    (failsIn_completeOutputsFrom b _ _ _).ne_error (by simp [NodeFault.stage])
  simp only [checkAgainst, bind_eq_error_iff, hattributes, hinputs, false_or]
  by_cases hlen : s.outputs.length < n.outputs.length
  · have hnot : ¬ n.outputs.length ≤ s.outputs.length := by omega
    simp [hlen, hnot, bind_eq_error_iff, throw_eq_error_iff, throw_ne_ok]
  · have hle : n.outputs.length ≤ s.outputs.length := by omega
    cases hf : (s.infer (nodeContext s n inputs)).failure with
    | none => simp [hlen, hcomplete]
    | some e =>
      simp only [hlen, hle, if_false, bind_eq_error_iff, throw_eq_error_iff, throw_ne_ok,
        NodeFault.inference.injEq, Option.some.injEq, false_and, exists_false, or_false, true_and]
      constructor
      · rintro ⟨_, hpass, b, hb, hcause⟩
        exact ⟨hpass, ⟨b, hb⟩, hcause⟩
      · rintro ⟨hpass, ⟨b, hb⟩, hcause⟩
        exact ⟨(), hpass, b, hb, hcause⟩

/-- A fault of a node is one that its schema finds. -/
theorem Checker.checkNode_eq_fault_iff {c : Checker} {n : Node}
    {inputs : List (Option ValueType)} {version : Int} {node schema : String} {e : NodeFault} :
    c.checkNode n inputs version = .error (.fault node schema e) ↔
      ∃ s, c.lookup n.domain n.op (c.opset version) = some s ∧
        n.text = node ∧ s.text = schema ∧ checkAgainst c.strict s n inputs = .error e := by
  rw [checkNode]
  cases c.lookup n.domain n.op (c.opset version) with
  | none => simp
  | some s =>
    cases h : checkAgainst c.strict s n inputs with
    | ok => simp [h]
    | error => simp [h]

/-- **A node is refused in inference exactly when** it reaches inference and the function of its
schema fails. -/
theorem Checker.checkNode_eq_inference_iff {c : Checker} {n : Node}
    {inputs : List (Option ValueType)} {version : Int} {node schema : String}
    {cause : InferenceFailure} :
    c.checkNode n inputs version = .error (.fault node schema (.inference cause)) ↔
      ∃ s, c.Reaches n inputs version s ∧
        n.text = node ∧ s.text = schema ∧
        (s.infer (nodeContext s n inputs)).failure = some cause := by
  simp only [checkNode_eq_fault_iff, checkAgainst_eq_inference_iff]
  constructor
  · rintro ⟨s, hfound, hnode, hschema, hattributes, hinputs, hcount, hfailure⟩
    exact ⟨s, ⟨hfound, hattributes, hinputs, hcount⟩, hnode, hschema, hfailure⟩
  · rintro ⟨s, h, hnode, hschema, hfailure⟩
    exact ⟨s, h.found, hnode, hschema, h.attributes, h.inputs, h.outputCount, hfailure⟩

end TensorGraph
