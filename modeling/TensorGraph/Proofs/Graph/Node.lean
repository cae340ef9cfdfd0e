import TensorGraph.Graph.Check
import TensorGraph.Proofs.Results

/-!
# Proofs/Graph/Node — an accepted node has passed every stage

    attributes ──▸ inputs ──▸ number of outputs ──▸ inference ──▸ declared types

`checkNode_eq_ok_iff` and `checkAgainst_eq_ok_iff` say that a node is accepted exactly when each
stage lets it through, and name what the stages hand on.  No stage adds or drops an output slot, so
an accepted node answers with a type for each output it names (`length_outputs_le`).
-/

namespace TensorGraph

/-! ## The stages -/

/-- **A schema accepts a node exactly when every stage does.** -/
theorem checkAgainst_eq_ok_iff {strict : Bool} {s : OpSchema} {n : Node}
    {inputs : List (Option ValueType)} {types : List ValueType} :
    checkAgainst strict s n inputs = .ok types ↔
      checkAttributes strict s n.attributes = .ok () ∧
      n.outputs.length ≤ s.outputs.length ∧
      (s.infer (nodeContext s n inputs)).failure = none ∧
      ∃ bindings, checkInputs s inputs = .ok bindings ∧
        completeOutputs s bindings (slotTypes (s.infer (nodeContext s n inputs)).slots)
          = .ok types := by
  simp only [checkAgainst, bind_eq_ok_iff]
  by_cases hlen : s.outputs.length < n.outputs.length
  · have hnot : ¬ n.outputs.length ≤ s.outputs.length := by omega
    simp [hlen, hnot, bind_eq_ok_iff, throw_ne_ok]
  · have hle : n.outputs.length ≤ s.outputs.length := by omega
    cases hf : (s.infer (nodeContext s n inputs)).failure with
    | some e => simp [hlen, bind_eq_ok_iff, throw_ne_ok]
    | none =>
      simp only [hlen, hle, if_false, true_and]
      exact ⟨fun ⟨_, ha, h⟩ => ⟨ha, h⟩, fun ⟨ha, h⟩ => ⟨(), ha, h⟩⟩

/-- **A node is accepted exactly when its operator has a schema that accepts it.** -/
theorem Checker.checkNode_eq_ok_iff {c : Checker} {n : Node} {inputs : List (Option ValueType)}
    {version : Int} {types : List ValueType} :
    c.checkNode n inputs version = .ok types ↔
      ∃ s, c.lookup n.domain n.op (c.opset version) = some s ∧
        checkAgainst c.strict s n inputs = .ok types := by
  rw [checkNode]
  cases c.lookup n.domain n.op (c.opset version) with
  | none => simp
  | some s =>
    cases h : checkAgainst c.strict s n inputs <;> simp [h]

/-! ## No stage adds or drops an output -/

theorem length_overwriteSlots : ∀ old new : Slots, (overwriteSlots old new).length = old.length
  | [], [] => rfl
  | [], _ :: _ => rfl
  | _ :: _, [] => by simp [overwriteSlots]
  | some _ :: old, _ :: new => by simp [overwriteSlots, length_overwriteSlots old new]
  | none :: old, _ :: new => by simp [overwriteSlots, length_overwriteSlots old new]

/-- Inference leaves the slots it was given. -/
theorem length_infer_slots (s : OpSchema) (c : InferenceContext) :
    (s.infer c).slots.length = c.outputs.length := length_overwriteSlots _ _

theorem length_completeOutputsFrom {bindings : Bindings} : ∀ {index : Nat} {ps : List Parameter}
    {ts ts' : List ValueType},
    completeOutputsFrom bindings index ps ts = .ok ts' → ts'.length = ts.length
  | _, [], ts, _, h => by
    obtain rfl : ts = _ := by simpa [completeOutputsFrom] using h
    rfl
  | _, _ :: _, [], _, h => by
    obtain rfl : [] = _ := by simpa [completeOutputsFrom] using h
    rfl
  | _, p :: ps, t :: ts, ts', h => by
    simp only [completeOutputsFrom, bind_eq_ok_iff, pure_eq_ok_iff] at h
    obtain ⟨_, -, rest, hrest, rfl⟩ := h
    simp [length_completeOutputsFrom hrest]

/-- The number of output slots of a node. -/
theorem length_nodeContext_outputs (s : OpSchema) (n : Node) (inputs : List (Option ValueType)) :
    (nodeContext s n inputs).outputs.length
      = if n.outputs.isEmpty then s.outputs.length else n.outputs.length := by
  simp [nodeContext]

/-- **A node that a schema accepts answers once for each output slot.** -/
theorem length_of_checkAgainst {strict : Bool} {s : OpSchema} {n : Node}
    {inputs : List (Option ValueType)} {types : List ValueType}
    (h : checkAgainst strict s n inputs = .ok types) :
    types.length = if n.outputs.isEmpty then s.outputs.length else n.outputs.length := by
  obtain ⟨-, -, -, bindings, -, hcomplete⟩ := checkAgainst_eq_ok_iff.mp h
  rw [length_completeOutputsFrom hcomplete, slotTypes, List.length_map, length_infer_slots,
    length_nodeContext_outputs]

/-- **An accepted node answers with a type for each output it names.** -/
theorem Checker.length_outputs_le {c : Checker} {n : Node} {inputs : List (Option ValueType)}
    {version : Int} {types : List ValueType} (h : c.checkNode n inputs version = .ok types) :
    n.outputs.length ≤ types.length := by
  obtain ⟨s, -, hs⟩ := checkNode_eq_ok_iff.mp h
  rw [length_of_checkAgainst hs]
  split
  · rename_i hempty
    simp [List.isEmpty_iff.mp hempty]
  · exact Nat.le_refl _

end TensorGraph
