import TensorGraph.Proofs.Graph.Refusals
import TensorGraph.Proofs.Graph.Signature

/-!
# Proofs/Graph/Completion — outputs conform to their declarations and keep what inference found

    declared     tensor(int64)   T           T           U
    bound                        T float     T float
    left         ? [3]           float [?]   not set     bool
    answered     int64 [3]       float [?]   float       bool

After inference every output slot is compared with the element type that is expected of it, if one
is (`Expects`): the declared one, or the one that the inputs show for its type variable.  An
element type that inference found has to be the expected one (`Conforms`), a missing one is filled
in, and nothing else changes (`Completed`).
-/

namespace TensorGraph

/-! ## One output -/

/-- An element type that inference found is the expected one, where one is expected. -/
def Conforms (expects : DType → Prop) (t : ValueType) : Prop :=
  (t.kind = .notSet ∨ t.kind = .tensor) → t.dtype ≠ .invalid → ∀ e, expects e → t.dtype = e

/-- The output lacks an element type that is expected of it. -/
def Lacks (expects : DType → Prop) (t : ValueType) (e : DType) : Prop :=
  (t.kind = .notSet ∨ t.kind = .tensor) ∧ t.dtype = .invalid ∧ expects e

/-- What becomes of an output: it gets the element type that it lacks, and otherwise it stays as it
is.  Its dimensions stay in any case. -/
structure Completed (expects : DType → Prop) (t t' : ValueType) : Prop where
  filled : ∀ e, Lacks expects t e → t' = ⟨.tensor, e, t.dims?⟩
  kept : (¬ ∃ e, Lacks expects t e) → t' = t
  dims : t'.dims? = t.dims?

section

variable {expects : DType → Prop} {t t' : ValueType} {e : DType}

theorem completed_iff_of_lacks (h : Lacks expects t e) (hunique : ∀ e', expects e' → e' = e) :
    Completed expects t t' ↔ t' = ⟨.tensor, e, t.dims?⟩ := by
  refine ⟨fun hcompleted => hcompleted.filled e h, ?_⟩
  rintro rfl
  refine ⟨fun e' he' => ?_, fun hnone => absurd ⟨e, h⟩ hnone, rfl⟩
  rw [hunique e' he'.2.2]

theorem completed_iff_of_not_lacks (h : ¬ ∃ e, Lacks expects t e) :
    Completed expects t t' ↔ t' = t := by
  refine ⟨fun hcompleted => hcompleted.kept h, ?_⟩
  rintro rfl
  exact ⟨fun e he => absurd ⟨e, he⟩ h, fun _ => rfl, rfl⟩

theorem exists_completed (hunique : ∀ e e', expects e → expects e' → e' = e) (t : ValueType) :
    ∃ t', Completed expects t t' := by
  by_cases h : ∃ e, Lacks expects t e
  · obtain ⟨e, he⟩ := h
    exact ⟨_, (completed_iff_of_lacks he fun e' => hunique e e' he.2.2).mpr rfl⟩
  · exact ⟨t, (completed_iff_of_not_lacks h).mpr rfl⟩

/-- The outputs that are passed over are those that are set and no tensors. -/
theorem passed_over_iff :
    (t.kind ≠ .notSet ∧ (!t.isTensor) = true) ↔ ¬ (t.kind = .notSet ∨ t.kind = .tensor) := by
  simp [ValueType.isTensor]

variable {b : Bindings} {index : Nat} {p : Parameter}
  (hexpects : ∀ e, expects e ↔ expectedElem b p = e ∧ e ≠ .invalid)
include hexpects

theorem eq_of_expects (e e' : DType) (he : expects e) (he' : expects e') : e' = e :=
  ((hexpects e').mp he').1.symm.trans ((hexpects e).mp he).1

/-- An output that lacks an element type gets it. -/
theorem completeOutput_of_lacks (h : Lacks expects t e) :
    completeOutput b index p t = .ok ⟨.tensor, e, t.dims?⟩ := by
  obtain ⟨hopen, hunknown, he⟩ := h
  obtain ⟨rfl, hknown⟩ := (hexpects e).mp he
  have hpass := passed_over_iff.not.mpr (not_not.mpr hopen)
  simp only [completeOutput, if_neg hpass, if_neg hknown, if_pos hunknown, ValueType.withElem]

/-- Any other output stays as it is, if it conforms. -/
theorem completeOutput_of_not_lacks (h : ¬ ∃ e, Lacks expects t e) :
    completeOutput b index p t = .ok t' ↔ Conforms expects t ∧ t = t' := by
  simp only [completeOutput]
  by_cases hopen : t.kind = .notSet ∨ t.kind = .tensor
  · rw [if_neg (passed_over_iff.not.mpr (not_not.mpr hopen))]
    by_cases hnone : expectedElem b p = .invalid
    · have hfree : ∀ e, ¬ expects e := by simp [hexpects, hnone]
      simp [hnone, Conforms, hfree]
    · have hexpected : expects (expectedElem b p) := (hexpects _).mpr ⟨rfl, hnone⟩
      have hknown : t.dtype ≠ .invalid := fun hunknown => h ⟨_, hopen, hunknown, hexpected⟩
      have hconforms : Conforms expects t ↔ t.dtype = expectedElem b p :=
        ⟨fun hc => hc hopen hknown _ hexpected,
          fun hdtype _ _ e he => hdtype.trans ((hexpects e).mp he).1⟩
      rw [if_neg hnone, if_neg hknown, hconforms]
      by_cases hsame : t.dtype = expectedElem b p <;> simp [hsame]
  · have hconforms : Conforms expects t := fun hkind => absurd hkind hopen
    rw [if_pos (passed_over_iff.mpr hopen)]
    simp [hconforms]

/-- **One output** is completed exactly if it conforms to what is expected of it. -/
theorem completeOutput_eq_ok_iff :
    completeOutput b index p t = .ok t' ↔ Conforms expects t ∧ Completed expects t t' := by
  by_cases h : ∃ e, Lacks expects t e
  · obtain ⟨e, he⟩ := h
    have hunique : ∀ e', expects e' → e' = e := fun e' =>
      eq_of_expects hexpects e e' he.2.2
    have hconforms : Conforms expects t := fun _ hknown => absurd he.2.1 hknown
    rw [completeOutput_of_lacks hexpects he, completed_iff_of_lacks he hunique]
    simp [hconforms, eq_comm]
  · rw [completeOutput_of_not_lacks hexpects h, completed_iff_of_not_lacks h, eq_comm]

end

/-! ## All outputs -/

section

variable {expects : Parameter → DType → Prop} {b : Bindings}

/-- **All outputs** are completed exactly if each is. -/
theorem completeOutputsFrom_eq_ok_iff :
    ∀ {ps : List Parameter} {index : Nat} {ts ts' : List ValueType},
      (∀ p ∈ ps, ∀ e, expects p e ↔ expectedElem b p = e ∧ e ≠ .invalid) →
      ts.length ≤ ps.length →
        (completeOutputsFrom b index ps ts = .ok ts' ↔
          List.Forall₂ (fun e t' => Conforms (expects e.1) e.2 ∧ Completed (expects e.1) e.2 t')
            (ps.zip ts) ts')
  | ps, index, [], ts', _, _ => by
    cases ps <;> simp [completeOutputsFrom, eq_comm]
  | p :: ps, index, t :: ts, ts', hexpects, hlength => by
    have hrest (us : List ValueType) :
        completeOutputsFrom b (index + 1) ps ts = .ok us ↔
          List.Forall₂ (fun e t' => Conforms (expects e.1) e.2 ∧ Completed (expects e.1) e.2 t')
            (ps.zip ts) us :=
      completeOutputsFrom_eq_ok_iff (fun q hq => hexpects q (List.mem_cons_of_mem p hq))
        (Nat.le_of_succ_le_succ hlength)
    simp only [completeOutputsFrom, bind_eq_ok_iff, pure_eq_ok_iff, List.zip_cons_cons,
      List.forall₂_cons_left_iff, completeOutput_eq_ok_iff (hexpects p List.mem_cons_self), hrest]
    constructor
    · rintro ⟨u, hu, us, hus, rfl⟩
      exact ⟨u, us, hu, hus, rfl⟩
    · rintro ⟨u, us, hu, hus, rfl⟩
      exact ⟨u, hu, us, hus, rfl⟩

end

/-! ## Nodes -/

/-- The element type that is expected of an output: the declared one where that is concrete, or the
one that the inputs show for its type variable. -/
inductive Expects (s : OpSchema) (inputs : List (Option ValueType)) (p : Parameter) : DType → Prop
  | declared (h : p.IsConcrete s.constraints) : Expects s inputs p p.dtype
  | bound {v : TypeConstraint} (hv : v ∈ s.constraints) (hname : p.typeText = v.name) {e : DType}
      (hshows : Shows v.name s.inputs inputs e) : Expects s inputs p e

section

variable {s : OpSchema} {inputs : List (Option ValueType)} {p : Parameter} {b : Bindings}

theorem expects_iff_of_concrete (h : p.IsConcrete s.constraints) {e : DType} :
    Expects s inputs p e ↔ p.dtype = e := by
  constructor
  · rintro (_ | ⟨hv, hname, _⟩)
    · rfl
    · exact absurd hname.symm (h.unnamed _ hv)
  · rintro rfl
    exact .declared h

theorem expects_iff_of_generic (h : p.IsGeneric s.constraints) {e : DType} :
    Expects s inputs p e ↔ Shows p.typeText s.inputs inputs e := by
  constructor
  · rintro (hconcrete | ⟨hv, hname, hshows⟩)
    · exact absurd h.unknown hconcrete.known
    · rwa [hname]
  · intro hshows
    obtain ⟨v, ⟨hv, hname⟩, -⟩ := h.named
    exact .bound hv hname.symm (hname ▸ hshows)

/-- What is expected of an output is what it is compared with. -/
theorem expects_iff (hs : s.WellFormed) (hp : p ∈ s.outputs)
    (hinputs : checkInputs s inputs = .ok b) (e : DType) :
    Expects s inputs p e ↔ expectedElem b p = e ∧ e ≠ .invalid := by
  have hwf := hs.parameters .output p hp
  rcases hwf.typed with hconcrete | hgeneric
  · have hexpected : expectedElem b p = p.dtype := by
      simp [expectedElem, hconcrete.isVariable_eq]
    rw [expects_iff_of_concrete hconcrete, hexpected]
    exact ⟨fun he => ⟨he, he ▸ hconcrete.known⟩, fun he => he.1⟩
  · obtain ⟨v, ⟨hv, hname⟩, -⟩ := hgeneric.named
    have hexpected : expectedElem b p = (b.lookup v.name).getD .invalid := by
      simp [expectedElem, hwf.isVariable_iff.mpr hgeneric, hname]
    rw [expects_iff_of_generic hgeneric, hexpected, ← hname]
    constructor
    · intro hshows
      rw [(lookup_checkInputs_iff hs hv hinputs).mpr hshows]
      exact ⟨rfl, hshows.known⟩
    · rintro ⟨he, hknown⟩
      cases hlookup : b.lookup v.name with
      | none => exact absurd (by simpa [hlookup] using he.symm) hknown
      | some bound =>
        obtain rfl : bound = e := by simpa [hlookup] using he
        exact (lookup_checkInputs_iff hs hv hinputs).mp hlookup

end

/-! ## What inference leaves -/

/-- A slot that is there stays there. -/
theorem isSome_of_mem_overwriteSlots {old new : Slots} (h : ∀ slot ∈ old, slot.isSome = true) :
    ∀ slot ∈ overwriteSlots old new, slot.isSome = true := by
  fun_induction overwriteSlots old new with
  | case1 t old new news ih => simp_all
  | case2 old new news ih => simp at h
  | case3 old => exact h
  | case4 news => simp

/-- **Inference leaves a type in every slot**, one for each output that the node names, or for each
declared output if it names none. -/
theorem exists_left (s : OpSchema) (n : Node) (inputs : List (Option ValueType)) :
    ∃ left : List ValueType,
      (s.infer (nodeContext s n inputs)).slots = left.map some ∧
        slotTypes (s.infer (nodeContext s n inputs)).slots = left ∧
        left.length = if n.outputs.isEmpty then s.outputs.length else n.outputs.length := by
  have hsome : ∀ slot ∈ (s.infer (nodeContext s n inputs)).slots, slot.isSome = true :=
    isSome_of_mem_overwriteSlots fun slot hslot => by
      rw [(List.mem_replicate.mp hslot).2]
      rfl
  refine ⟨_, ?_, rfl, ?_⟩
  · rw [slotTypes, List.map_map]
    refine (List.map_id _).symm.trans (List.map_congr_left fun slot hslot => ?_)
    obtain ⟨t, rfl⟩ := Option.isSome_iff_exists.mp (hsome slot hslot)
    rfl
  · rw [slotTypes, List.length_map, length_infer_slots, length_nodeContext_outputs]

theorem forall_mem_zip_iff {α β : Type} {xs : List α} {ys : List β} {P : α × β → Prop} :
    (∀ e ∈ xs.zip ys, P e) ↔
      ∀ (i : Nat) x y, xs[i]? = some x → ys[i]? = some y → P (x, y) := by
  simp only [List.mem_iff_getElem?, List.getElem?_zip_eq_some]
  constructor
  · intro h i x y hx hy
    exact h (x, y) ⟨i, hx, hy⟩
  · rintro h e ⟨i, hx, hy⟩
    exact h i e.1 e.2 hx hy

section

variable {s : OpSchema} {inputs : List (Option ValueType)} {b : Bindings}
  {left types : List ValueType} (hs : s.WellFormed) (hinputs : checkInputs s inputs = .ok b)
  (hlength : left.length ≤ s.outputs.length)
include hs hinputs hlength

theorem completeOutputs_eq_ok_iff :
    completeOutputs s b left = .ok types ↔
      List.Forall₂ (fun e t' => Conforms (Expects s inputs e.1) e.2 ∧
        Completed (Expects s inputs e.1) e.2 t') (s.outputs.zip left) types :=
  completeOutputsFrom_eq_ok_iff (fun _ hp => expects_iff hs hp hinputs) hlength

/-- Outputs can be completed exactly if each conforms to what is expected of it. -/
theorem exists_completeOutputs_iff :
    (∃ types, completeOutputs s b left = .ok types) ↔
      ∀ (i : Nat) p t, s.outputs[i]? = some p → left[i]? = some t →
        Conforms (Expects s inputs p) t := by
  simp only [completeOutputs_eq_ok_iff hs hinputs hlength, exists_forall₂_iff, forall_mem_zip_iff]
  refine forall₃_congr fun i p t => forall₂_congr fun hp _ => ?_
  have hcompared := expects_iff hs (List.mem_of_getElem? hp) hinputs
  rw [exists_and_left]
  exact and_iff_left (exists_completed (eq_of_expects hcompared) t)

/-- Completed outputs stand where they were left. -/
theorem completed_of_completeOutputs (h : completeOutputs s b left = .ok types) :
    types.length = left.length ∧
      ∀ (i : Nat) t, left[i]? = some t →
        ∃ p t', s.outputs[i]? = some p ∧ types[i]? = some t' ∧
          Completed (Expects s inputs p) t t' := by
  have hall := (completeOutputs_eq_ok_iff hs hinputs hlength).mp h
  refine ⟨by simpa [hlength] using hall.length_eq.symm, fun i t ht => ?_⟩
  have hi : i < s.outputs.length := (List.getElem?_eq_some_iff.mp ht).1.trans_le hlength
  have hzip : (s.outputs.zip left)[i]? = some (s.outputs[i], t) :=
    List.getElem?_zip_eq_some.mpr ⟨List.getElem?_eq_getElem hi, ht⟩
  obtain ⟨t', ht', -, hcompleted⟩ := exists_getElem?_of_forall₂ hall.flip hzip
  exact ⟨_, t', List.getElem?_eq_getElem hi, ht', hcompleted⟩

end

/-- Past inference a node is accepted exactly if its outputs can be completed. -/
theorem Checker.Reaches.checkNode_eq_ok_iff {c : Checker} {n : Node}
    {inputs : List (Option ValueType)} {version : Int} {s : OpSchema} {b : Bindings}
    {types : List ValueType} (h : c.Reaches n inputs version s)
    (hinferred : (s.infer (nodeContext s n inputs)).failure = none)
    (hinputs : checkInputs s inputs = .ok b) :
    c.checkNode n inputs version = .ok types ↔
      completeOutputs s b (slotTypes (s.infer (nodeContext s n inputs)).slots) = .ok types := by
  simp only [Checker.checkNode_eq_ok_iff, h.found, Option.some.injEq, exists_eq_left',
    checkAgainst_eq_ok_iff, h.attributes, h.outputCount, hinferred, hinputs, Except.ok.injEq,
    true_and]

/-- **Outputs conform to their declarations and keep what inference found.**  Past inference, which
leaves a type in every slot, a node is accepted exactly if each slot conforms to what is expected of
it.  It then answers once for each slot: with the element type filled in where it was lacking, and
otherwise with what was left. -/
theorem Checker.checkNode_completes {name : String} {decls : List Declaration} {s : OpSchema}
    (hbuild : ((Draft.new name).declareAll decls).build = .ok s) {c : Checker} {n : Node}
    {inputs : List (Option ValueType)} {version : Int} (hreaches : c.Reaches n inputs version s)
    (hinferred : (s.infer (nodeContext s n inputs)).failure = none) :
    ∃ left : List ValueType,
      (s.infer (nodeContext s n inputs)).slots = left.map some ∧
      left.length = (if n.outputs.isEmpty then s.outputs.length else n.outputs.length) ∧
      ((∃ types, c.checkNode n inputs version = .ok types) ↔
        ∀ (i : Nat) p t, s.outputs[i]? = some p → left[i]? = some t →
          Conforms (Expects s inputs p) t) ∧
      ∀ types, c.checkNode n inputs version = .ok types →
        types.length = left.length ∧
        ∀ (i : Nat) t, left[i]? = some t →
          ∃ p t', s.outputs[i]? = some p ∧ types[i]? = some t' ∧
            Completed (Expects s inputs p) t t' := by
  have hs := Draft.wellFormed_of_build hbuild
  obtain ⟨b, hb⟩ := hreaches.inputs
  obtain ⟨left, hslots, hleft, hcount⟩ := exists_left s n inputs
  have hlength : left.length ≤ s.outputs.length := by
    rw [hcount]
    split
    · exact le_refl _
    · exact hreaches.outputCount
  have hcheck (types : List ValueType) :
      c.checkNode n inputs version = .ok types ↔ completeOutputs s b left = .ok types := by
    rw [hreaches.checkNode_eq_ok_iff hinferred hb, hleft]
  refine ⟨left, hslots, hcount, ?_, fun types htypes => ?_⟩
  · simp only [hcheck]
    exact exists_completeOutputs_iff hs hb hlength
  · exact completed_of_completeOutputs hs hb hlength ((hcheck types).mp htypes)

/-- Three outputs of which inference finds the dimensions of the first, the element type of the
second and nothing of the third. -/
def splitDeclarations : List Declaration := [
  .parameter .input 0 "x" "" "T",
  .parameter .output 0 "parts" "" "T",
  .parameter .output 1 "count" "" "tensor(int64)",
  .parameter .output 2 "rest" "" "U",
  .constraint "T" highPrecisionTypes "",
  .constraint "U" [.bool] "",
  .inference (some fun _ =>
    ⟨[some ⟨.notSet, .invalid, some [.static 3]⟩, some ⟨.tensor, .int64, none⟩], none⟩)]

/-- A node that names no outputs. -/
def splitNode : Node := ⟨"", "Split", "", ["x"], [], []⟩

/-- The first output has no element type of its own and gets that of the input. -/
theorem Checker.checkNode_completes_split :
    ∃ s types, ((Draft.new "Split").declareAll splitDeclarations).build = .ok s ∧
      Checker.checkNode { lookup := fun _ _ _ => some s } splitNode
        [some (.tensor .float32)] 13 = .ok types ∧
      types.length = 3 ∧ types[0]? = some ⟨.tensor, .float32, some [.static 3]⟩ := by
  have hbuild : ∃ s, ((Draft.new "Split").declareAll splitDeclarations).build = .ok s := ⟨_, rfl⟩
  obtain ⟨s, hs⟩ := hbuild
  have hreaches : Checker.Reaches { lookup := fun _ _ _ => some s } splitNode
      [some (.tensor .float32)] 13 s := by
    cases hs
    exact ⟨rfl, rfl, ⟨_, rfl⟩, Nat.zero_le _⟩
  have hinferred :
      (s.infer (nodeContext s splitNode [some (.tensor .float32)])).failure = none := by
    cases hs
    rfl
  obtain ⟨left, hslots, hcount, -, hcompleted⟩ := checkNode_completes hs hreaches hinferred
  have hcheck : ∃ types, Checker.checkNode { lookup := fun _ _ _ => some s } splitNode
      [some (.tensor .float32)] 13 = .ok types := by
    cases hs
    exact ⟨_, rfl⟩
  obtain ⟨types, htypes⟩ := hcheck
  obtain ⟨hlength, hat⟩ := hcompleted types htypes
  have hslot : (s.infer (nodeContext s splitNode [some (.tensor .float32)])).slots[0]?
      = some (some ⟨.notSet, .invalid, some [.static 3]⟩) := by
    cases hs
    rfl
  have hfirst : left[0]? = some ⟨.notSet, .invalid, some [.static 3]⟩ := by
    simpa [hslots] using hslot
  obtain ⟨p, t, hp, ht, hfilled⟩ := hat 0 _ hfirst
  have hexpected : Expects s [some (.tensor .float32)] p .float32 := by
    cases hs
    cases hp
    exact .bound List.mem_cons_self rfl ⟨0, _, _, rfl, rfl, rfl, rfl, rfl, by decide⟩
  refine ⟨s, types, hs, htypes, ?_, ?_⟩
  · cases hs
    exact hlength.trans hcount
  · rw [ht, hfilled.filled .float32 ⟨.inl rfl, rfl, hexpected⟩]

end TensorGraph
