import TensorGraph.Proofs.Reduction.Dims

/-!
# Proofs/Reduction/Binding — inference commutes with binding dimensions

    g ──bind──▸ g.bindDims s
    │                │
    ▾                ▾
    typing ──bind──▸ typing of g.bindDims s

A function on dimensions that fixes the static ones binds symbols and guesses unknowns.  Binding
before or after checking gives the same: whether a graph is accepted does not change, and the types
found are the bound ones (`checkGraph_bindDims`).  Both directions are one fact about relations,
read once from the graph to the bound graph and once back.
-/

namespace TensorGraph

/-! ## Binding -/

/-- Puts a function through all dimensions of a type. -/
def ValueType.bindDims (s : Dim → Dim) (t : ValueType) : ValueType :=
  { t with dims? := t.dims?.map (List.map s) }

/-- Puts a function through all dimensions of the inputs of a graph. -/
def Graph.bindDims (s : Dim → Dim) (g : Graph) : Graph :=
  { g with inputs := g.inputs.map fun v => ⟨v.name, v.type.bindDims s⟩ }

/-- Puts a function through all dimensions in a typing. -/
def bindTyping (s : Dim → Dim) (typing : Typing) : Typing :=
  typing.map fun p => (p.1, p.2.bindDims s)

/-! ## Types that differ in dimensions only -/

/-- Types of the same kind and element type, of the same rank, with related dimensions. -/
structure ValueType.RelDims (D : Dim → Dim → Prop) (t t' : ValueType) : Prop where
  kind : t.kind = t'.kind
  dtype : t.dtype = t'.dtype
  dims : Option.Rel (List.Forall₂ D) t.dims? t'.dims?

section

variable {D : Dim → Dim → Prop} {t t' : ValueType}

theorem ValueType.RelDims.shape? (h : t.RelDims D t') :
    Option.Rel (fun s s' : Shape => List.Forall₂ D s.dims s'.dims) t.shape? t'.shape? := by
  obtain ⟨kind, dtype, dims⟩ := t
  obtain ⟨kind', dtype', dims'⟩ := t'
  obtain ⟨rfl, rfl, hdims⟩ := h
  rw [ValueType.shape?, ValueType.shape?]
  by_cases hkind : kind = .tensor
  · cases hdims with
    | none => simp [ValueType.isTensor]
    | some hdims => simpa [ValueType.isTensor, hkind] using hdims
  · simp [ValueType.isTensor, hkind]

theorem Family.base_congr (F : Family) (hkind : t.kind = t'.kind) (hdtype : t.dtype = t'.dtype) :
    F.base t = F.base t' := by
  cases F with
  | axes => simp only [base, hkind, hdtype]
  | index => rfl

theorem Family.Accepts.congr {F : Family} (h : F.Accepts t) (hkind : t.kind = t'.kind)
    (hdtype : t.dtype = t'.dtype) : F.Accepts t' := by
  rw [Accepts, hkind, hdtype] at h
  exact h

/-- **Reductions respect relations of dimensions.** -/
theorem Family.typeOf_relDims (hone : D (.static 1) (.static 1)) {F : Family}
    {attributes : List Attribute} {out : ValueType} (h : t.RelDims D t')
    (htype : F.typeOf attributes t = .ok out) :
    ∃ out', F.typeOf attributes t' = .ok out' ∧ out.RelDims D out' := by
  have hbase : F.base t = F.base t' := F.base_congr h.kind h.dtype
  have hshape := h.shape?
  rcases typeOf_eq_ok_iff.mp htype with ⟨hnone, rfl⟩ | ⟨operand, s, hsome, hreduce, rfl⟩
  · rw [hnone, rel_none_left_iff] at hshape
    refine ⟨F.base t', typeOf_eq_ok_iff.mpr (.inl ⟨hshape, rfl⟩), ?_⟩
    rw [hbase]
    exact ⟨rfl, rfl, by rw [base_dims]; exact .none⟩
  · rw [hsome, rel_some_left_iff] at hshape
    obtain ⟨operand', hsome', hdims⟩ := hshape
    obtain ⟨s', hreduce', hdims'⟩ := reduce_rel hone hdims hreduce
    refine ⟨_, typeOf_eq_ok_iff.mpr (.inr ⟨operand', s', hsome', hreduce', rfl⟩), ?_⟩
    rw [hbase]
    exact ⟨rfl, rfl, .some hdims'⟩

theorem Checker.IsStandard.respects_relDims {c : Checker} (hc : c.IsStandard)
    (hone : D (.static 1) (.static 1)) : c.Respects (ValueType.RelDims D) :=
  hc.respects fun _ _ _ _ _ h haccepts htype =>
    ⟨haccepts.congr h.kind h.dtype, Family.typeOf_relDims hone h htype⟩

end

/-! ## Binding is such a relation

It is read in two directions: what is accepted stays accepted when bound, and what is accepted
when bound was so before. -/

section

variable {s : Dim → Dim}

theorem ValueType.relDims_bindDims (t : ValueType) :
    t.RelDims (fun d d' => d' = s d) (t.bindDims s) := by
  refine ⟨rfl, rfl, ?_⟩
  cases hdims : t.dims? with
  | none => simp [bindDims, hdims]
  | some ds => simp [bindDims, hdims, List.forall₂_map_right_iff, List.forall₂_same]

/-- **A type related by binding is the bound type.** -/
theorem ValueType.RelDims.eq_bindDims {t t' : ValueType}
    (h : t.RelDims (fun d d' => d' = s d) t') : t' = t.bindDims s := by
  obtain ⟨kind, dtype, dims⟩ := t
  obtain ⟨kind', dtype', dims'⟩ := t'
  obtain ⟨rfl, rfl, hdims⟩ := h
  cases hdims with
  | none => rfl
  | some hdims => rw [bindDims, Option.map_some, forall₂_map_eq_iff.mp hdims]

theorem ValueType.RelDims.symm {D : Dim → Dim → Prop} {t t' : ValueType} (h : t.RelDims D t') :
    t'.RelDims (fun d' d => D d d') t := by
  obtain ⟨kind, dtype, dims⟩ := t
  obtain ⟨kind', dtype', dims'⟩ := t'
  obtain ⟨rfl, rfl, hdims⟩ := h
  refine ⟨rfl, rfl, ?_⟩
  cases hdims with
  | none => exact .none
  | some hdims => exact .some hdims.flip

theorem eq_bindTyping_of_rel {typing typing' : Typing}
    (h : TypingRel (ValueType.RelDims fun d d' => d' = s d) typing typing') :
    typing' = bindTyping s typing :=
  forall₂_map_eq_iff.mp (h.imp fun _ _ hp => Prod.ext hp.1.symm hp.2.eq_bindDims)

theorem Graph.inputRel_bindDims (g : Graph) :
    List.Forall₂ (InputRel (ValueType.RelDims fun d d' => d' = s d)) g.inputs
      (g.bindDims s).inputs := by
  rw [bindDims, List.forall₂_map_right_iff]
  exact List.forall₂_same.mpr fun v _ => ⟨rfl, v.type.relDims_bindDims⟩

theorem Graph.inputRel_bindDims_symm (g : Graph) :
    List.Forall₂ (InputRel (ValueType.RelDims fun d' d => d' = s d)) (g.bindDims s).inputs
      g.inputs :=
  g.inputRel_bindDims.flip.imp fun _ _ hv => ⟨hv.1.symm, hv.2.symm⟩

end

namespace Checker

/-- **Inference commutes with binding dimensions** — under a checker with the standard schemas, a
graph whose inputs are bound is accepted exactly when the graph is, and the types found are then
those of the graph, bound.  The function is free on symbols and unknowns. -/
theorem checkGraph_bindDims {c : Checker} (hc : c.IsStandard) {s : Dim → Dim}
    (hs : ∀ n, s (.static n) = .static n) (g : Graph) :
    (c.checkGraph (g.bindDims s)).toOption = (c.checkGraph g).toOption.map (bindTyping s) := by
  have hone : Dim.static 1 = s (.static 1) := (hs 1).symm
  cases h : c.checkGraph g with
  | ok typing =>
    obtain ⟨typing', h', hrel⟩ := (hc.respects_relDims hone).checkGraph_rel g.inputRel_bindDims h
    have hbound : c.checkGraph (g.bindDims s) = .ok (bindTyping s typing) :=
      eq_bindTyping_of_rel hrel ▸ h'
    rw [hbound]
    rfl
  | error e =>
    cases h' : c.checkGraph (g.bindDims s) with
    | error e' => rfl
    | ok typing' =>
      -- the relation read backwards would accept the graph itself
      obtain ⟨typing, hok, -⟩ :=
        (hc.respects_relDims hone).checkGraph_rel g.inputRel_bindDims_symm h'
      rw [show { g.bindDims s with inputs := g.inputs } = g from rfl, h] at hok
      cases hok

/-- A batch named by a symbol is bound through two reductions. -/
theorem checkGraph_bindDims_pooling :
    let bind : Dim → Dim := fun d => if d = .symbolic "batch" then .static 8 else d
    let logits : ValueType := ⟨.tensor, .float32, some [.symbolic "batch", .unknown, .static 10]⟩
    (∀ n, bind (.static n) = .static n) ∧
      (standardChecker.checkGraph ((poolingGraph logits).bindDims bind)).toOption =
        some (bindTyping bind
          [("logits", logits),
           ("pooled", ⟨.tensor, .float32, some [.symbolic "batch", .static 10]⟩),
           ("class", ⟨.tensor, .int64, some [.symbolic "batch", .static 1]⟩)]) := by
  refine ⟨fun n => by simp, ?_⟩
  rw [checkGraph_bindDims isStandard_standardChecker fun n => by simp]
  rfl

end Checker

end TensorGraph
