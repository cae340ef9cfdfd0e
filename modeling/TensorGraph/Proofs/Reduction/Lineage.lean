import TensorGraph.Proofs.Reduction.Dims

/-!
# Proofs/Reduction/Lineage — where the dimensions of a value come from

    logits    batch   ?   12   768
    pooled    batch   ?        768      the third is gone
    class     batch   ?        1        the last is a one

A reduction passes on the dimensions of its input in order, and each stays, becomes a one or goes
(`Descends`).  That relation is transitive, so through any chain of reductions the dimensions of a
value descend from those of one input of the graph (`Checker.IsStandard.exists_source`).
-/

namespace TensorGraph

/-- Dimensions that come of others in order: each stays, becomes a one or goes. -/
inductive Descends : List Dim → List Dim → Prop
  | nil : Descends [] []
  | keep (d : Dim) {ds es : List Dim} (h : Descends ds es) : Descends (d :: ds) (d :: es)
  | one (d : Dim) {ds es : List Dim} (h : Descends ds es) : Descends (d :: ds) (.static 1 :: es)
  | drop (d : Dim) {ds es : List Dim} (h : Descends ds es) : Descends (d :: ds) es

namespace Descends

theorem refl : ∀ ds : List Dim, Descends ds ds
  | [] => .nil
  | d :: ds => .keep d (refl ds)

/-- **A one that stays, becomes a one or goes** is again a reduced dimension, so descent
composes. -/
theorem trans {ds es fs : List Dim} (h : Descends ds es) (h' : Descends es fs) :
    Descends ds fs := by
  induction h generalizing fs with
  | nil => exact h'
  | keep d _ ih =>
    cases h' with
    | keep _ h' => exact .keep d (ih h')
    | one _ h' => exact .one d (ih h')
    | drop _ h' => exact .drop d (ih h')
  | one d _ ih =>
    cases h' with
    | keep _ h' => exact .one d (ih h')
    | one _ h' => exact .one d (ih h')
    | drop _ h' => exact .drop d (ih h')
  | drop d _ ih => exact .drop d (ih h')

theorem length_le {ds es : List Dim} (h : Descends ds es) : es.length ≤ ds.length := by
  induction h with
  | nil => exact Nat.le_refl _
  | keep d _ ih => exact Nat.succ_le_succ ih
  | one d _ ih => exact Nat.succ_le_succ ih
  | drop d _ ih => exact Nat.le_succ_of_le ih

/-- **But for ones, what descends is a part of what it descends from, in its order.** -/
theorem sublist {ds es : List Dim} (h : Descends ds es) :
    (es.filter (· ≠ .static 1)).Sublist ds := by
  induction h with
  | nil => exact .slnil
  | keep d _ ih =>
    rw [List.filter_cons]
    split
    · exact .cons_cons d ih
    · exact .cons d ih
  | one d _ ih =>
    rw [List.filter_cons_of_neg (by simp)]
    exact .cons d ih
  | drop d _ ih => exact .cons d ih

theorem symbolic_mem {ds es : List Dim} (h : Descends ds es) {symbol : String}
    (hmem : .symbolic symbol ∈ es) : .symbolic symbol ∈ ds :=
  h.sublist.mem (List.mem_filter.mpr ⟨hmem, by simp⟩)

end Descends

/-! ## Reductions -/

theorem descends_reduceDimsFrom (reduced : Nat → Bool) (keep : Bool) :
    ∀ (position : Nat) (ds : List Dim), Descends ds (reduceDimsFrom reduced keep position ds)
  | _, [] => .nil
  | position, d :: ds => by
    have ih := descends_reduceDimsFrom reduced keep (position + 1) ds
    rw [reduceDimsFrom, reducedDim]
    cases reduced position with
    | false => exact .keep d ih
    | true =>
      cases keep with
      | false => exact .drop d ih
      | true => exact .one d ih

/-- **The dimensions of a reduction descend from those of its operand.** -/
theorem Family.descends_of_reduce {F : Family} {attributes : List Attribute} {operand s : Shape}
    (h : F.reduce attributes operand = .ok s) : Descends operand.dims s.dims := by
  obtain ⟨reduced, keep, hreduces⟩ := exists_mask h
  obtain ⟨s', hs', hdims⟩ := hreduces operand rfl
  obtain rfl : s = s' := Except.ok.inj (h.symm.trans hs')
  rw [hdims]
  exact descends_reduceDimsFrom reduced keep 0 operand.dims

/-- The shape of an output, if it has one, is that of the reduced input. -/
theorem Family.exists_operand_of_typeOf {F : Family} {attributes : List Attribute}
    {t out : ValueType} (h : F.typeOf attributes t = .ok out) {s : Shape}
    (hs : out.shape? = some s) :
    ∃ operand, t.shape? = some operand ∧ Descends operand.dims s.dims := by
  obtain ⟨-, hdims, -⟩ := ValueType.shape?_eq_some_iff.mp hs
  rcases typeOf_eq_ok_iff.mp h with ⟨-, rfl⟩ | ⟨operand, reduced, hoperand, hreduced, rfl⟩
  · rw [F.base_dims t] at hdims
    cases hdims
  · have hsame : reduced.dims = s.dims := Option.some.inj hdims
    exact ⟨operand, hoperand, hsame ▸ descends_of_reduce hreduced⟩

/-! ## Graphs -/

/-- If a type has a shape, its dimensions descend from those of one of the given values. -/
def DescendsFrom (vs : List ValueInfo) (t : ValueType) : Prop :=
  ∀ s, t.shape? = some s →
    ∃ v ∈ vs, ∃ source, v.type.shape? = some source ∧ Descends source.dims s.dims

theorem Checker.IsStandard.respects_descendsFrom {c : Checker} (hc : c.IsStandard)
    (vs : List ValueInfo) : c.Respects fun t t' => t = t' ∧ DescendsFrom vs t := by
  refine hc.respects ?_
  rintro F attributes t _ out ⟨rfl, ht⟩ haccepts htype
  refine ⟨haccepts, out, htype, rfl, fun s hs => ?_⟩
  obtain ⟨operand, hoperand, hdescends⟩ := Family.exists_operand_of_typeOf htype hs
  obtain ⟨v, hv, source, hsource, hchain⟩ := ht operand hoperand
  exact ⟨v, hv, source, hsource, hchain.trans hdescends⟩

/-- **Every dimension comes from an input of the graph or is a one** — over the standard schemas the
dimensions of a value descend from those of one graph input.  So they have no symbol that the input
does not have, they are in its order, and there are not more of them. -/
theorem Checker.IsStandard.exists_source {c : Checker} (hc : c.IsStandard) {g : Graph}
    {typing : Typing} (h : c.checkGraph g = .ok typing) {name : String} {t : ValueType}
    (ht : typing.lookup name = some t) (htensor : t.kind = .tensor) {dims : List Dim}
    (hdims : t.dims? = some dims) :
    ∃ v ∈ g.inputs, ∃ source, v.type.kind = .tensor ∧ v.type.dims? = some source ∧
      Descends source dims ∧
      (∀ symbol, .symbolic symbol ∈ dims → .symbolic symbol ∈ source) ∧
      (dims.filter (· ≠ .static 1)).Sublist source ∧ dims.length ≤ source.length := by
  have hinputs : ∀ v ∈ g.inputs, DescendsFrom g.inputs v.type :=
    fun v hv s hs => ⟨v, hv, s, hs, .refl s.dims⟩
  have hdescends := (hc.respects_descendsFrom g.inputs).forall_of_checkGraph hinputs h ht
  have hshape : t.shape? = some ⟨t.dtype, dims⟩ :=
    ValueType.shape?_eq_some_iff.mpr ⟨htensor, hdims, rfl⟩
  obtain ⟨v, hv, source, hsource, hchain⟩ := hdescends _ hshape
  obtain ⟨hkind, hsourceDims, -⟩ := ValueType.shape?_eq_some_iff.mp hsource
  exact ⟨v, hv, source.dims, hkind, hsourceDims, hchain, fun _ => hchain.symbolic_mem,
    hchain.sublist, hchain.length_le⟩

/-- The class of a batch of logits has the batch of the logits, and a one. -/
theorem Checker.IsStandard.exists_source_pooling :
    let logits : ValueType := ⟨.tensor, .float32, some [.symbolic "batch", .unknown, .static 10]⟩
    ∃ typing t, standardChecker.checkGraph (poolingGraph logits) = .ok typing ∧
      typing.lookup "class" = some t ∧ t.dims? = some [.symbolic "batch", .static 1] ∧
      ∃ v ∈ (poolingGraph logits).inputs, ∃ source, v.type.dims? = some source ∧
        Descends source [.symbolic "batch", .static 1] := by
  intro logits
  obtain ⟨typing, t, htyping, ht, hkind, hdims⟩ : ∃ typing t,
      standardChecker.checkGraph (poolingGraph logits) = .ok typing ∧
      typing.lookup "class" = some t ∧ t.kind = .tensor ∧
      t.dims? = some [.symbolic "batch", .static 1] := ⟨_, _, rfl, rfl, rfl, rfl⟩
  obtain ⟨v, hv, source, -, hsource, hdescends, -⟩ :=
    exists_source isStandard_standardChecker htyping ht hkind hdims
  exact ⟨typing, t, htyping, ht, hdims, v, hv, source, hsource, hdescends⟩

end TensorGraph
