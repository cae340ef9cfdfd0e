import Mathlib.Order.Defs.PartialOrder
import TensorGraph.Proofs.Reduction.Dims

/-!
# Proofs/Reduction/Information — knowing more only refines the answer

    unset  ≤  tensor(?)  ≤  tensor(float)  ≤  tensor(float)[? 3]  ≤  tensor(float)[8 3]

Types are ordered by what they say: nothing, the element type, the rank, the dimensions.  Missing
information is never an error, so a graph whose inputs say less is accepted whenever the graph is,
and each of its values is found with a type that says no more (`checkGraph_mono`).  One reduction
is monotone in two parts, which its contract keeps apart: the base type (`Family.base_le`) and the
reduced dimensions (`Family.reduce_rel`).
-/

namespace TensorGraph

/-! ## The order of information -/

/-- An unknown dimension says less than any other. -/
instance : Preorder Dim where
  le d d' := d = .unknown ∨ d = d'
  le_refl _ := .inr rfl
  le_trans := by
    rintro d d' d'' (rfl | rfl) h
    · exact .inl rfl
    · exact h

theorem forall₂_le_trans : ∀ {ds ds' ds'' : List Dim}, List.Forall₂ (· ≤ ·) ds ds' →
    List.Forall₂ (· ≤ ·) ds' ds'' → List.Forall₂ (· ≤ ·) ds ds''
  | [], _, _, .nil, .nil => .nil
  | _ :: _, _, _, .cons h hs, .cons h' hs' => .cons (le_trans h h') (forall₂_le_trans hs hs')

namespace ValueType

/-- Tensors of which the first says no more: its element type is not known or the same, and its
dimensions are not known or each says no more. -/
structure TensorLE (t t' : ValueType) : Prop where
  left : t.kind = .tensor
  right : t'.kind = .tensor
  dtype : t.dtype = .invalid ∨ t.dtype = t'.dtype
  dims : t.dims? = none ∨
    ∃ ds ds', t.dims? = some ds ∧ t'.dims? = some ds' ∧ List.Forall₂ (· ≤ ·) ds ds'

theorem TensorLE.trans {t t' t'' : ValueType} (h : t.TensorLE t') (h' : t'.TensorLE t'') :
    t.TensorLE t'' := by
  refine ⟨h.left, h'.right, ?_, ?_⟩
  · rcases h.dtype with hinvalid | heq
    · exact .inl hinvalid
    · exact heq ▸ h'.dtype
  · rcases h.dims with hnone | ⟨ds, ds', hds, hds', hle⟩
    · exact .inl hnone
    · rcases h'.dims with hnone | ⟨es, es', hes, hes', hle'⟩
      · cases hds'.symm.trans hnone
      · obtain rfl : ds' = es := Option.some.inj (hds'.symm.trans hes)
        exact .inr ⟨ds, es', hds, hes', forall₂_le_trans hle hle'⟩

/-- **The order of information** — a type that is not set says nothing. -/
instance : Preorder ValueType where
  le t t' := t.kind = .notSet ∨ t = t' ∨ t.TensorLE t'
  le_refl _ := .inr (.inl rfl)
  le_trans := by
    rintro t t' t'' (hunset | rfl | h) h'
    · exact .inl hunset
    · exact h'
    · rcases h' with hunset | rfl | h'
      · cases h.right.symm.trans hunset
      · exact .inr (.inr h)
      · exact .inr (.inr (h.trans h'))

theorem le_iff {t t' : ValueType} : t ≤ t' ↔ t.kind = .notSet ∨ t = t' ∨ t.TensorLE t' := Iff.rfl

theorem unset_le (t : ValueType) : unset ≤ t := .inl rfl

/-- A tensor says more with its dimensions. -/
theorem tensor_le_withDims (dtype : DType) (ds : List Dim) :
    tensor dtype ≤ (tensor dtype).withDims ds :=
  .inr (.inr ⟨rfl, rfl, .inr rfl, .inl rfl⟩)

theorem withDims_le_withDims {t t' : ValueType} {ds ds' : List Dim}
    (hdtype : t.dtype = .invalid ∨ t.dtype = t'.dtype) (hdims : List.Forall₂ (· ≤ ·) ds ds') :
    t.withDims ds ≤ t'.withDims ds' :=
  .inr (.inr ⟨rfl, rfl, hdtype, .inr ⟨ds, ds', rfl, rfl, hdims⟩⟩)

/-- **A shape that is known stays known**, with the same rank, in a type that says more. -/
theorem exists_shape?_of_le {t₀ t : ValueType} (h : t₀ ≤ t) {operand₀ : Shape}
    (hshape : t₀.shape? = some operand₀) :
    ∃ operand, t.shape? = some operand ∧
      List.Forall₂ (fun d d₀ => d₀ ≤ d) operand.dims operand₀.dims := by
  obtain ⟨hkind, hdims, -⟩ := shape?_eq_some_iff.mp hshape
  rcases le_iff.mp h with hunset | rfl | h
  · cases hkind.symm.trans hunset
  · exact ⟨operand₀, hshape, List.forall₂_same.mpr fun _ _ => le_refl _⟩
  · rcases h.dims with hnone | ⟨ds, ds', hds, hds', hle⟩
    · cases hdims.symm.trans hnone
    · obtain rfl : operand₀.dims = ds := Option.some.inj (hdims.symm.trans hds)
      exact ⟨⟨t.dtype, ds'⟩, shape?_eq_some_iff.mpr ⟨h.right, hds', rfl⟩, hle.flip⟩

end ValueType

/-! ## Reductions are monotone -/

namespace Family

variable {F : Family} {attributes : List Attribute} {t₀ t out : ValueType}

theorem Accepts.of_le (h : t₀ ≤ t) (haccepts : F.Accepts t) : F.Accepts t₀ := by
  rcases ValueType.le_iff.mp h with hunset | rfl | h
  · exact .inl hunset
  · exact haccepts
  · refine .inr ⟨h.left, ?_⟩
    rcases h.dtype with hinvalid | heq
    · exact .inl hinvalid
    · rcases haccepts with hunset | ⟨-, hallowed⟩
      · cases h.right.symm.trans hunset
      · exact heq ▸ hallowed

/-- **The base type is lost or kept** — it has no part that could be known in between. -/
theorem base_le (F : Family) (h : t₀ ≤ t) : F.base t₀ = .unset ∨ F.base t₀ = F.base t := by
  cases F with
  | index => exact .inr rfl
  | axes =>
    by_cases hknown : t₀.kind = .tensor ∧ t₀.dtype ≠ .invalid
    · obtain ⟨htensor, hvalid⟩ := hknown
      rcases ValueType.le_iff.mp h with hunset | rfl | h
      · cases htensor.symm.trans hunset
      · exact .inr rfl
      · have hdtype : t₀.dtype = t.dtype := h.dtype.resolve_left hvalid
        simp [base, h.left, h.right, hdtype]
    · exact .inl (by rw [base, if_neg hknown])

/-- The base type says no more than the output. -/
theorem base_le_of_typeOf (h : F.typeOf attributes t = .ok out) : F.base t ≤ out := by
  rcases typeOf_eq_ok_iff.mp h with ⟨-, rfl⟩ | ⟨_, s, -, -, rfl⟩
  · exact le_refl _
  · rcases F.base_eq_unset_or_tensor t with hunset | ⟨dtype, htensor⟩
    · exact hunset ▸ ValueType.unset_le _
    · exact htensor ▸ ValueType.tensor_le_withDims dtype s.dims

/-- **A reduction of an input that says less** succeeds whenever it does for one that says more,
and says no more. -/
theorem typeOf_mono (h : t₀ ≤ t) (htype : F.typeOf attributes t = .ok out) :
    ∃ out₀, F.typeOf attributes t₀ = .ok out₀ ∧ out₀ ≤ out := by
  cases hshape₀ : t₀.shape? with
  | none =>
    refine ⟨F.base t₀, typeOf_eq_ok_iff.mpr (.inl ⟨hshape₀, rfl⟩), ?_⟩
    rcases F.base_le h with hunset | hbase
    · exact hunset ▸ ValueType.unset_le out
    · exact hbase ▸ base_le_of_typeOf htype
  | some operand₀ =>
    -- the input that says more has a shape as well, so both are reduced, at the same positions
    obtain ⟨operand, hshape, hdims⟩ := ValueType.exists_shape?_of_le h hshape₀
    rcases typeOf_eq_ok_iff.mp htype with ⟨hnone, -⟩ | ⟨operand', s, hshape', hreduce, rfl⟩
    · cases hshape.symm.trans hnone
    · obtain rfl : operand = operand' := Option.some.inj (hshape.symm.trans hshape')
      obtain ⟨s₀, hreduce₀, hle⟩ := reduce_rel (D := fun d d₀ => d₀ ≤ d) (le_refl _) hdims hreduce
      refine ⟨_, typeOf_eq_ok_iff.mpr (.inr ⟨operand₀, s₀, hshape₀, hreduce₀, rfl⟩), ?_⟩
      refine ValueType.withDims_le_withDims ?_ hle.flip
      exact (F.base_le h).imp (congrArg ValueType.dtype) (congrArg ValueType.dtype)

end Family

namespace Checker

theorem IsStandard.respects_ge {c : Checker} (hc : c.IsStandard) :
    c.Respects (fun t t₀ => t₀ ≤ t) :=
  hc.respects fun _ _ _ _ _ h haccepts htype => ⟨haccepts.of_le h, Family.typeOf_mono h htype⟩

/-- **Knowing more only refines the answer** — under a checker with the standard schemas, a graph
with inputs that say less than those of an accepted graph is accepted, and every value is found
with a type that says no more. -/
theorem checkGraph_mono {c : Checker} (hc : c.IsStandard) {g : Graph} {inputs₀ : List ValueInfo}
    (hinputs : List.Forall₂ (InputRel (· ≤ ·)) inputs₀ g.inputs)
    {typing : Typing} (h : c.checkGraph g = .ok typing) :
    ∃ typing₀, c.checkGraph { g with inputs := inputs₀ } = .ok typing₀ ∧
      ∀ name, Option.Rel (· ≤ ·) (typing₀.lookup name) (typing.lookup name) := by
  have hrel : List.Forall₂ (InputRel fun t t₀ => t₀ ≤ t) g.inputs inputs₀ :=
    hinputs.flip.imp fun _ _ hv => ⟨hv.1.symm, hv.2⟩
  obtain ⟨typing₀, h₀, htyping⟩ := hc.respects_ge.checkGraph_rel hrel h
  have hle : TypingRel (· ≤ ·) typing₀ typing := htyping.flip.imp fun _ _ hp => ⟨hp.1.symm, hp.2⟩
  exact ⟨typing₀, h₀, lookup_rel hle⟩

/-- The batch and the element type are forgotten, and both reductions still find what they can. -/
theorem checkGraph_mono_pooling :
    let logits : ValueType := ⟨.tensor, .float32, some [.symbolic "batch", .static 4, .static 10]⟩
    let vague : ValueType := ⟨.tensor, .invalid, some [.unknown, .static 4, .unknown]⟩
    vague ≤ logits ∧ ∃ typing typing₀,
      standardChecker.checkGraph (poolingGraph logits) = .ok typing ∧
      standardChecker.checkGraph (poolingGraph vague) = .ok typing₀ ∧
      typing₀.lookup "class" = some ⟨.tensor, .int64, some [.unknown, .static 1]⟩ ∧
      ∀ name, Option.Rel (· ≤ ·) (typing₀.lookup name) (typing.lookup name) := by
  intro logits vague
  have hvague : vague ≤ logits :=
    .inr (.inr ⟨rfl, rfl, .inl rfl, .inr ⟨_, _, rfl, rfl,
      .cons (.inl rfl) (.cons (.inr rfl) (.cons (.inl rfl) .nil))⟩⟩)
  have hinputs : List.Forall₂ (InputRel (· ≤ ·)) [⟨"logits", vague⟩] (poolingGraph logits).inputs :=
    .cons ⟨rfl, hvague⟩ .nil
  obtain ⟨typing₀, h₀, hle⟩ := checkGraph_mono isStandard_standardChecker hinputs rfl
  refine ⟨hvague, _, typing₀, rfl, h₀, ?_, hle⟩
  cases h₀
  rfl

end Checker

end TensorGraph
