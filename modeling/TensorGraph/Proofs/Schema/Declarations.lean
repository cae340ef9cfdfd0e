import Mathlib.Data.List.Induction
import Mathlib.Data.List.Nodup
import TensorGraph.Proofs.Actions
import TensorGraph.Proofs.Graph.Node
import TensorGraph.Proofs.Results
import TensorGraph.Schema.Draft

/-!
# Proofs/Schema/Declarations — what a draft holds after its declarations

    new ──accept──▸ d₁ ──accept──▸ d₂ ──refuse──▸ d₂ + refusal ──…──▸ never built

A draft without a refusal is one that accepted every declaration, so what one accepted declaration
preserves holds after all of them (`Draft.declareAll_induction`).  Two facts are carried this way:
everything in the draft is in order (`Draft.Sound`), and its parameters are those declared, put in
the order of their indices (`Draft.parameters_perm`).
-/

namespace TensorGraph

/-- The types an attribute can be declared with. -/
def declarableTypes : List AttrType := [.float, .int, .string, .tensor, .floats, .ints, .strings]

theorem AttrType.isDeclarable_iff {t : AttrType} :
    t.isDeclarable = true ↔ t ∈ declarableTypes := by
  cases t <;> simp [isDeclarable, declarableTypes]

/-- A declared attribute in order: a default makes it optional, and is named and typed as it is. -/
structure AttributeSpec.WellFormed (a : AttributeSpec) : Prop where
  name : Text.isIdentifier a.name = true
  type : a.type ∈ declarableTypes
  default : ∀ v, a.default? = some v → a.required = false ∧ v.name = a.name ∧ v.type = a.type

/-- A type variable in order. -/
structure TypeConstraint.WellFormed (c : TypeConstraint) : Prop where
  name : Text.isIdentifier c.name = true
  allowed : c.allowed ≠ []

namespace Declaration

/-- The attribute that a declaration asks for. -/
def attribute? : Declaration → Option AttributeSpec
  | .attribute name description type required => some ⟨name, description, type, required, none⟩
  | .attributeDefault name description value =>
    some ⟨name, description, value.type, false, some (value.rename name)⟩
  | _ => none

/-- The type variable that a declaration asks for. -/
def constraint? : Declaration → Option TypeConstraint
  | .constraint name allowed description => some ⟨name, allowed, description⟩
  | _ => none

/-- The parameter that a declaration asks for on one side, with its index. -/
def parameter? (side : Side) : Declaration → Option (Int × Parameter)
  | .parameter side' index name description typeText =>
    if side' = side then some (index, ⟨name, description, typeText, .invalid⟩) else none
  | _ => none

end Declaration

/-- The parameters that declarations ask for on one side, in order of declaration. -/
def declaredParameters (side : Side) (decls : List Declaration) : List (Int × Parameter) :=
  decls.filterMap (Declaration.parameter? side)

/-! ## Insertion at an index -/

/-- Parameters in strictly increasing order of index. -/
abbrev IndexSorted (ps : IndexedParameters) : Prop := ps.Pairwise fun e f => e.1 < f.1

theorem insertParameter_eq_orderedInsert (index : Nat) (p : Parameter) (ps : IndexedParameters) :
    insertParameter index p ps = ps.orderedInsert (fun e f => e.1 < f.1) (index, p) := by
  induction ps with
  | nil => rfl
  | cons e rest ih => rw [insertParameter, List.orderedInsert, ih]

theorem insertParameter_perm (index : Nat) (p : Parameter) (ps : IndexedParameters) :
    (insertParameter index p ps).Perm ((index, p) :: ps) := by
  rw [insertParameter_eq_orderedInsert]
  exact List.perm_orderedInsert _ (index, p) ps

theorem IndexSorted.insertParameter {index : Nat} {p : Parameter} {ps : IndexedParameters}
    (h : IndexSorted ps) (hfree : ∀ e ∈ ps, e.1 ≠ index) :
    IndexSorted (insertParameter index p ps) := by
  rw [insertParameter_eq_orderedInsert]
  refine pairwise_orderedInsert (r := fun e f : Nat × Parameter => e.1 < f.1) lt_trans h
    fun e he hnot => ?_
  exact lt_of_le_of_ne (not_lt.mp hnot) (hfree e he)

namespace Draft

/-! ## Accepting one declaration -/

theorem parameters_withParameter (d : Draft) (side other : Side) (index : Nat) (p : Parameter) :
    (d.withParameter side index p).parameters other
      = if side = other then insertParameter index p (d.parameters side)
        else d.parameters other := by
  cases side <;> cases other <;> rfl

theorem addAttribute_eq_ok_iff {d d' : Draft} {a : AttributeSpec} :
    (addAttribute a).result d = .ok d' ↔
      Text.isIdentifier a.name = true ∧ a.type ∈ declarableTypes ∧
        a.name ∉ d.attributes.map (·.name) ∧ d' = { d with attributes := d.attributes ++ [a] } := by
  have hfree : ¬ d.attributes.any (·.name == a.name) = true ↔
      a.name ∉ d.attributes.map (·.name) := by
    simp
  simp only [addAttribute, Action.result_get_bind, Action.result_guard_eq_ok_iff,
    Action.result_set, hfree, ← AttrType.isDeclarable_iff, Bool.not_eq_true', Bool.not_eq_false,
    Except.ok.injEq, @eq_comm _ d']

theorem addConstraint_eq_ok_iff {d d' : Draft} {c : TypeConstraint} :
    (addConstraint c).result d = .ok d' ↔
      Text.isIdentifier c.name = true ∧ c.allowed ≠ [] ∧
        c.name ∉ d.constraints.map (·.name) ∧
        d' = { d with constraints := d.constraints ++ [c] } := by
  have hfree : ¬ d.constraints.any (·.name == c.name) = true ↔
      c.name ∉ d.constraints.map (·.name) := by
    simp
  simp only [addConstraint, Action.result_get_bind, Action.result_guard_eq_ok_iff,
    Action.result_set, hfree, List.isEmpty_iff, Bool.not_eq_true', Bool.not_eq_false,
    Except.ok.injEq, @eq_comm _ d', ne_eq]

theorem addParameter_eq_ok_iff {d d' : Draft} {side : Side} {index : Int} {p : Parameter} :
    (addParameter side index p).result d = .ok d' ↔
      0 ≤ index ∧ (∀ e ∈ d.parameters side, e.1 ≠ index.toNat) ∧
        Text.isIdentifier p.name = true ∧ p.typeText ≠ "" ∧
        d' = d.withParameter side index.toNat p := by
  have hfree : ¬ (d.parameters side).any (·.1 == index.toNat) = true ↔
      ∀ e ∈ d.parameters side, e.1 ≠ index.toNat := by
    simp only [List.any_eq_true, beq_iff_eq, not_exists, not_and, ne_eq]
  simp only [addParameter, Action.result_get_bind, Action.result_guard_eq_ok_iff,
    Action.result_set, hfree, not_lt, Bool.not_eq_true', Bool.not_eq_false, Except.ok.injEq,
    @eq_comm _ d', ne_eq]

section

variable {d d' : Draft}

theorem accept_doc_eq_ok_iff {text : String} :
    d.accept (.doc text) = .ok d' ↔
      ¬ d.doc?.isSome = true ∧ d' = { d with doc? := some text } := by
  simp only [accept, take, Action.result_get_bind, Action.result_guard_eq_ok_iff,
    Action.result_set, Except.ok.injEq, @eq_comm _ d']

theorem accept_domain_eq_ok_iff {domain : String} :
    d.accept (.domain domain) = .ok d' ↔ d' = { d with domain := domain } := by
  simp only [accept, take, Action.result_get_bind, Action.result_set, Except.ok.injEq,
    @eq_comm _ d']

theorem accept_since_eq_ok_iff {version : Int} :
    d.accept (.since version) = .ok d' ↔ 1 ≤ version ∧ d' = { d with since := version } := by
  simp only [accept, take, Action.result_get_bind, Action.result_guard_eq_ok_iff,
    Action.result_set, not_lt, Except.ok.injEq, @eq_comm _ d']

theorem accept_inference_eq_ok_iff {fn : InferenceFn} :
    d.accept (.inference (some fn)) = .ok d' ↔
      ¬ d.inference?.isSome = true ∧ d' = { d with inference? := some fn } := by
  simp only [accept, take, Action.result_get_bind, Action.result_guard_eq_ok_iff,
    Action.result_set, Except.ok.injEq, @eq_comm _ d']

end

/-- **Every declaration tests before it writes.** -/
theorem isAtomic_take : ∀ decl, (take decl).IsAtomic
  | .doc _ => Action.isAtomic_get_bind fun _ =>
      .ite (Action.isAtomic_throw _) (Action.isAtomic_set _)
  | .domain _ => Action.isAtomic_get_bind fun _ => Action.isAtomic_set _
  | .since _ => Action.isAtomic_get_bind fun _ =>
      .ite (Action.isAtomic_throw _) (Action.isAtomic_set _)
  | .attribute .. | .attributeDefault .. | .constraint .. => Action.isAtomic_get_bind fun _ =>
      .ite (Action.isAtomic_throw _) (.ite (Action.isAtomic_throw _)
        (.ite (Action.isAtomic_throw _) (Action.isAtomic_set _)))
  | .parameter .. => Action.isAtomic_get_bind fun _ =>
      .ite (Action.isAtomic_throw _) (.ite (Action.isAtomic_throw _)
        (.ite (Action.isAtomic_throw _) (.ite (Action.isAtomic_throw _) (Action.isAtomic_set _))))
  | .inference none => Action.isAtomic_throw _
  | .inference (some _) => Action.isAtomic_get_bind fun _ =>
      .ite (Action.isAtomic_throw _) (Action.isAtomic_set _)

theorem declare_of_accept {d d' : Draft} {decl : Declaration} (h : d.accept decl = .ok d') :
    d.declare decl = d' := by
  obtain ⟨_, hd'⟩ := Action.result_eq_ok_iff.mp h
  rw [declare, hd']

/-- **A refused declaration leaves its refusal**, if it is the first, and nothing else. -/
theorem declare_of_refused {d : Draft} {decl : Declaration} {e : Refusal}
    (h : d.accept decl = .error e) :
    d.declare decl = { d with refusal? := d.refusal?.or (some e) } := by
  obtain ⟨d', hd'⟩ := Action.result_eq_error_iff.mp h
  obtain rfl := isAtomic_take decl d e d' hd'
  rw [declare, hd']

/-- What an accepted declaration does to a draft: it adds the attribute, type variable or parameter
that it asks for, which is in order and new, and leaves the rest alone. -/
structure Accepted (d : Draft) (decl : Declaration) (d' : Draft) : Prop where
  name : d'.name = d.name
  refusal? : d'.refusal? = d.refusal?
  since : d'.since = d.since ∨ 1 ≤ d'.since
  attributes : d'.attributes = d.attributes ++ decl.attribute?.toList
  newAttribute : ∀ a, decl.attribute? = some a → a.WellFormed ∧ a.name ∉ d.attributes.map (·.name)
  constraints : d'.constraints = d.constraints ++ decl.constraint?.toList
  newConstraint : ∀ c, decl.constraint? = some c →
    c.WellFormed ∧ c.name ∉ d.constraints.map (·.name)
  parameters : ∀ side, d'.parameters side
    = (decl.parameter? side).elim (d.parameters side)
        fun e => insertParameter e.1.toNat e.2 (d.parameters side)
  newParameter : ∀ side e, decl.parameter? side = some e → 0 ≤ e.1 ∧
    (∀ f ∈ d.parameters side, f.1 ≠ e.1.toNat) ∧
    Text.isIdentifier e.2.name = true ∧ e.2.dtype = .invalid

/-- A declaration that asks for none of these changes none of them. -/
theorem Accepted.of_frame {d d' : Draft} {decl : Declaration} (hname : d'.name = d.name)
    (hrefusal : d'.refusal? = d.refusal?) (hsince : d'.since = d.since ∨ 1 ≤ d'.since)
    (hattributes : d'.attributes = d.attributes) (hconstraints : d'.constraints = d.constraints)
    (hparameters : d'.parameters = d.parameters) (hattribute : decl.attribute? = none)
    (hconstraint : decl.constraint? = none) (hparameter : ∀ side, decl.parameter? side = none) :
    d.Accepted decl d' where
  name := hname
  refusal? := hrefusal
  since := hsince
  attributes := by simp [hattributes, hattribute]
  newAttribute := by simp [hattribute]
  constraints := by simp [hconstraints, hconstraint]
  newConstraint := by simp [hconstraint]
  parameters := by simp [hparameters, hparameter]
  newParameter := by simp [hparameter]

theorem Accepted.of_addAttribute {d d' : Draft} {decl : Declaration} {a : AttributeSpec}
    (h : (addAttribute a).result d = .ok d') (hattribute : decl.attribute? = some a)
    (hconstraint : decl.constraint? = none) (hparameter : ∀ side, decl.parameter? side = none)
    (hdefault : ∀ v, a.default? = some v →
      a.required = false ∧ v.name = a.name ∧ v.type = a.type) : d.Accepted decl d' := by
  obtain ⟨hname, htype, hfree, rfl⟩ := addAttribute_eq_ok_iff.mp h
  exact
    { name := rfl
      refusal? := rfl
      since := .inl rfl
      attributes := by simp [hattribute]
      newAttribute := fun b hb => by
        obtain rfl := Option.some.inj (hattribute.symm.trans hb)
        exact ⟨⟨hname, htype, hdefault⟩, hfree⟩
      constraints := by simp [hconstraint]
      newConstraint := by simp [hconstraint]
      parameters := fun side => by rw [hparameter]; cases side <;> rfl
      newParameter := by simp [hparameter] }

theorem Accepted.of_addConstraint {d d' : Draft} {name description : String} {allowed : List DType}
    (h : (addConstraint ⟨name, allowed, description⟩).result d = .ok d') :
    d.Accepted (.constraint name allowed description) d' := by
  obtain ⟨hname, hallowed, hfree, rfl⟩ := addConstraint_eq_ok_iff.mp h
  exact
    { name := rfl
      refusal? := rfl
      since := .inl rfl
      attributes := (List.append_nil _).symm
      newAttribute := fun _ ha => by cases ha
      constraints := rfl
      newConstraint := fun c hc => by
        obtain rfl := Option.some.inj hc
        exact ⟨⟨hname, hallowed⟩, hfree⟩
      parameters := fun side => by cases side <;> rfl
      newParameter := fun _ _ he => by cases he }

theorem Accepted.of_addParameter {d d' : Draft} {side : Side} {index : Int}
    {name description typeText : String}
    (h : (addParameter side index ⟨name, description, typeText, .invalid⟩).result d = .ok d') :
    d.Accepted (.parameter side index name description typeText) d' := by
  obtain ⟨hindex, hfree, hname, -, rfl⟩ := addParameter_eq_ok_iff.mp h
  exact
    { name := by cases side <;> rfl
      refusal? := by cases side <;> rfl
      since := .inl (by cases side <;> rfl)
      attributes := by cases side <;> exact (List.append_nil _).symm
      newAttribute := fun _ ha => by cases ha
      constraints := by cases side <;> exact (List.append_nil _).symm
      newConstraint := fun _ hc => by cases hc
      parameters := fun other => by
        rw [parameters_withParameter]
        by_cases hside : side = other
        · subst hside
          simp [Declaration.parameter?]
        · simp [Declaration.parameter?, hside]
      newParameter := fun other e he => by
        obtain ⟨rfl, rfl⟩ : side = other ∧ (index, ⟨name, description, typeText, .invalid⟩) = e :=
          by simpa [Declaration.parameter?] using he
        exact ⟨hindex, hfree, hname, rfl⟩ }

/-- **What one step does** — every accepted declaration. -/
theorem accepted_of_accept {d d' : Draft} :
    ∀ {decl : Declaration}, d.accept decl = .ok d' → d.Accepted decl d'
  | .doc text, h => by
    obtain ⟨-, rfl⟩ := accept_doc_eq_ok_iff.mp h
    exact .of_frame rfl rfl (.inl rfl) rfl rfl rfl rfl rfl fun _ => rfl
  | .domain domain, h => by
    obtain rfl := accept_domain_eq_ok_iff.mp h
    exact .of_frame rfl rfl (.inl rfl) rfl rfl rfl rfl rfl fun _ => rfl
  | .since version, h => by
    obtain ⟨hversion, rfl⟩ := accept_since_eq_ok_iff.mp h
    exact .of_frame rfl rfl (.inr hversion) rfl rfl rfl rfl rfl fun _ => rfl
  | .inference (some fn), h => by
    obtain ⟨-, rfl⟩ := accept_inference_eq_ok_iff.mp h
    exact .of_frame rfl rfl (.inl rfl) rfl rfl rfl rfl rfl fun _ => rfl
  | .attribute name description type required, h =>
    .of_addAttribute h rfl rfl (fun _ => rfl) fun v hv => by cases hv
  | .attributeDefault name description value, h =>
    .of_addAttribute h rfl rfl (fun _ => rfl) fun v hv => by
      obtain rfl := Option.some.inj hv
      exact ⟨rfl, rfl, rfl⟩
  | .constraint name allowed description, h => .of_addConstraint h
  | .parameter side index name description typeText, h => .of_addParameter h

/-! ## Accepting all declarations -/

theorem refusal?_of_declare {d : Draft} {decl : Declaration}
    (h : (d.declare decl).refusal? = none) :
    d.refusal? = none ∧ d.accept decl = .ok (d.declare decl) := by
  cases haccept : d.accept decl with
  | error e =>
    rw [declare_of_refused haccept] at h
    simp at h
  | ok d' =>
    rw [declare_of_accept haccept] at h ⊢
    exact ⟨(accepted_of_accept haccept).refusal?.symm.trans h, rfl⟩

theorem declareAll_append_singleton (d : Draft) (decls : List Declaration) (decl : Declaration) :
    d.declareAll (decls ++ [decl]) = (d.declareAll decls).declare decl := by
  simp [declareAll]

/-- **The run lemma** — what holds of a new draft, and passes on with each accepted declaration,
holds of a draft that has refused nothing. -/
theorem declareAll_induction {name : String} {P : List Declaration → Draft → Prop}
    (hnew : P [] (new name))
    (hstep : ∀ decls d decl d', P decls d → d.accept decl = .ok d' → P (decls ++ [decl]) d') :
    ∀ {decls : List Declaration}, ((new name).declareAll decls).refusal? = none →
      P decls ((new name).declareAll decls) := by
  intro decls
  induction decls using List.reverseRecOn with
  | nil => exact fun _ => hnew
  | append_singleton decls decl ih =>
    rw [declareAll_append_singleton]
    intro h
    obtain ⟨hrefusal, haccept⟩ := refusal?_of_declare h
    exact hstep decls _ decl _ (ih hrefusal) haccept

/-- Everything in a draft is in order. -/
structure Sound (d : Draft) : Prop where
  since : 1 ≤ d.since
  attributes : ∀ a ∈ d.attributes, a.WellFormed
  attributes_nodup : (d.attributes.map (·.name)).Nodup
  constraints : ∀ c ∈ d.constraints, c.WellFormed
  constraints_nodup : (d.constraints.map (·.name)).Nodup
  parameters : ∀ side, ∀ e ∈ d.parameters side,
    Text.isIdentifier e.2.name = true ∧ e.2.dtype = .invalid
  sorted : ∀ side, IndexSorted (d.parameters side)

theorem sound_new (name : String) : (new name).Sound where
  since := le_refl 1
  attributes := List.forall_mem_nil _
  attributes_nodup := List.nodup_nil
  constraints := List.forall_mem_nil _
  constraints_nodup := List.nodup_nil
  parameters := fun side => by cases side <;> exact List.forall_mem_nil _
  sorted := fun side => by cases side <;> exact .nil

/-- A name that is new goes to the end of distinct names. -/
theorem nodup_append_toList {α : Type} {key : α → String} {xs : List α} {x? : Option α}
    (hxs : (xs.map key).Nodup) (hnew : ∀ x, x? = some x → key x ∉ xs.map key) :
    ((xs ++ x?.toList).map key).Nodup := by
  cases x? with
  | none => simpa using hxs
  | some x =>
    rw [Option.toList_some, List.map_append]
    exact hxs.append (List.nodup_singleton _) (List.disjoint_singleton.mpr (hnew x rfl))

theorem Sound.accepted {d d' : Draft} {decl : Declaration} (hd : d.Sound)
    (h : d.Accepted decl d') : d'.Sound where
  since := h.since.elim (fun heq => heq ▸ hd.since) id
  attributes := by
    intro a ha
    rw [h.attributes, List.mem_append, Option.mem_toList] at ha
    exact ha.elim (hd.attributes a) fun ha => (h.newAttribute a ha).1
  attributes_nodup := by
    rw [h.attributes]
    exact nodup_append_toList hd.attributes_nodup fun a ha => (h.newAttribute a ha).2
  constraints := by
    intro c hc
    rw [h.constraints, List.mem_append, Option.mem_toList] at hc
    exact hc.elim (hd.constraints c) fun hc => (h.newConstraint c hc).1
  constraints_nodup := by
    rw [h.constraints]
    exact nodup_append_toList hd.constraints_nodup fun c hc => (h.newConstraint c hc).2
  parameters := by
    intro side f hf
    rw [h.parameters side] at hf
    cases he : decl.parameter? side with
    | none =>
      rw [he] at hf
      exact hd.parameters side f hf
    | some e =>
      rw [he] at hf
      rcases List.mem_cons.mp ((insertParameter_perm _ _ _).mem_iff.mp hf) with rfl | hf
      · exact (h.newParameter side e he).2.2
      · exact hd.parameters side f hf
  sorted := by
    intro side
    rw [h.parameters side]
    cases he : decl.parameter? side with
    | none => exact hd.sorted side
    | some e => exact (hd.sorted side).insertParameter (h.newParameter side e he).2.1

/-- **A draft that refused nothing is in order.** -/
theorem sound_declareAll {name : String} {decls : List Declaration}
    (h : ((new name).declareAll decls).refusal? = none) : ((new name).declareAll decls).Sound :=
  declareAll_induction (P := fun _ d => d.Sound) (sound_new name)
    (fun _ _ _ _ hd haccept => hd.accepted (accepted_of_accept haccept)) h

theorem name_declareAll {name : String} {decls : List Declaration}
    (h : ((new name).declareAll decls).refusal? = none) :
    ((new name).declareAll decls).name = name :=
  declareAll_induction (P := fun _ d => d.name = name) rfl
    (fun _ _ _ _ hd haccept => (accepted_of_accept haccept).name.trans hd) h

/-- Parameters with their indices as they are declared. -/
def declaredForm (ps : IndexedParameters) : List (Int × Parameter) :=
  ps.map fun e => ((e.1 : Int), e.2)

/-- **The parameters of a draft that refused nothing are those declared.** -/
theorem parameters_perm {name : String} {decls : List Declaration} (side : Side)
    (h : ((new name).declareAll decls).refusal? = none) :
    (declaredForm (((new name).declareAll decls).parameters side)).Perm
      (declaredParameters side decls) := by
  refine declareAll_induction
    (P := fun decls d => (declaredForm (d.parameters side)).Perm (declaredParameters side decls))
    (by cases side <;> exact .nil) (fun decls d decl d' hd haccept => ?_) h
  have hstep := accepted_of_accept haccept
  rw [hstep.parameters side, declaredParameters, List.filterMap_append, ← declaredParameters]
  cases he : decl.parameter? side with
  | none => simpa [he] using hd
  | some e =>
    have hindex : ((e.1.toNat : Nat) : Int) = e.1 :=
      Int.toNat_of_nonneg (hstep.newParameter side e he).1
    have hinsert : (declaredForm (insertParameter e.1.toNat e.2 (d.parameters side))).Perm
        (((e.1.toNat : Nat), e.2) :: declaredForm (d.parameters side)) :=
      (insertParameter_perm e.1.toNat e.2 (d.parameters side)).map _
    rw [hindex] at hinsert
    simp only [List.filterMap_cons, he, List.filterMap_nil]
    exact (hinsert.trans (hd.cons e)).trans (List.perm_append_singleton e _).symm

end Draft

end TensorGraph
