import TensorGraph.Proofs.Schema.WellFormed

/-!
# Proofs/Schema/Slots — a draft does not care in which order its slots are filled

    declared    doc    attribute a    since 3    input 1    attribute b    input 0
    or          input 1    attribute a    attribute b    doc    input 0    since 3
    draft       doc,  a b,  since 3,  inputs 0 1

A declaration is taken exactly if it is valid by itself and the slot it fills is free
(`Draft.exists_accept_iff`).  So nothing is refused exactly if all declarations are valid and no two
fill the same slot (`Draft.refusal?_declareAll_iff`), in whatever order they come.  What a draft
then holds depends on the order only among attributes, among type variables, among domains and
among versions (`Draft.Collects`), and so does the schema that is built
(`Draft.build_of_rearranged`).
-/

namespace TensorGraph

/-! ## What a declaration fills -/

/-- What can be set once in a draft. -/
inductive Slot where
  | doc
  | attribute (name : String)
  | parameter (side : Side) (index : Int)
  | constraint (name : String)
  | inference
  deriving DecidableEq, Repr

namespace Declaration

/-- The slot that a declaration fills; the domain and the version can be set over and over. -/
def slot? : Declaration → Option Slot
  | .doc _ => some .doc
  | .domain _ => none
  | .since _ => none
  | .attribute name _ _ _ => some (.attribute name)
  | .attributeDefault name _ _ => some (.attribute name)
  | .parameter side index _ _ _ => some (.parameter side index)
  | .constraint name _ _ => some (.constraint name)
  | .inference _ => some .inference

/-- What a declaration has to keep by itself, whatever was declared before it. -/
def Valid : Declaration → Prop
  | .doc _ => True
  | .domain _ => True
  | .since version => 1 ≤ version
  | .attribute name _ type _ => Text.isIdentifier name = true ∧ type ∈ declarableTypes
  | .attributeDefault name _ value => Text.isIdentifier name = true ∧ value.type ∈ declarableTypes
  | .parameter _ index name _ typeText =>
    0 ≤ index ∧ Text.isIdentifier name = true ∧ typeText ≠ ""
  | .constraint name allowed _ => Text.isIdentifier name = true ∧ allowed ≠ []
  | .inference fn => fn.isSome = true

/-- The documentation that a declaration sets. -/
def doc? : Declaration → Option String
  | .doc text => some text
  | _ => none

/-- The domain that a declaration sets. -/
def domain? : Declaration → Option String
  | .domain text => some text
  | _ => none

/-- The version that a declaration sets. -/
def since? : Declaration → Option Int
  | .since version => some version
  | _ => none

/-- The inference function that a declaration sets. -/
def inference? : Declaration → Option InferenceFn
  | .inference fn => fn
  | _ => none

end Declaration

namespace Draft

/-- A slot of a draft is filled. -/
def Filled (d : Draft) : Slot → Prop
  | .doc => d.doc?.isSome = true
  | .attribute name => name ∈ d.attributes.map (·.name)
  | .parameter side index => ∃ e ∈ d.parameters side, (e.1 : Int) = index
  | .constraint name => name ∈ d.constraints.map (·.name)
  | .inference => d.inference?.isSome = true

/-! ## One declaration -/

section

variable {d d' : Draft}

/-- A parameter is added exactly if it is valid and its index is free. -/
theorem exists_addParameter_iff {side : Side} {index : Int} {p : Parameter} :
    (∃ d', (addParameter side index p).result d = .ok d') ↔
      (0 ≤ index ∧ Text.isIdentifier p.name = true ∧ p.typeText ≠ "") ∧
        ¬ d.Filled (.parameter side index) := by
  simp only [addParameter_eq_ok_iff, exists_and_left, exists_eq, and_true, Filled, not_exists,
    not_and]
  constructor
  · rintro ⟨hindex, hfree, hname, htext⟩
    refine ⟨⟨hindex, hname, htext⟩, fun e he heq => hfree e he ?_⟩
    omega
  · rintro ⟨⟨hindex, hname, htext⟩, hfree⟩
    refine ⟨hindex, fun e he heq => hfree e he ?_, hname, htext⟩
    omega

theorem exists_addAttribute_iff {a : AttributeSpec} :
    (∃ d', (addAttribute a).result d = .ok d') ↔
      (Text.isIdentifier a.name = true ∧ a.type ∈ declarableTypes) ∧
        ¬ d.Filled (.attribute a.name) := by
  simp only [addAttribute_eq_ok_iff, exists_and_left, exists_eq, and_true, Filled, and_assoc]

theorem exists_addConstraint_iff {c : TypeConstraint} :
    (∃ d', (addConstraint c).result d = .ok d') ↔
      (Text.isIdentifier c.name = true ∧ c.allowed ≠ []) ∧ ¬ d.Filled (.constraint c.name) := by
  simp only [addConstraint_eq_ok_iff, exists_and_left, exists_eq, and_true, Filled, and_assoc]

/-- **A declaration is taken exactly if it is valid and its slot is free.** -/
theorem exists_accept_iff : ∀ {decl : Declaration},
    (∃ d', d.accept decl = .ok d') ↔
      decl.Valid ∧ ∀ slot, decl.slot? = some slot → ¬ d.Filled slot
  | .doc text => by
    simp [accept_doc_eq_ok_iff, Declaration.Valid, Declaration.slot?, Filled]
  | .domain text => by simp [accept_domain_eq_ok_iff, Declaration.Valid, Declaration.slot?]
  | .since version => by simp [accept_since_eq_ok_iff, Declaration.Valid, Declaration.slot?]
  | .attribute name description type required => by
    simpa [accept, take, Declaration.Valid, Declaration.slot?] using exists_addAttribute_iff
  | .attributeDefault name description value => by
    simpa [accept, take, Declaration.Valid, Declaration.slot?] using exists_addAttribute_iff
  | .parameter side index name description typeText => by
    simpa [accept, take, Declaration.Valid, Declaration.slot?] using exists_addParameter_iff
  | .constraint name allowed description => by
    simpa [accept, take, Declaration.Valid, Declaration.slot?] using exists_addConstraint_iff
  | .inference none => by simp [accept, take, Declaration.Valid]
  | .inference (some fn) => by
    simp [accept_inference_eq_ok_iff, Declaration.Valid, Declaration.slot?, Filled]

/-- What a taken declaration does to the parts of a draft that hold one value: the documentation and
the inference function were not there before, the domain and the version give way. -/
structure Settled (d : Draft) (decl : Declaration) (d' : Draft) : Prop where
  doc : d'.doc?.toList = d.doc?.toList ++ decl.doc?.toList
  inference : d'.inference?.toList = d.inference?.toList ++ decl.inference?.toList
  domain : d'.domain = decl.domain?.getD d.domain
  since : d'.since = decl.since?.getD d.since

/-- A declaration that is about none of these leaves them alone. -/
theorem Settled.of_frame {decl : Declaration} (hdoc : d'.doc? = d.doc?)
    (hinference : d'.inference? = d.inference?) (hdomain : d'.domain = d.domain)
    (hsince : d'.since = d.since) (hdoc? : decl.doc? = none) (hinference? : decl.inference? = none)
    (hdomain? : decl.domain? = none) (hsince? : decl.since? = none) : d.Settled decl d' where
  doc := by simp [hdoc, hdoc?]
  inference := by simp [hinference, hinference?]
  domain := by simp [hdomain, hdomain?]
  since := by simp [hsince, hsince?]

theorem settled_of_accept : ∀ {decl : Declaration}, d.accept decl = .ok d' → d.Settled decl d'
  | .doc text, h => by
    obtain ⟨hfree, rfl⟩ := accept_doc_eq_ok_iff.mp h
    have hnone : d.doc? = none := by simpa using hfree
    exact ⟨by simp [hnone, Declaration.doc?], by simp [Declaration.inference?], rfl, rfl⟩
  | .domain text, h => by
    obtain rfl := accept_domain_eq_ok_iff.mp h
    exact ⟨by simp [Declaration.doc?], by simp [Declaration.inference?], rfl, rfl⟩
  | .since version, h => by
    obtain ⟨-, rfl⟩ := accept_since_eq_ok_iff.mp h
    exact ⟨by simp [Declaration.doc?], by simp [Declaration.inference?], rfl, rfl⟩
  | .attribute name description type required, h => by
    obtain ⟨-, -, -, rfl⟩ := addAttribute_eq_ok_iff.mp h
    exact .of_frame rfl rfl rfl rfl rfl rfl rfl rfl
  | .attributeDefault name description value, h => by
    obtain ⟨-, -, -, rfl⟩ := addAttribute_eq_ok_iff.mp h
    exact .of_frame rfl rfl rfl rfl rfl rfl rfl rfl
  | .parameter side index name description typeText, h => by
    obtain ⟨-, -, -, -, rfl⟩ := addParameter_eq_ok_iff.mp h
    cases side <;> exact .of_frame rfl rfl rfl rfl rfl rfl rfl rfl
  | .constraint name allowed description, h => by
    obtain ⟨-, -, -, rfl⟩ := addConstraint_eq_ok_iff.mp h
    exact .of_frame rfl rfl rfl rfl rfl rfl rfl rfl
  | .inference (some fn), h => by
    obtain ⟨hfree, rfl⟩ := accept_inference_eq_ok_iff.mp h
    have hnone : d.inference? = none := by simpa using hfree
    exact ⟨by simp [Declaration.doc?], by simp [hnone, Declaration.inference?], rfl, rfl⟩

end

end Draft

namespace Declaration

variable {decl : Declaration}

theorem slot?_eq_doc_iff : decl.slot? = some .doc ↔ ∃ text, decl.doc? = some text := by
  cases decl <;> simp [slot?, doc?]

theorem slot?_eq_attribute_iff {name : String} :
    decl.slot? = some (.attribute name) ↔ ∃ a, decl.attribute? = some a ∧ a.name = name := by
  cases decl <;> simp [slot?, attribute?]

theorem slot?_eq_parameter_iff {side : Side} {index : Int} :
    decl.slot? = some (.parameter side index) ↔ ∃ p, decl.parameter? side = some (index, p) := by
  cases decl <;> simp [slot?, parameter?, and_comm]

theorem slot?_eq_constraint_iff {name : String} :
    decl.slot? = some (.constraint name) ↔ ∃ c, decl.constraint? = some c ∧ c.name = name := by
  cases decl <;> simp [slot?, constraint?]

theorem slot?_eq_inference_iff (h : decl.Valid) :
    decl.slot? = some .inference ↔ ∃ fn, decl.inference? = some fn := by
  cases decl <;> simp_all [slot?, inference?, Valid, Option.isSome_iff_exists]

end Declaration

namespace Draft

/-! ## All declarations -/

theorem filterMap_append_singleton {α β : Type} (f : α → Option β) (xs : List α) (x : α) :
    (xs ++ [x]).filterMap f = xs.filterMap f ++ (f x).toList := by
  rw [List.filterMap_append]
  cases h : f x <;> simp [h]

theorem nodup_append_toList_iff {α : Type} {xs : List α} {x? : Option α} :
    (xs ++ x?.toList).Nodup ↔ xs.Nodup ∧ ∀ x, x? = some x → x ∉ xs := by
  cases x? with
  | none => simp
  | some x => simp [← List.concat_eq_append, List.nodup_concat, and_comm]

/-- Values that follow one another in one place leave something there if one of them does. -/
theorem isSome_iff_of_toList {α : Type} {o p q : Option α} (h : o.toList = p.toList ++ q.toList) :
    o.isSome = true ↔ p.isSome = true ∨ ∃ a, q = some a := by
  cases o <;> cases p <;> cases q <;> simp_all

section

variable {d d' : Draft} {decl : Declaration}

/-- **One step** — a taken declaration fills its slot and no other. -/
theorem filled_iff_of_accept (h : d.accept decl = .ok d') {slot : Slot} :
    d'.Filled slot ↔ d.Filled slot ∨ decl.slot? = some slot := by
  have haccepted := accepted_of_accept h
  have hsettled := settled_of_accept h
  cases slot with
  | doc =>
    rw [Declaration.slot?_eq_doc_iff]
    exact isSome_iff_of_toList hsettled.doc
  | «attribute» name =>
    simp [Filled, haccepted.attributes, Declaration.slot?_eq_attribute_iff]
  | parameter side index =>
    simp only [Filled, haccepted.parameters side, Declaration.slot?_eq_parameter_iff]
    cases he : decl.parameter? side with
    | none => simp
    | some e =>
      have hindex : ((e.1.toNat : Nat) : Int) = e.1 :=
        Int.toNat_of_nonneg (haccepted.newParameter side e he).1
      have hnew : (∃ p, some e = some (index, p)) ↔ e.1 = index :=
        ⟨fun ⟨_, hp⟩ => congrArg Prod.fst (Option.some.inj hp), fun h => ⟨e.2, h ▸ rfl⟩⟩
      simp only [Option.elim_some, (insertParameter_perm _ _ _).mem_iff, List.mem_cons,
        or_and_right, exists_or, exists_eq_left, hindex, hnew]
      exact or_comm
  | constraint name =>
    simp [Filled, haccepted.constraints, Declaration.slot?_eq_constraint_iff]
  | inference =>
    rw [Declaration.slot?_eq_inference_iff (exists_accept_iff.mp ⟨d', h⟩).1]
    exact isSome_iff_of_toList hsettled.inference

/-- A declaration leaves no refusal exactly if it is taken and there was none. -/
theorem refusal?_declare_iff :
    (d.declare decl).refusal? = none ↔ d.refusal? = none ∧ ∃ d', d.accept decl = .ok d' := by
  constructor
  · intro h
    obtain ⟨hrefusal, haccept⟩ := refusal?_of_declare h
    exact ⟨hrefusal, _, haccept⟩
  · rintro ⟨hrefusal, d', haccept⟩
    rw [declare_of_accept haccept]
    exact (accepted_of_accept haccept).refusal?.trans hrefusal

end

section

variable {name : String} {decls : List Declaration}

theorem not_filled_new (slot : Slot) : ¬ (new name).Filled slot := by
  cases slot with
  | parameter side index => cases side <;> simp [Filled, parameters, new]
  | _ => simp [Filled, new]

/-- **The filled slots are those that the declarations fill.** -/
theorem filled_declareAll_iff (h : ((new name).declareAll decls).refusal? = none) {slot : Slot} :
    ((new name).declareAll decls).Filled slot ↔ slot ∈ decls.filterMap Declaration.slot? := by
  refine declareAll_induction
    (P := fun decls d => d.Filled slot ↔ slot ∈ decls.filterMap Declaration.slot?)
    (by simpa using not_filled_new slot) (fun decls d decl d' hd haccept => ?_) h
  rw [filled_iff_of_accept haccept, hd, filterMap_append_singleton, List.mem_append,
    Option.mem_toList]

/-- **Nothing is refused exactly if all declarations are valid and no two fill the same slot.** -/
theorem refusal?_declareAll_iff :
    ((new name).declareAll decls).refusal? = none ↔
      (∀ decl ∈ decls, decl.Valid) ∧ (decls.filterMap Declaration.slot?).Nodup := by
  induction decls using List.reverseRecOn with
  | nil => simp [declareAll, new]
  | append_singleton decls decl ih =>
    rw [declareAll_append_singleton, refusal?_declare_iff, exists_accept_iff,
      filterMap_append_singleton, nodup_append_toList_iff, List.forall_mem_append,
      List.forall_mem_singleton]
    constructor
    · rintro ⟨hrefusal, hvalid, hfree⟩
      obtain ⟨hall, hnodup⟩ := ih.mp hrefusal
      refine ⟨⟨hall, hvalid⟩, hnodup, fun slot hslot hmem => hfree slot hslot ?_⟩
      exact (filled_declareAll_iff hrefusal).mpr hmem
    · rintro ⟨⟨hall, hvalid⟩, hnodup, hnew⟩
      have hrefusal := ih.mpr ⟨hall, hnodup⟩
      refine ⟨hrefusal, hvalid, fun slot hslot hfilled => hnew slot hslot ?_⟩
      exact (filled_declareAll_iff hrefusal).mp hfilled

/-- A draft holds what declarations ask for: attributes and type variables in the order in which
they are declared, the only documentation and the only inference function, and the last domain and
version. -/
structure Collects (d : Draft) (decls : List Declaration) : Prop where
  attributes : d.attributes = decls.filterMap Declaration.attribute?
  constraints : d.constraints = decls.filterMap Declaration.constraint?
  doc : d.doc?.toList = decls.filterMap Declaration.doc?
  inference : d.inference?.toList = decls.filterMap Declaration.inference?
  domain : d.domain = (decls.filterMap Declaration.domain?).getLastD ""
  since : d.since = (decls.filterMap Declaration.since?).getLastD 1

theorem getLastD_append_toList {α : Type} (xs : List α) (x? : Option α) (a : α) :
    (xs ++ x?.toList).getLastD a = x?.getD (xs.getLastD a) := by
  cases x? <;> simp

theorem collects_new : (new name).Collects [] := ⟨rfl, rfl, rfl, rfl, rfl, rfl⟩

theorem Collects.accept {d d' : Draft} {decl : Declaration} (hd : d.Collects decls)
    (h : d.accept decl = .ok d') : d'.Collects (decls ++ [decl]) := by
  have haccepted := accepted_of_accept h
  have hsettled := settled_of_accept h
  constructor <;> rw [filterMap_append_singleton]
  · rw [haccepted.attributes, hd.attributes]
  · rw [haccepted.constraints, hd.constraints]
  · rw [hsettled.doc, hd.doc]
  · rw [hsettled.inference, hd.inference]
  · rw [hsettled.domain, hd.domain, getLastD_append_toList]
  · rw [hsettled.since, hd.since, getLastD_append_toList]

/-- **A draft that refused nothing holds what was declared.** -/
theorem collects_declareAll (h : ((new name).declareAll decls).refusal? = none) :
    ((new name).declareAll decls).Collects decls :=
  declareAll_induction (P := fun decls d => d.Collects decls) collects_new
    (fun _ _ _ _ hd haccept => hd.accept haccept) h

end

end Draft

/-! ## Declarations in another order -/

/-- The same declarations in another order, which is the same among attributes, among type
variables, among domains and among versions. -/
structure Rearranged (decls decls' : List Declaration) : Prop where
  perm : decls.Perm decls'
  attributes : decls.filterMap Declaration.attribute? = decls'.filterMap Declaration.attribute?
  constraints : decls.filterMap Declaration.constraint? = decls'.filterMap Declaration.constraint?
  domains : decls.filterMap Declaration.domain? = decls'.filterMap Declaration.domain?
  versions : decls.filterMap Declaration.since? = decls'.filterMap Declaration.since?

theorem Rearranged.symm {decls decls' : List Declaration} (h : Rearranged decls decls') :
    Rearranged decls' decls :=
  ⟨h.perm.symm, h.attributes.symm, h.constraints.symm, h.domains.symm, h.versions.symm⟩

attribute [ext] Draft

namespace Draft

variable {name : String} {decls decls' : List Declaration}

/-- Whether something is refused does not depend on the order of declarations. -/
theorem refusal?_eq_none_of_perm (hperm : decls.Perm decls')
    (h : ((new name).declareAll decls).refusal? = none) :
    ((new name).declareAll decls').refusal? = none := by
  obtain ⟨hvalid, hnodup⟩ := refusal?_declareAll_iff.mp h
  refine refusal?_declareAll_iff.mpr ⟨fun decl hdecl => hvalid decl (hperm.mem_iff.mpr hdecl), ?_⟩
  exact (hperm.filterMap _).nodup_iff.mp hnodup

/-- Parameters stand in the order of their indices, whatever the order of declarations. -/
theorem parameters_eq_of_perm (hperm : decls.Perm decls') (side : Side)
    (h : ((new name).declareAll decls).refusal? = none) :
    ((new name).declareAll decls).parameters side
      = ((new name).declareAll decls').parameters side := by
  have h' := refusal?_eq_none_of_perm hperm h
  have hdeclared : (declaredForm (((new name).declareAll decls).parameters side)).Perm
      (declaredForm (((new name).declareAll decls').parameters side)) :=
    (parameters_perm side h).trans ((hperm.filterMap _).trans (parameters_perm side h').symm)
  have hinjective : Function.Injective fun e : Nat × Parameter => ((e.1 : Int), e.2) := by
    intro e f hef
    obtain ⟨hindex, hparameter⟩ := Prod.mk.inj hef
    exact Prod.ext (Int.ofNat.inj hindex) hparameter
  have hparameters := (List.map_perm_map_iff hinjective).mp hdeclared
  exact hparameters.eq_of_pairwise (fun _ _ _ _ hef hfe => absurd hfe (lt_asymm hef))
    ((sound_declareAll h).sorted side) ((sound_declareAll h').sorted side)

/-- **Rearranged declarations make the same draft**, if nothing is refused. -/
theorem declareAll_eq_of_rearranged (h : Rearranged decls decls')
    (hrefusal : ((new name).declareAll decls).refusal? = none) :
    (new name).declareAll decls = (new name).declareAll decls' := by
  have hrefusal' := refusal?_eq_none_of_perm h.perm hrefusal
  have hd := collects_declareAll hrefusal
  have hd' := collects_declareAll hrefusal'
  ext1
  · rw [name_declareAll hrefusal, name_declareAll hrefusal']
  · rw [hd.domain, hd'.domain, h.domains]
  · rw [hd.since, hd'.since, h.versions]
  · apply List.perm_option_toList.mp
    rw [hd.doc, hd'.doc]
    exact h.perm.filterMap _
  · rw [hd.attributes, hd'.attributes, h.attributes]
  · exact parameters_eq_of_perm h.perm .input hrefusal
  · exact parameters_eq_of_perm h.perm .output hrefusal
  · rw [hd.constraints, hd'.constraints, h.constraints]
  · apply List.perm_option_toList.mp
    rw [hd.inference, hd'.inference]
    exact h.perm.filterMap _
  · rw [hrefusal, hrefusal']

theorem build_of_rearranged (h : Rearranged decls decls') {s : OpSchema}
    (hs : ((new name).declareAll decls).build = .ok s) :
    ((new name).declareAll decls').build = .ok s := by
  rw [← declareAll_eq_of_rearranged h (build_eq_ok_iff.mp hs).1]
  exact hs

/-- **Building does not depend on the order of declarations**, but for the order among attributes,
among type variables, among domains and among versions: rearranged declarations are built together,
and to the same schema. -/
theorem build_eq_ok_iff_of_rearranged (h : Rearranged decls decls') {s : OpSchema} :
    ((new name).declareAll decls).build = .ok s ↔
      ((new name).declareAll decls').build = .ok s :=
  ⟨build_of_rearranged h, build_of_rearranged h.symm⟩

/-- Two attributes and two versions in order, with everything else at another place. -/
def scatteredDeclarations : List Declaration := [
  .inference (some InferenceFn.idle),
  .parameter .output 0 "picked" "What is found." "T",
  .since 11,
  .parameter .input 0 "data" "Where to look into." "T",
  .attribute "mode" "How to look." .string true,
  .constraint "T" highPrecisionTypes "Numbers.",
  .since 13,
  .attributeDefault "axis" "The axis to look along." ⟨"other", .int 0⟩,
  .doc "Looks things up.",
  .parameter .input 1 "indices" "Where to look." "tensor( INT64)"]

/-- The same declarations, read from the positions given. -/
def tidyPositions : List (Fin 10) := [8, 4, 7, 3, 9, 1, 5, 0, 2, 6]

def tidyDeclarations : List Declaration := tidyPositions.map scatteredDeclarations.get

theorem build_eq_ok_iff_of_rearranged_tidy :
    ∃ s, ((new "Gather").declareAll scatteredDeclarations).build = .ok s ∧
      ((new "Gather").declareAll tidyDeclarations).build = .ok s ∧ s.since = 13 := by
  have hperm : (List.finRange 10).Perm tidyPositions := by decide
  have h : Rearranged scatteredDeclarations tidyDeclarations :=
    ⟨hperm.map scatteredDeclarations.get, rfl, rfl, rfl, rfl⟩
  have hs : ∃ s, ((new "Gather").declareAll scatteredDeclarations).build = .ok s ∧ s.since = 13 :=
    ⟨_, rfl, rfl⟩
  obtain ⟨s, hs, hsince⟩ := hs
  exact ⟨s, hs, (build_eq_ok_iff_of_rearranged h).mp hs, hsince⟩

end Draft

end TensorGraph
