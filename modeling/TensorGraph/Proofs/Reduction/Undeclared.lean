import TensorGraph.Proofs.Reduction.Acceptance
import TensorGraph.Proofs.Reduction.Steps

/-!
# Proofs/Reduction/Undeclared — a lax check passes over undeclared attributes, and over nothing else

    lax       note = "x"   axis = 1   hint = 2.5   keepdims = 0
    strict                 axis = 1                keepdims = 0

Where undeclared attributes are let through they reach inference with all others.  A lax check is
still the strict check of the declared part, to the last error, for every schema whose inference
reads declared attributes only (`checkAgainst_lax`), as the standard ones do.  One thing is asked of
undeclared attributes too: their names are distinct.
-/

namespace TensorGraph

/-! ## Declared attributes -/

/-- Whether a schema declares an attribute, whatever its type. -/
def OpSchema.declares (s : OpSchema) (a : Attribute) : Bool := (s.attribute? a.name).isSome

/-- The names of the attributes that a schema declares. -/
def OpSchema.declaredNames (s : OpSchema) : Set String := {name | (s.attribute? name).isSome}

section

variable {s : OpSchema} {a : Attribute}

theorem OpSchema.declares_of_name {spec : AttributeSpec} (hspec : spec ∈ s.attributes)
    (h : a.name = spec.name) : s.declares a = true := by
  rw [declares, attribute?, List.find?_isSome]
  exact ⟨spec, hspec, by simp [h]⟩

theorem OpSchema.declares_congr {b : Attribute} (h : a.name = b.name) :
    s.declares a = s.declares b := by
  rw [declares, declares, h]

/-- Under a declared name a node shows the same without its undeclared attributes. -/
theorem OpSchema.shown_filter_declares {name : String} (h : name ∈ s.declaredNames)
    (given : List Attribute) :
    s.shown given name = s.shown (given.filter s.declares) name := by
  have hfind : (given.filter s.declares).find? (·.name == name)
      = given.find? (·.name == name) := by
    rw [List.find?_filter]
    refine List.find?_congr fun a _ => ?_
    by_cases hname : a.name = name
    · have hyes : s.declares a = true := by
        rw [declares, hname]
        exact h
      simp [hname, hyes]
    · simp [hname]
  rw [shown, shown, hfind]

end

/-! ## The lax walk -/

section

variable {s : OpSchema}

/-- **The lax walk is the strict walk of the declared part**, if undeclared names are new and
distinct.  The two have seen the same declared names on the way. -/
theorem checkAttributesFrom_lax : ∀ {as : List Attribute} {seen seen' : List String},
    (∀ a ∈ as, s.declares a = true → (a.name ∈ seen ↔ a.name ∈ seen')) →
    (∀ a ∈ as, s.declares a = false → a.name ∉ seen) →
    ((as.filter (!s.declares ·)).map (·.name)).Nodup →
      checkAttributesFrom false s seen as
        = checkAttributesFrom true s seen' (as.filter s.declares)
  | [], _, _, _, _, _ => rfl
  | a :: as, seen, seen', hdeclared, hundeclared, hnodup => by
    obtain ⟨ha, hdeclared⟩ := List.forall_mem_cons.mp hdeclared
    obtain ⟨ha', hundeclared⟩ := List.forall_mem_cons.mp hundeclared
    cases hspec : s.attribute? a.name with
    | none =>
      have hnot : s.declares a = false := by rw [OpSchema.declares, hspec, Option.isSome_none]
      rw [List.filter_cons_of_pos (by simp [hnot]), List.map_cons, List.nodup_cons] at hnodup
      obtain ⟨hfree, hnodup⟩ := hnodup
      rw [checkAttributesFrom_cons, if_neg (ha' hnot), hspec,
        List.filter_cons_of_neg (by simp [hnot])]
      refine checkAttributesFrom_lax (fun b hb hyes => ?_) (fun b hb hnot' => ?_) hnodup
      · have hne : b.name ≠ a.name := fun hname => by
          simp [OpSchema.declares_congr hname, hnot] at hyes
        rw [List.mem_cons, or_iff_right hne, hdeclared b hb hyes]
      · have hne : b.name ≠ a.name := fun hname => hfree (List.mem_map.mpr
          ⟨b, List.mem_filter.mpr ⟨hb, by simp [hnot']⟩, hname⟩)
        rw [List.mem_cons, not_or]
        exact ⟨hne, hundeclared b hb hnot'⟩
    | some spec =>
      have hyes : s.declares a = true := by rw [OpSchema.declares, hspec, Option.isSome_some]
      rw [List.filter_cons_of_neg (by simp [hyes])] at hnodup
      have hrest : checkAttributesFrom false s (a.name :: seen) as
          = checkAttributesFrom true s (a.name :: seen') (as.filter s.declares) := by
        refine checkAttributesFrom_lax (fun b hb hyes' => ?_) (fun b hb hnot => ?_) hnodup
        · rw [List.mem_cons, List.mem_cons, hdeclared b hb hyes']
        · have hne : b.name ≠ a.name := fun hname => by
            simp [OpSchema.declares_congr hname, hyes] at hnot
          rw [List.mem_cons, not_or]
          exact ⟨hne, hundeclared b hb hnot⟩
      rw [List.filter_cons_of_pos hyes, checkAttributesFrom_cons, checkAttributesFrom_cons, hspec]
      simp only [ha hyes, hrest]

/-- **The lax check is the strict check of the declared part**, if undeclared names are distinct. -/
theorem checkAttributes_lax {as : List Attribute}
    (h : ((as.filter (!s.declares ·)).map (·.name)).Nodup) :
    checkAttributes false s as = checkAttributes true s (as.filter s.declares) := by
  have hwalk : checkAttributesFrom false s [] as
      = checkAttributesFrom true s [] (as.filter s.declares) :=
    checkAttributesFrom_lax (by simp) (by simp) h
  refine checkAttributes_congr hwalk fun spec hspec _ => ?_
  constructor
  · rintro ⟨a, ha, hname⟩
    exact ⟨a, List.mem_filter.mpr ⟨ha, OpSchema.declares_of_name hspec hname⟩, hname⟩
  · rintro ⟨a, ha, hname⟩
    exact ⟨a, (List.mem_filter.mp ha).1, hname⟩

/-! ## Schemas whose inference reads declared attributes only -/

/-- **A schema takes a node laxly as it takes its declared part strictly**, to the last error. -/
theorem checkAgainst_lax (hs : s.AttributesNamed) (hreads : s.infer.Reads s.declaredNames)
    {n : Node} (h : ((n.attributes.filter (!s.declares ·)).map (·.name)).Nodup)
    (inputs : List (Option ValueType)) :
    checkAgainst false s n inputs
      = checkAgainst true s { n with attributes := n.attributes.filter s.declares } inputs :=
  checkAgainst_congr hs hreads (checkAttributes_lax h)
    (fun _ hname => OpSchema.shown_filter_declares hname n.attributes) inputs

/-- A name that comes twice is refused, declared or not. -/
theorem nodup_of_checkAgainst {strict : Bool} {n : Node} {inputs : List (Option ValueType)}
    {types : List ValueType} (h : checkAgainst strict s n inputs = .ok types) :
    (n.attributes.map (·.name)).Nodup :=
  (checkAttributes_eq_ok_iff.mp (checkAgainst_eq_ok_iff.mp h).1).1

/-- What is accepted strictly is accepted laxly, with the same types. -/
theorem checkAgainst_lax_of_strict {n : Node} {inputs : List (Option ValueType)}
    {types : List ValueType} (h : checkAgainst true s n inputs = .ok types) :
    checkAgainst false s n inputs = .ok types := by
  obtain ⟨hattributes, hrest⟩ := checkAgainst_eq_ok_iff.mp h
  obtain ⟨hnodup, htakes, hrequired⟩ := checkAttributes_eq_ok_iff.mp hattributes
  refine checkAgainst_eq_ok_iff.mpr ⟨checkAttributes_eq_ok_iff.mpr ⟨hnodup, ?_, hrequired⟩, hrest⟩
  exact fun a ha => ⟨(htakes a ha).typed, nofun⟩

end

/-- The schemas of a family infer from declared attributes only. -/
theorem Family.reads_schema (F : Family) (name doc : String) :
    (F.schema name doc).infer.Reads (F.schema name doc).declaredNames := by
  have hsub : F.attributeNames ⊆ (F.schema name doc).declaredNames := by
    rintro _ (rfl | rfl)
    · cases F <;> rfl
    · cases F <;> rfl
  refine OpSchema.reads_infer ?_
  rintro f ⟨⟩
  exact F.reads_infer.mono hsub

/-! ## Nodes -/

namespace Checker

/-- Whether the operator of a node declares an attribute; one without a schema declares none. -/
def declares (c : Checker) (n : Node) (version : Int) (a : Attribute) : Bool :=
  (c.lookup n.domain n.op (c.opset version)).any (·.declares a)

/-- A node without the attributes that its operator does not declare. -/
def declaredPart (c : Checker) (n : Node) (version : Int) : Node :=
  { n with attributes := n.attributes.filter (c.declares n version) }

/-- The names of the attributes that the operator of a node does not declare. -/
def undeclaredNames (c : Checker) (n : Node) (version : Int) : List String :=
  (n.attributes.filter (!c.declares n version ·)).map (·.name)

variable {c : Checker} {n : Node} {inputs : List (Option ValueType)} {version : Int}

theorem declares_of_lookup {s : OpSchema}
    (h : c.lookup n.domain n.op (c.opset version) = some s) :
    c.declares n version = s.declares := by
  funext a
  rw [declares, h, Option.any_some]

/-- Whatever is found, an accepted node has distinct attribute names. -/
theorem nodup_of_checkNode {types : List ValueType}
    (h : c.checkNode n inputs version = .ok types) : (n.attributes.map (·.name)).Nodup := by
  obtain ⟨s, -, hs⟩ := checkNode_eq_ok_iff.mp h
  exact nodup_of_checkAgainst hs

theorem checkNode_lax_of_strict {types : List ValueType}
    (h : (c.withStrict true).checkNode n inputs version = .ok types) :
    (c.withStrict false).checkNode n inputs version = .ok types := by
  obtain ⟨s, hlookup, hs⟩ := checkNode_eq_ok_iff.mp h
  exact checkNode_eq_ok_iff.mpr ⟨s, hlookup, checkAgainst_lax_of_strict hs⟩

/-- **Over the standard registry a lax check is the strict check of the declared part.** -/
theorem IsStandard.checkNode_lax (hc : c.IsStandard) (h : (c.undeclaredNames n version).Nodup) :
    (c.withStrict false).checkNode n inputs version
      = (c.withStrict true).checkNode (c.declaredPart n version) inputs version := by
  refine checkNode_congr fun s hlookup => ?_
  rw [undeclaredNames, declares_of_lookup hlookup] at h
  rw [declares_of_lookup hlookup]
  obtain ⟨F, name, doc, rfl⟩ := hc.exists_family hlookup
  exact checkAgainst_lax F.attributesNamed (F.reads_schema name doc) h inputs

/-- **A lax checker ignores undeclared attributes and nothing else.**  What a strict checker accepts
it accepts with the same types.  Over the standard registry it ends as the strict checker does on
the node without its undeclared attributes, with the same types or with the same error, whatever
they are; only where an undeclared name comes twice does it refuse the node for it. -/
theorem lax_ignores_undeclared (c : Checker) (n : Node) (inputs : List (Option ValueType))
    (version : Int) :
    (∀ types, (c.withStrict true).checkNode n inputs version = .ok types →
      (c.withStrict false).checkNode n inputs version = .ok types) ∧
    (c.IsStandard →
      ((c.undeclaredNames n version).Nodup →
        (c.withStrict false).checkNode n inputs version
          = (c.withStrict true).checkNode (c.declaredPart n version) inputs version) ∧
      (¬ (c.undeclaredNames n version).Nodup →
        ∃ e, (c.withStrict false).checkNode n inputs version = .error e)) := by
  refine ⟨fun types h => checkNode_lax_of_strict h, fun hc => ⟨hc.checkNode_lax, ?_⟩⟩
  intro hrepeated
  cases hresult : (c.withStrict false).checkNode n inputs version with
  | error e => exact ⟨e, rfl⟩
  | ok types =>
    have hnodup := nodup_of_checkNode hresult
    exact absurd (hnodup.sublist (List.filter_sublist.map _)) hrepeated

/-- The note on a sum is passed over, as long as there is only one. -/
theorem lax_ignores_undeclared_sum :
    let lax := standardChecker.withStrict false
    let twice : Node := { sumNode with attributes := ⟨"note", .int 1⟩ :: sumNode.attributes }
    standardChecker.IsStandard ∧
      standardChecker.undeclaredNames sumNode 0 = ["note"] ∧
      lax.checkNode sumNode [some sumInput] 0 = .ok [⟨.tensor, .float32, some [.static 3]⟩] ∧
      standardChecker.undeclaredNames twice 0 = ["note", "note"] ∧
      ∃ e, lax.checkNode twice [some sumInput] 0 = .error e := by
  intro lax twice
  have hc := isStandard_standardChecker
  have hstrict : (standardChecker.withStrict true).checkNode
      (standardChecker.declaredPart sumNode 0) [some sumInput] 0
        = .ok [⟨.tensor, .float32, some [.static 3]⟩] := rfl
  have hone : standardChecker.undeclaredNames sumNode 0 = ["note"] := rfl
  have htwo : standardChecker.undeclaredNames twice 0 = ["note", "note"] := rfl
  refine ⟨hc, hone, ?_, htwo, ?_⟩
  · obtain ⟨-, hstandard⟩ := lax_ignores_undeclared standardChecker sumNode [some sumInput] 0
    rw [(hstandard hc).1 (by rw [hone]; decide), hstrict]
  · obtain ⟨-, hstandard⟩ := lax_ignores_undeclared standardChecker twice [some sumInput] 0
    exact (hstandard hc).2 (by rw [htwo]; decide)

end Checker

end TensorGraph
