import TensorGraph.Proofs.Graph.Views
import TensorGraph.Proofs.Reduction.Steps
import TensorGraph.Proofs.Schema.WellFormed

/-!
# Proofs/Graph/Defaults — a default may be left out, and the order of attributes is free

    axes = [1]                        keepdims = 1   axes = [1]        axes = [1]   keepdims = 1
    ────────────────────────────────────────────────────────────────────────────────────────────
    all three are one node to the check and to inference, where `keepdims` has default 1

A default that is written out passes the check: a schema that was built declares it with its own
name and type, and not as required.  It then shows what inference would have found without it.  The
check and what is shown do not depend on the order of the attributes, only the fault that is
reported first does (`Checker.defaults_and_order_invisible`).
-/

namespace TensorGraph

/-! ## What a view reports -/

/-- What a view of a node reports of attributes: those that are set as they are set, those that are
only declared by their default, and no others.  All that is declared has its declared type. -/
structure InferenceContext.Reports (c : InferenceContext) (s : OpSchema)
    (given : List Attribute) : Prop where
  set : ∀ a ∈ given, c.attribute? a.name = some a
  default : ∀ spec ∈ s.attributes, spec.name ∉ given.map (·.name) →
    c.attribute? spec.name = spec.default?
  absent : ∀ name, name ∉ given.map (·.name) → name ∉ s.attributes.map (·.name) →
    c.attribute? name = none
  typed : ∀ spec ∈ s.attributes, ∀ a, c.attribute? spec.name = some a → a.type = spec.type

namespace OpSchema.WellFormed

variable {s : OpSchema} (hs : s.WellFormed)

include hs

theorem attributesNamed : s.AttributesNamed :=
  ⟨hs.attributes_nodup, fun spec hspec v hv => ((hs.attributes spec hspec).default v hv).2.1⟩

theorem attribute?_eq {spec : AttributeSpec} (hspec : spec ∈ s.attributes) :
    s.attribute? spec.name = some spec :=
  (find?_key_eq_some_iff hs.attributes_nodup).mpr ⟨hspec, rfl⟩

/-- A default is an attribute that the schema takes. -/
theorem takes_default {spec : AttributeSpec} (hspec : spec ∈ s.attributes) {v : Attribute}
    (hv : spec.default? = some v) (strict : Bool) : s.Takes strict v := by
  obtain ⟨-, hname, htype⟩ := (hs.attributes spec hspec).default v hv
  have hfound : s.attribute? v.name = some spec := hname ▸ hs.attribute?_eq hspec
  exact (OpSchema.takes_iff_of_some hfound).mpr htype

end OpSchema.WellFormed

section

variable {s : OpSchema} {given : List Attribute}

theorem OpSchema.shown_of_mem (h : (given.map (·.name)).Nodup) {a : Attribute} (ha : a ∈ given) :
    s.shown given a.name = some a := by
  have hfound : given.find? (·.name == a.name) = some a :=
    (find?_key_eq_some_iff h).mpr ⟨ha, rfl⟩
  rw [shown, hfound, Option.some_or]

theorem OpSchema.shown_of_notMem {name : String} (h : name ∉ given.map (·.name)) :
    s.shown given name = (s.attribute? name).bind (·.default?) := by
  rw [shown, find?_key_eq_none h, Option.none_or]

/-- **Once the attributes pass, a view reports them with the defaults of the others.** -/
theorem reports_of_checkAttributes (hs : s.WellFormed) {strict : Bool} {n : Node}
    (h : checkAttributes strict s n.attributes = .ok ()) (inputs : List (Option ValueType)) :
    (nodeContext s n inputs).Reports s n.attributes := by
  have hnodup := (checkAttributes_eq_ok_iff.mp h).1
  have hreads := attribute?_nodeContext hs.attributesNamed hnodup inputs
  refine ⟨fun a ha => ?_, fun spec hspec hfree => ?_, fun name hfree hundeclared => ?_,
    fun spec hspec a ha => ?_⟩
  · rw [hreads, OpSchema.shown_of_mem hnodup ha]
  · rw [hreads, OpSchema.shown_of_notMem hfree, hs.attribute?_eq hspec, Option.bind_some]
  · have hnone : s.attribute? name = none := find?_key_eq_none hundeclared
    rw [hreads, OpSchema.shown_of_notMem hfree, hnone, Option.bind_none]
  · rw [hreads] at ha
    by_cases hset : spec.name ∈ n.attributes.map (·.name)
    · obtain ⟨b, hb, hname⟩ := List.mem_map.mp hset
      rw [← hname, OpSchema.shown_of_mem hnodup hb] at ha
      obtain rfl := Option.some.inj ha
      exact type_of_checkAttributes h spec (hs.attribute?_eq hspec) b hb hname
    · rw [OpSchema.shown_of_notMem hset, hs.attribute?_eq hspec, Option.bind_some] at ha
      exact ((hs.attributes spec hspec).default a ha).2.2

end

/-! ## Writing a default out -/

section

variable {strict : Bool} {s : OpSchema} {v : Attribute}

/-- An attribute that the schema takes and whose name is free changes nothing in the walk. -/
theorem checkAttributesFrom_insert (hv : s.Takes strict v) {ys : List Attribute}
    (hys : ∀ a ∈ ys, a.name ≠ v.name) : ∀ {xs : List Attribute} {seen : List String},
    (∀ a ∈ xs, a.name ≠ v.name) → v.name ∉ seen →
      checkAttributesFrom strict s seen (xs ++ v :: ys)
        = checkAttributesFrom strict s seen (xs ++ ys)
  | [], seen, _, hseen => by
    have hlater : checkAttributesFrom strict s (v.name :: seen) ys
        = checkAttributesFrom strict s seen ys :=
      checkAttributesFrom_congr_seen fun a ha => by simp [hys a ha]
    rw [List.nil_append, List.nil_append, checkAttributesFrom_cons, if_neg hseen, hlater]
    cases hspec : s.attribute? v.name with
    | none =>
      have hlax : strict = false := (OpSchema.takes_iff_of_none hspec).mp hv
      simp [hlax]
    | some spec =>
      have htype : v.type = spec.type := (OpSchema.takes_iff_of_some hspec).mp hv
      simp [htype]
  | a :: xs, seen, hxs, hseen => by
    obtain ⟨ha, hxs⟩ := List.forall_mem_cons.mp hxs
    have hseen' : v.name ∉ a.name :: seen := by simp [hseen, ha.symm]
    rw [List.cons_append, List.cons_append, checkAttributesFrom_cons, checkAttributesFrom_cons,
      checkAttributesFrom_insert hv hys hxs hseen']

/-- A default that is written out shows what was shown without it. -/
theorem OpSchema.shown_insert {spec : AttributeSpec} (hspec : s.attribute? v.name = some spec)
    (hv : spec.default? = some v) {xs ys : List Attribute}
    (hfree : v.name ∉ (xs ++ ys).map (·.name)) (name : String) :
    s.shown (xs ++ v :: ys) name = s.shown (xs ++ ys) name := by
  by_cases hname : v.name = name
  · subst hname
    have hxs : v.name ∉ xs.map (·.name) := fun hmem =>
      hfree (List.map_append ▸ List.mem_append_left _ hmem)
    rw [shown_of_notMem hfree, hspec, Option.bind_some, hv, shown, List.find?_append,
      find?_key_eq_none hxs, Option.none_or, List.find?_cons_of_pos (by simp), Option.some_or]
  · have hskip : (v :: ys).find? (·.name == name) = ys.find? (·.name == name) :=
      List.find?_cons_of_neg (by simpa using hname)
    rw [shown, shown, List.find?_append, List.find?_append, hskip]

end

section

variable {s : OpSchema} (hs : s.WellFormed) {spec : AttributeSpec} (hspec : spec ∈ s.attributes)
  {v : Attribute} (hv : spec.default? = some v)

include hs hspec hv

/-- **A default that is written out is not seen by the check.** -/
theorem checkAttributes_insert (strict : Bool) {xs ys : List Attribute}
    (hfree : v.name ∉ (xs ++ ys).map (·.name)) :
    checkAttributes strict s (xs ++ v :: ys) = checkAttributes strict s (xs ++ ys) := by
  have hne : ∀ a ∈ xs ++ ys, a.name ≠ v.name := fun a ha hname =>
    hfree (List.mem_map.mpr ⟨a, ha, hname⟩)
  refine checkAttributes_congr ?_ fun spec' hspec' hrequired => ?_
  · exact checkAttributesFrom_insert (hs.takes_default hspec hv strict)
      (fun a ha => hne a (List.mem_append_right xs ha))
      (fun a ha => hne a (List.mem_append_left ys ha)) List.not_mem_nil
  · -- the one attribute that is more is not required, as it has a default
    have hother : v.name ≠ spec'.name := by
      intro hname
      obtain ⟨hoptional, hspecName, -⟩ := (hs.attributes spec hspec).default v hv
      have hsame : spec = spec' :=
        List.inj_on_of_nodup_map hs.attributes_nodup hspec hspec' (hspecName.symm.trans hname)
      rw [← hsame, hoptional] at hrequired
      cases hrequired
    simp [or_and_right, exists_or, hother]

/-- **Writing a default out changes nothing**, at whatever place it is written. -/
theorem checkAgainst_insert (hreads : s.infer.Reads Set.univ) (strict : Bool) {n : Node}
    {xs ys : List Attribute} (hn : n.attributes = xs ++ ys)
    (hfree : v.name ∉ n.attributes.map (·.name)) (inputs : List (Option ValueType)) :
    checkAgainst strict s { n with attributes := xs ++ v :: ys } inputs
      = checkAgainst strict s n inputs := by
  have hname := ((hs.attributes spec hspec).default v hv).2.1
  have hfound : s.attribute? v.name = some spec := hname ▸ hs.attribute?_eq hspec
  rw [hn] at hfree
  refine (checkAgainst_congr hs.attributesNamed hreads ?_ (fun name _ => ?_) inputs).symm
  · rw [hn, checkAttributes_insert hs hspec hv strict hfree]
  · rw [hn, OpSchema.shown_insert hfound hv hfree]

end

/-! ## Changing the order -/

section

variable {s : OpSchema}

theorem checkAttributes_perm {strict : Bool} {as as' : List Attribute} (hperm : as.Perm as') :
    checkAttributes strict s as = .ok () ↔ checkAttributes strict s as' = .ok () := by
  simp only [checkAttributes_eq_ok_iff, hperm.mem_iff, (hperm.map Attribute.name).nodup_iff]

/-- **A schema takes a node whatever the order of its attributes**, and answers the same. -/
theorem checkAgainst_perm (hs : s.AttributesNamed) (hreads : s.infer.Reads Set.univ)
    {strict : Bool} {n : Node} {as : List Attribute} (hperm : as.Perm n.attributes)
    {inputs : List (Option ValueType)} {types : List ValueType} :
    checkAgainst strict s { n with attributes := as } inputs = .ok types ↔
      checkAgainst strict s n inputs = .ok types := by
  have hattributes : checkAttributes strict s as = .ok () ↔
      checkAttributes strict s n.attributes = .ok () := checkAttributes_perm hperm
  by_cases hpass : checkAttributes strict s n.attributes = .ok ()
  · have hnodup := (checkAttributes_eq_ok_iff.mp hpass).1
    have hsame := checkAgainst_congr hs hreads (hpass.trans (hattributes.mpr hpass).symm)
      (fun name _ => OpSchema.shown_perm hperm.symm hnodup name) inputs
    rw [hsame]
  · have hpass' : ¬ checkAttributes strict s as = .ok () := mt hattributes.mp hpass
    exact iff_of_false (fun h => hpass' (checkAgainst_eq_ok_iff.mp h).1)
      fun h => hpass (checkAgainst_eq_ok_iff.mp h).1

end

/-! ## Nodes -/

/-- **Defaults and the order of attributes are invisible** in what a checker makes of a node, if the
schema of the node was built and its inference reads attributes by name.  Once the attributes pass,
inference finds each as it is set, or its default, and with its declared type.  A default may be
written out at any place, and the result is the same, also where it is an error.  In any other
order the attributes make the node pass or not as before, with the same types. -/
theorem Checker.defaults_and_order_invisible {name : String} {decls : List Declaration}
    {s : OpSchema} (hbuild : ((Draft.new name).declareAll decls).build = .ok s)
    (hreads : ∀ f, s.inference? = some f → f.Reads Set.univ) {c : Checker} {n : Node}
    {version : Int} (hlookup : c.lookup n.domain n.op (c.opset version) = some s)
    (inputs : List (Option ValueType)) :
    (∀ strict, checkAttributes strict s n.attributes = .ok () →
      (nodeContext s n inputs).Reports s n.attributes) ∧
    (∀ spec ∈ s.attributes, ∀ v, spec.default? = some v →
      spec.name ∉ n.attributes.map (·.name) → ∀ xs ys, n.attributes = xs ++ ys →
        c.checkNode { n with attributes := xs ++ v :: ys } inputs version
          = c.checkNode n inputs version) ∧
    ∀ as, as.Perm n.attributes → ∀ types,
      c.checkNode { n with attributes := as } inputs version = .ok types ↔
        c.checkNode n inputs version = .ok types := by
  have hs := Draft.wellFormed_of_build hbuild
  have hinfer := OpSchema.reads_infer hreads
  refine ⟨fun strict h => reports_of_checkAttributes hs h inputs, ?_, ?_⟩
  · intro spec hspec v hv hfree xs ys hn
    have hname := ((hs.attributes spec hspec).default v hv).2.1
    refine Eq.symm (checkNode_congr (c := c) fun s' hfound => ?_)
    obtain rfl := Option.some.inj (hlookup.symm.trans hfound)
    exact (checkAgainst_insert hs hspec hv hinfer c.strict hn (hname ▸ hfree) inputs).symm
  · intro as hperm types
    simp only [checkNode_eq_ok_iff, hlookup, Option.some.injEq, exists_eq_left']
    exact checkAgainst_perm hs.attributesNamed hinfer hperm

/-- A mean whose attributes are left open. -/
def meanNode (attributes : List Attribute) : Node where
  name := ""
  op := "ReduceMean"
  domain := ""
  inputs := ["x"]
  outputs := ["y"]
  attributes := attributes

/-- A mean keeps reduced axes by default, so it may say so before or after it names them. -/
theorem Checker.defaults_and_order_invisible_mean :
    let axes : Attribute := ⟨"axes", .ints [1]⟩
    let keepDims : Attribute := ⟨"keepdims", .int 1⟩
    let inputs := [some ⟨.tensor, .float32, some [.symbolic "n", .static 3]⟩]
    let types : List ValueType := [⟨.tensor, .float32, some [.symbolic "n", .static 1]⟩]
    let s := Operator.reduceMean.standardSchema
    ((Draft.new "ReduceMean").declareAll (.since reductionSince :: reduceRecipe "mean")).build
        = .ok s ∧
      (∀ f, s.inference? = some f → f.Reads Set.univ) ∧
      (nodeContext s (meanNode [axes]) inputs).Reports s [axes] ∧
      standardChecker.checkNode (meanNode [axes]) inputs 13 = .ok types ∧
      standardChecker.checkNode (meanNode [keepDims, axes]) inputs 13 = .ok types ∧
      standardChecker.checkNode (meanNode [axes, keepDims]) inputs 13 = .ok types := by
  intro axes keepDims inputs types s
  have hbuild : ((Draft.new "ReduceMean").declareAll
      (.since reductionSince :: reduceRecipe "mean")).build = .ok s := rfl
  have hreads : ∀ f, s.inference? = some f → f.Reads Set.univ := by
    rintro f ⟨⟩
    exact Family.axes.reads_infer.mono (Set.subset_univ _)
  have hlookup (as : List Attribute) : standardChecker.lookup (meanNode as).domain (meanNode as).op
      (standardChecker.opset 13) = some s := rfl
  have hplain : standardChecker.checkNode (meanNode [axes]) inputs 13 = .ok types := rfl
  obtain ⟨hreports, hdefault, -⟩ :=
    defaults_and_order_invisible hbuild hreads (hlookup [axes]) inputs
  have hwritten : standardChecker.checkNode (meanNode [keepDims, axes]) inputs 13 = .ok types :=
    (hdefault Family.keepDimsSpec (.tail _ (.head _)) keepDims rfl (by decide) [] [axes] rfl).trans
      hplain
  obtain ⟨-, -, horder⟩ :=
    defaults_and_order_invisible hbuild hreads (hlookup [keepDims, axes]) inputs
  exact ⟨hbuild, hreads, hreports true rfl, hplain, hwritten,
    (horder [axes, keepDims] (List.Perm.swap _ _ _) types).mpr hwritten⟩

end TensorGraph
