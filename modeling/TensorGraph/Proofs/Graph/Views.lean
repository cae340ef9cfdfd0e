import Mathlib.Data.List.Find
import Mathlib.Data.Set.Basic
import TensorGraph.Proofs.Graph.Attributes

/-!
# Proofs/Graph/Views — attributes count for what the check and inference see of them

    set        keepdims = 0   note = "x"
    declared   axis, default 0        keepdims, default 1
    shown      axis = 0   keepdims = 0   note = "x"

A node sets its attributes in a list, but checking it looks at that list in two ways only.  The
check of the attributes passes it or names a fault, and inference reads what is shown under a name
(`OpSchema.shown`): the attribute that is set, or its default.  So two nodes that the check treats
alike, and that show the same under the names that inference reads (`InferenceFn.Reads`), have the
same result (`checkAgainst_congr`).
-/

namespace TensorGraph

/-! ## Functions that read attributes by name -/

/-- Two views of a node with the same inputs and slots, and with the same attributes under the
given names. -/
structure InferenceContext.Alike (names : Set String) (c c' : InferenceContext) : Prop where
  attribute? : ∀ name ∈ names, c.attribute? name = c'.attribute? name
  inputs : c.inputs = c'.inputs
  outputs : c.outputs = c'.outputs

namespace InferenceFn

/-- A function that reads attributes by name only, and only under the given names. -/
def Reads (f : InferenceFn) (names : Set String) : Prop :=
  ∀ c c' : InferenceContext, c.Alike names c' → f c = f c'

variable {f g : InferenceFn} {names names' : Set String}

theorem Reads.mono (h : f.Reads names) (hsub : names ⊆ names') : f.Reads names' :=
  fun c c' halike => h c c'
    ⟨fun name hname => halike.attribute? name (hsub hname), halike.inputs, halike.outputs⟩

theorem reads_idle : idle.Reads names := by
  intro c c' halike
  rw [idle, Outcome.ok, Outcome.ok, halike.outputs]

theorem Reads.run (h : f.Reads names) : Reads (InferenceFn.run f) names := by
  intro c c' halike
  rw [InferenceFn.run, InferenceFn.run, h c c' halike, halike.outputs]

/-- The second function starts from the slots that the first one leaves, which are the same. -/
theorem Reads.andThen (hf : f.Reads names) (hg : g.Reads names) :
    (InferenceFn.andThen f g).Reads names := by
  intro c c' halike
  have hsecond : g { c with outputs := (f c').slots } = g { c' with outputs := (f c').slots } :=
    hg _ _ ⟨halike.attribute?, halike.inputs, rfl⟩
  simp only [InferenceFn.andThen, hf c c' halike, hsecond]

end InferenceFn

theorem OpSchema.reads_infer {s : OpSchema} {names : Set String}
    (h : ∀ f, s.inference? = some f → f.Reads names) : s.infer.Reads names := by
  refine InferenceFn.Reads.run ?_
  cases hf : s.inference? with
  | none => exact InferenceFn.reads_idle
  | some f => exact h f hf

/-! ## What a node shows -/

/-- What inference finds under a name: the attribute that is set, or the declared default. -/
def OpSchema.shown (s : OpSchema) (given : List Attribute) (name : String) : Option Attribute :=
  (given.find? (·.name == name)).or ((s.attribute? name).bind (·.default?))

theorem find?_key_eq_none {α : Type} {key : α → String} {xs : List α} {k : String}
    (h : k ∉ xs.map key) : xs.find? (key · == k) = none := by
  rw [List.find?_eq_none]
  intro x hx hkey
  exact h (List.mem_map.mpr ⟨x, hx, eq_of_beq hkey⟩)

/-- Where keys are distinct, what is found by a key does not depend on the order. -/
theorem find?_key_perm {α : Type} {key : α → String} {xs ys : List α} (hperm : xs.Perm ys)
    (h : (xs.map key).Nodup) (k : String) : xs.find? (key · == k) = ys.find? (key · == k) := by
  have h' : (ys.map key).Nodup := (hperm.map key).nodup_iff.mp h
  ext x
  rw [find?_key_eq_some_iff h, find?_key_eq_some_iff h', hperm.mem_iff]

theorem OpSchema.shown_perm {s : OpSchema} {as as' : List Attribute} (hperm : as.Perm as')
    (h : (as.map (·.name)).Nodup) (name : String) : s.shown as name = s.shown as' name := by
  rw [shown, shown, find?_key_perm hperm h]

section

variable {s : OpSchema} (hs : s.AttributesNamed) {n : Node}

include hs

/-- **Inference finds what the node shows.** -/
theorem attribute?_nodeContext (h : (n.attributes.map (·.name)).Nodup)
    (inputs : List (Option ValueType)) (name : String) :
    (nodeContext s n inputs).attribute? name = s.shown n.attributes name :=
  attribute?_of_settings hs h rfl name

/-- Nodes that show the same are seen alike. -/
theorem alike_nodeContext {as : List Attribute} (h : (n.attributes.map (·.name)).Nodup)
    (h' : (as.map (·.name)).Nodup) {names : Set String}
    (hshown : ∀ name ∈ names, s.shown n.attributes name = s.shown as name)
    (inputs : List (Option ValueType)) :
    (nodeContext s n inputs).Alike names
      (nodeContext s { n with attributes := as } inputs) := by
  refine ⟨fun name hname => ?_, rfl, rfl⟩
  have hreads' := attribute?_nodeContext hs (n := { n with attributes := as }) h' inputs name
  rw [attribute?_nodeContext hs h, hshown name hname, hreads']

end

/-! ## The stages depend on nothing else -/

section

variable {strict strict' : Bool} {s : OpSchema}

/-- **One step of the check** — an attribute is refused, or those after it decide. -/
theorem checkAttributesFrom_cons (seen : List String) (a : Attribute) (as : List Attribute) :
    checkAttributesFrom strict s seen (a :: as)
      = if a.name ∈ seen then .error (.attributeRepeated a.name)
        else match s.attribute? a.name with
          | none =>
            if strict then .error (.attributeUndeclared a.name)
            else checkAttributesFrom strict s (a.name :: seen) as
          | some spec =>
            if a.type ≠ spec.type then .error (.attributeType a.name spec.type a.type)
            else checkAttributesFrom strict s (a.name :: seen) as := by
  have hcontains : seen.contains a.name = true ↔ a.name ∈ seen := List.contains_iff_mem
  rw [checkAttributesFrom]
  by_cases hseen : a.name ∈ seen
  · rw [if_pos (hcontains.mpr hseen), if_pos hseen]
    rfl
  · rw [if_neg (mt hcontains.mp hseen), if_neg hseen]
    cases s.attribute? a.name <;> rfl

/-- Of the names seen before, only those count that come again. -/
theorem checkAttributesFrom_congr_seen : ∀ {as : List Attribute} {seen seen' : List String},
    (∀ a ∈ as, a.name ∈ seen ↔ a.name ∈ seen') →
      checkAttributesFrom strict s seen as = checkAttributesFrom strict s seen' as
  | [], _, _, _ => rfl
  | a :: as, seen, seen', h => by
    obtain ⟨ha, has⟩ := List.forall_mem_cons.mp h
    have hrest : checkAttributesFrom strict s (a.name :: seen) as
        = checkAttributesFrom strict s (a.name :: seen') as := by
      refine checkAttributesFrom_congr_seen fun b hb => ?_
      rw [List.mem_cons, List.mem_cons, has b hb]
    simp only [checkAttributesFrom_cons, ha, hrest]

/-- The check depends on the walk, and on which required attributes are set. -/
theorem checkAttributes_congr {as as' : List Attribute}
    (hwalk : checkAttributesFrom strict s [] as = checkAttributesFrom strict' s [] as')
    (hrequired : ∀ spec ∈ s.attributes, spec.required = true →
      ((∃ a ∈ as, a.name = spec.name) ↔ ∃ a ∈ as', a.name = spec.name)) :
    checkAttributes strict s as = checkAttributes strict' s as' := by
  have hmissing : (s.attributes.find? fun spec => spec.required && !as.any (·.name == spec.name))
      = s.attributes.find? fun spec => spec.required && !as'.any (·.name == spec.name) := by
    have hset (xs : List Attribute) (spec : AttributeSpec) :
        xs.any (·.name == spec.name) = true ↔ ∃ a ∈ xs, a.name = spec.name := by simp
    refine List.find?_congr fun spec hspec => ?_
    cases hneeded : spec.required with
    | false => rfl
    | true =>
      have hsame : as.any (·.name == spec.name) = as'.any (·.name == spec.name) := by
        rw [Bool.eq_iff_iff, hset, hset, hrequired spec hspec hneeded]
      rw [hsame]
  rw [checkAttributes, checkAttributes, hwalk, hmissing]

/-- **A schema treats two nodes alike** if it says the same of their attributes, and if they show
the same under the names that its inference reads. -/
theorem checkAgainst_congr (hs : s.AttributesNamed) {names : Set String}
    (hreads : s.infer.Reads names) {n : Node} {as : List Attribute}
    (hattributes : checkAttributes strict s n.attributes = checkAttributes strict' s as)
    (hshown : ∀ name ∈ names, s.shown n.attributes name = s.shown as name)
    (inputs : List (Option ValueType)) :
    checkAgainst strict s n inputs
      = checkAgainst strict' s { n with attributes := as } inputs := by
  rw [checkAgainst, checkAgainst, ← hattributes]
  cases hpass : checkAttributes strict s n.attributes with
  | error e => rfl
  | ok u =>
    have h := (checkAttributes_eq_ok_iff.mp hpass).1
    have h' := (checkAttributes_eq_ok_iff.mp (hattributes ▸ hpass)).1
    rw [hreads _ _ (alike_nodeContext hs h h' hshown inputs)]

end

/-- The result of a node depends on the schema that is found, and on what that says of the node. -/
theorem Checker.checkNode_congr {c : Checker} {strict strict' : Bool} {n : Node}
    {as : List Attribute} {inputs : List (Option ValueType)} {version : Int}
    (h : ∀ s, c.lookup n.domain n.op (c.opset version) = some s →
      checkAgainst strict s n inputs
        = checkAgainst strict' s { n with attributes := as } inputs) :
    (c.withStrict strict).checkNode n inputs version
      = (c.withStrict strict').checkNode { n with attributes := as } inputs version := by
  have hopset (b : Bool) : (c.withStrict b).opset version = c.opset version := rfl
  have hlookup (b : Bool) : (c.withStrict b).lookup = c.lookup := rfl
  have hstrict (b : Bool) : (c.withStrict b).strict = b := rfl
  simp only [checkNode, hopset, hlookup, hstrict]
  cases hfound : c.lookup n.domain n.op (c.opset version) with
  | none => rfl
  | some s =>
    simp only [h s hfound]
    rfl

end TensorGraph
