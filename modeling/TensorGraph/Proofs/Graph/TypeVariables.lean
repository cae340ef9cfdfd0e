import TensorGraph.Proofs.Graph.Attributes
import TensorGraph.Proofs.Schema.WellFormed

/-!
# Proofs/Graph/TypeVariables — where all uses of a type variable agree

    inputs     float   ?   float       bound to float: outputs are float, or refused
    inputs     ?       ?   ?           not bound: outputs are what inference left

Checking the inputs binds a type variable to the element type of the tensors declared with it, and
completing the outputs compares with what is bound.  A variable that no input binds is compared
with nothing.  So all tensors declared with a variable have one element type, which the variable
allows, exactly if an input binds it or inference itself sees to it (`uniform_iff`).
-/

namespace TensorGraph

/-! ## The element types that tensors show for a variable -/

/-- A value declared by a parameter shows an element type for a type variable: it is a tensor whose
element type is known, and the parameter is declared with the variable. -/
structure ShowsAt (name : String) (p : Parameter) (t : ValueType) (e : DType) : Prop where
  declared : p.typeText = name
  tensor : t.kind = .tensor
  dtype : t.dtype = e
  known : e ≠ .invalid

/-- One of several values shows an element type for a type variable. -/
def Shows (name : String) (ps : List Parameter) (ts : List (Option ValueType)) (e : DType) : Prop :=
  ∃ (i : Nat) (p : Parameter) (t : ValueType),
    ps[i]? = some p ∧ ts[i]? = some (some t) ∧ ShowsAt name p t e

/-- The element types shown for a type variable are one and the same, and the variable allows
it. -/
structure Uniform (v : TypeConstraint) (shown : DType → Prop) : Prop where
  same : ∀ e e', shown e → shown e' → e = e'
  allowed : ∀ e, shown e → v.allows e = true

theorem Shows.known {name : String} {ps : List Parameter} {ts : List (Option ValueType)} {e : DType}
    (h : Shows name ps ts e) : e ≠ .invalid := by
  obtain ⟨_, _, _, -, -, hat⟩ := h
  exact hat.known

theorem not_shows_nil {name : String} {ts : List (Option ValueType)} {e : DType} :
    ¬ Shows name [] ts e := by
  rintro ⟨i, p, t, hp, -⟩
  simp at hp

theorem not_shows_of_nil {name : String} {ps : List Parameter} {e : DType} :
    ¬ Shows name ps [] e := by
  rintro ⟨i, p, t, -, ht, -⟩
  simp at ht

theorem shows_cons_iff {name : String} {p : Parameter} {ps : List Parameter}
    {ts : List (Option ValueType)} {e : DType} :
    Shows name (p :: ps) ts e ↔
      (∃ t, ts.head?.join = some t ∧ ShowsAt name p t e) ∨ Shows name ps ts.tail e := by
  constructor
  · rintro ⟨i, q, t, hq, ht, hshows⟩
    cases i with
    | zero =>
      obtain rfl : p = q := by simpa using hq
      exact .inl ⟨t, by simp [List.head?_eq_getElem?, ht], hshows⟩
    | succ i => exact .inr ⟨i, q, t, by simpa using hq, by simpa using ht, hshows⟩
  · rintro (⟨t, ht, hshows⟩ | ⟨i, q, t, hq, ht, hshows⟩)
    · refine ⟨0, p, t, rfl, ?_, hshows⟩
      rw [← List.head?_eq_getElem?]
      exact Option.join_eq_some_iff.mp ht
    · exact ⟨i + 1, q, t, by simpa using hq, by simpa using ht, hshows⟩

/-! ## What inputs bind -/

/-- What one input does to the bindings, where it passes. -/
inductive Binds (s : OpSchema) (p : Parameter) (t : ValueType) (b : Bindings) : Bindings → Prop
  | unset (hkind : t.kind = .notSet) : Binds s p t b b
  | unknown (hkind : t.kind = .tensor) (hdtype : t.dtype = .invalid) : Binds s p t b b
  | concrete (hkind : t.kind = .tensor) (hknown : t.dtype ≠ .invalid)
      (hconcrete : p.isVariable = false) (hdtype : t.dtype = p.dtype) : Binds s p t b b
  | first (hkind : t.kind = .tensor) (hknown : t.dtype ≠ .invalid) (hvariable : p.isVariable = true)
      {v : TypeConstraint} (hv : s.constraint? p.typeText = some v) (hallows : v.allows t.dtype = true)
      (hfree : b.lookup p.typeText = none) : Binds s p t b ((p.typeText, t.dtype) :: b)
  | again (hkind : t.kind = .tensor) (hknown : t.dtype ≠ .invalid) (hvariable : p.isVariable = true)
      {v : TypeConstraint} (hv : s.constraint? p.typeText = some v) (hallows : v.allows t.dtype = true)
      (hbound : b.lookup p.typeText = some t.dtype) : Binds s p t b b

section

variable {s : OpSchema} {index : Nat} {p : Parameter} {t : ValueType} {b b' : Bindings}

/-- A tensor of known element type that is declared with a variable passes if the variable allows
its element type and is not bound to another one. -/
theorem binds_of_variable (hkind : t.kind = .tensor) (hknown : t.dtype ≠ .invalid)
    (hvariable : p.isVariable = true) (h : checkInput s index p (some t) b = .ok b') :
    Binds s p t b b' := by
  simp only [checkInput, hkind, ValueType.isTensor, hknown, hvariable, beq_self_eq_true,
    Bool.not_true, Bool.false_eq_true, reduceCtorEq, if_false, guard_eq_ok_iff] at h
  obtain ⟨hallows, h⟩ := h
  cases hv : s.constraint? p.typeText with
  | none => simp [hv, TypeConstraint.allows] at hallows
  | some v =>
    have hallows : v.allows t.dtype = true := by simpa [hv] using hallows
    cases hbound : b.lookup p.typeText with
    | none =>
      rw [hbound] at h
      obtain rfl := Except.ok.inj h
      exact .first hkind hknown hvariable hv hallows hbound
    | some bound =>
      rw [hbound] at h
      by_cases hsame : bound = t.dtype
      · obtain rfl := Except.ok.inj ((if_pos hsame).symm.trans h)
        exact .again hkind hknown hvariable hv hallows (hsame ▸ hbound)
      · cases (if_neg hsame).symm.trans h

/-- **An input that passes binds its variable or changes nothing.** -/
theorem binds_of_checkInput (h : checkInput s index p (some t) b = .ok b') : Binds s p t b b' := by
  by_cases hvalue : t.kind = .tensor ∧ t.dtype ≠ .invalid ∧ p.isVariable = true
  · obtain ⟨hkind, hknown, hvariable⟩ := hvalue
    exact binds_of_variable hkind hknown hvariable h
  simp only [checkInput] at h
  by_cases hset : t.kind = .notSet
  · rw [if_pos hset] at h
    obtain rfl := Except.ok.inj h
    exact .unset hset
  rw [if_neg hset, guard_eq_ok_iff] at h
  obtain ⟨htensor, h⟩ := h
  have hkind : t.kind = .tensor := by simpa [ValueType.isTensor] using htensor
  by_cases hknown : t.dtype = .invalid
  · rw [if_pos hknown] at h
    obtain rfl := Except.ok.inj h
    exact .unknown hkind hknown
  have hconcrete : p.isVariable = false := by simpa [hkind, hknown] using hvalue
  simp only [hknown, hconcrete, Bool.not_false, if_true, if_false] at h
  by_cases hdtype : t.dtype = p.dtype
  · obtain rfl := Except.ok.inj ((if_pos hdtype).symm.trans h)
    exact .concrete hkind hknown hconcrete hdtype
  · cases (if_neg hdtype).symm.trans h

end

section

variable {s : OpSchema} {p : Parameter} {t : ValueType} {b b' : Bindings} {name : String}

/-- **One step** — after an input, a variable is bound to what it was bound to before or to what
the input shows for it. -/
theorem Binds.lookup_iff (h : Binds s p t b b') (hp : p.typeText = name → p.isVariable = true)
    {e : DType} :
    b'.lookup name = some e ↔ b.lookup name = some e ∨ ShowsAt name p t e := by
  cases h with
  | unset hkind =>
    refine ⟨.inl, fun h => h.resolve_right fun hshows => ?_⟩
    cases hkind.symm.trans hshows.tensor
  | unknown hkind hdtype =>
    refine ⟨.inl, fun h => h.resolve_right fun hshows => ?_⟩
    exact hshows.known (hshows.dtype.symm.trans hdtype)
  | concrete hkind hknown hconcrete hdtype =>
    refine ⟨.inl, fun h => h.resolve_right fun hshows => ?_⟩
    cases hconcrete.symm.trans (hp hshows.declared)
  | again hkind hknown hvariable hv hallows hbound =>
    refine ⟨.inl, fun h => h.elim id fun hshows => ?_⟩
    rw [← hshows.declared, hbound, hshows.dtype]
  | first hkind hknown hvariable hv hallows hfree =>
    rw [List.lookup_cons]
    by_cases hname : p.typeText = name
    · subst hname
      simp only [beq_self_eq_true, hfree, reduceCtorEq, false_or]
      exact ⟨fun h => ⟨rfl, hkind, Option.some.inj h, Option.some.inj h ▸ hknown⟩,
        fun h => congrArg some h.dtype⟩
    · have hne : (name == p.typeText) = false := beq_false_of_ne (Ne.symm hname)
      rw [hne]
      exact ⟨.inl, fun h => h.resolve_right fun hshows => hname hshows.declared⟩

/-- What an input shows for a variable, the variable allows. -/
theorem Binds.allows (h : Binds s p t b b') (hp : p.typeText = name → p.isVariable = true)
    {e : DType} (hshows : ShowsAt name p t e) {v : TypeConstraint}
    (hv : s.constraint? name = some v) : v.allows e = true := by
  obtain ⟨rfl, htensor, rfl, hknown⟩ := hshows
  cases h with
  | unset hkind => cases hkind.symm.trans htensor
  | unknown _ hdtype => exact absurd hdtype hknown
  | concrete _ _ hconcrete _ => cases hconcrete.symm.trans (hp rfl)
  | first _ _ _ hv' hallows _ =>
    obtain rfl := Option.some.inj (hv.symm.trans hv')
    exact hallows
  | again _ _ _ hv' hallows _ =>
    obtain rfl := Option.some.inj (hv.symm.trans hv')
    exact hallows

end

theorem checkInputsFrom_cons {s : OpSchema} {index : Nat} {p : Parameter} {ps : List Parameter}
    {inputs : List (Option ValueType)} {b final : Bindings}
    (h : checkInputsFrom s index b (p :: ps) inputs = .ok final) :
    ∃ t b', inputs.head?.join = some t ∧ Binds s p t b b' ∧
      checkInputsFrom s (index + 1) b' ps inputs.tail = .ok final := by
  rw [checkInputsFrom, bind_eq_ok_iff] at h
  obtain ⟨b', hb', hrest⟩ := h
  cases ht : inputs.head?.join with
  | none => simp [ht, checkInput] at hb'
  | some t =>
    rw [ht] at hb'
    exact ⟨t, b', rfl, binds_of_checkInput hb', hrest⟩

/-- **All inputs** — a variable is bound to what the inputs show for it. -/
theorem lookup_checkInputsFrom_iff {s : OpSchema} {name : String} :
    ∀ {ps : List Parameter} {index : Nat} {inputs : List (Option ValueType)} {b final : Bindings},
      (∀ p ∈ ps, p.typeText = name → p.isVariable = true) →
      checkInputsFrom s index b ps inputs = .ok final → ∀ {e : DType},
        final.lookup name = some e ↔ b.lookup name = some e ∨ Shows name ps inputs e
  | [], index, inputs, b, final, _, h, e => by
    obtain rfl : b = final := Except.ok.inj h
    simp [not_shows_nil]
  | p :: ps, index, inputs, b, final, hps, h, e => by
    obtain ⟨t, b', ht, hbinds, hrest⟩ := checkInputsFrom_cons h
    have hp := hps p List.mem_cons_self
    rw [lookup_checkInputsFrom_iff (fun q hq => hps q (List.mem_cons_of_mem p hq)) hrest,
      hbinds.lookup_iff hp, shows_cons_iff, or_assoc]
    simp [ht]

theorem allows_of_checkInputsFrom {s : OpSchema} {name : String} {v : TypeConstraint}
    (hv : s.constraint? name = some v) {e : DType} :
    ∀ {ps : List Parameter} {index : Nat} {inputs : List (Option ValueType)} {b final : Bindings},
      (∀ p ∈ ps, p.typeText = name → p.isVariable = true) →
      checkInputsFrom s index b ps inputs = .ok final → Shows name ps inputs e → v.allows e = true
  | [], _, _, _, _, _, _, hshows => absurd hshows not_shows_nil
  | p :: ps, index, inputs, b, final, hps, h, hshows => by
    obtain ⟨t, b', ht, hbinds, hrest⟩ := checkInputsFrom_cons h
    rcases shows_cons_iff.mp hshows with ⟨u, hu, hat⟩ | htail
    · obtain rfl := Option.some.inj (ht.symm.trans hu)
      exact hbinds.allows (hps p List.mem_cons_self) hat hv
    · exact allows_of_checkInputsFrom hv (fun q hq => hps q (List.mem_cons_of_mem p hq)) hrest htail

/-! ## What outputs show -/

section

variable {b : Bindings} {index : Nat} {p : Parameter} {t t' : ValueType} {name : String} {e : DType}

/-- Completing an output whose variable is bound leaves no other element type in it. -/
theorem ShowsAt.eq_of_bound (hshows : ShowsAt name p t' e) (hp : p.isVariable = true)
    {bound : DType} (hbound : b.lookup name = some bound) (hknown : bound ≠ .invalid)
    (h : completeOutput b index p t = .ok t') : e = bound := by
  obtain ⟨rfl, htensor, rfl, -⟩ := hshows
  have hexpected : expectedElem b p = bound := by simp [expectedElem, hp, hbound]
  rw [completeOutput] at h
  by_cases hother : t.kind ≠ .notSet ∧ (!t.isTensor) = true
  · rw [if_pos hother] at h
    obtain rfl := Except.ok.inj h
    simp [ValueType.isTensor, htensor] at hother
  simp only [if_neg hother, hexpected, if_neg hknown] at h
  by_cases hunknown : t.dtype = .invalid
  · rw [if_pos hunknown] at h
    obtain rfl := Except.ok.inj h
    rfl
  rw [if_neg hunknown] at h
  by_cases hsame : t.dtype = bound
  · rw [if_pos hsame] at h
    obtain rfl := Except.ok.inj h
    exact hsame
  · rw [if_neg hsame] at h
    cases h

/-- Completing an output whose variable is not bound leaves it as it is. -/
theorem completeOutput_of_unbound (hp : p.isVariable = true) (hfree : b.lookup p.typeText = none) :
    completeOutput b index p t = .ok t := by
  simp [completeOutput, expectedElem, hp, hfree]

end

/-- **A bound variable** — completed outputs show what is bound and nothing else. -/
theorem Shows.eq_of_bound {b : Bindings} {name : String} {e bound : DType}
    (hbound : b.lookup name = some bound) (hknown : bound ≠ .invalid) :
    ∀ {ps : List Parameter} {index : Nat} {ts ts' : List ValueType},
      (∀ p ∈ ps, p.typeText = name → p.isVariable = true) →
      completeOutputsFrom b index ps ts = .ok ts' → Shows name ps (ts'.map some) e → e = bound
  | [], _, _, _, _, _, hshows => absurd hshows not_shows_nil
  | p :: ps, _, [], ts', _, h, hshows => by
    obtain rfl : [] = ts' := Except.ok.inj h
    exact absurd hshows not_shows_of_nil
  | p :: ps, index, t :: ts, ts', hps, h, hshows => by
    simp only [completeOutputsFrom, bind_eq_ok_iff, pure_eq_ok_iff] at h
    obtain ⟨u, hu, us, hus, rfl⟩ := h
    rcases shows_cons_iff.mp hshows with ⟨v, hv, hat⟩ | htail
    · obtain rfl : u = v := by simpa using hv
      exact hat.eq_of_bound (hps p List.mem_cons_self hat.declared) hbound hknown hu
    · exact htail.eq_of_bound hbound hknown (fun q hq => hps q (List.mem_cons_of_mem p hq)) hus

/-- **A free variable** — completed outputs show what they showed before. -/
theorem shows_completeOutputsFrom_iff {b : Bindings} {name : String} {e : DType}
    (hfree : b.lookup name = none) :
    ∀ {ps : List Parameter} {index : Nat} {ts ts' : List ValueType},
      (∀ p ∈ ps, p.typeText = name → p.isVariable = true) →
      completeOutputsFrom b index ps ts = .ok ts' →
        (Shows name ps (ts'.map some) e ↔ Shows name ps (ts.map some) e)
  | [], _, _, _, _, _ => by simp [not_shows_nil]
  | p :: ps, _, [], ts', _, h => by
    obtain rfl : [] = ts' := Except.ok.inj h
    rfl
  | p :: ps, index, t :: ts, ts', hps, h => by
    simp only [completeOutputsFrom, bind_eq_ok_iff, pure_eq_ok_iff] at h
    obtain ⟨u, hu, us, hus, rfl⟩ := h
    have htail := shows_completeOutputsFrom_iff (e := e) hfree
      (fun q hq => hps q (List.mem_cons_of_mem p hq)) hus
    have hhead : ShowsAt name p u e ↔ ShowsAt name p t e := by
      by_cases hname : p.typeText = name
      · rw [completeOutput_of_unbound (hps p List.mem_cons_self hname) (hname ▸ hfree)] at hu
        rw [Except.ok.inj hu]
      · exact ⟨fun h => absurd h.declared hname, fun h => absurd h.declared hname⟩
    simp [shows_cons_iff, htail, hhead]

/-- A slot without a type is none that shows anything. -/
theorem shows_slotTypes_iff {name : String} {ps : List Parameter} {slots : Slots} {e : DType} :
    Shows name ps ((slotTypes slots).map some) e ↔ Shows name ps slots e := by
  constructor
  · rintro ⟨i, p, t, hp, ht, hshows⟩
    simp only [slotTypes, List.map_map, List.getElem?_map, Option.map_eq_some_iff] at ht
    obtain ⟨slot, hslot, ht⟩ := ht
    cases slot with
    | none =>
      obtain rfl : .unset = t := by simpa using ht
      cases hshows.tensor
    | some u =>
      obtain rfl : u = t := by simpa using ht
      exact ⟨i, p, u, hp, hslot, hshows⟩
  · rintro ⟨i, p, t, hp, ht, hshows⟩
    exact ⟨i, p, t, hp, by simp [slotTypes, ht], hshows⟩

/-! ## Nodes -/

namespace OpSchema

/-- What is declared with the name of a type variable is generic. -/
theorem WellFormed.isVariable {s : OpSchema} (hs : s.WellFormed) {v : TypeConstraint}
    (hv : v ∈ s.constraints) (side : Side) :
    ∀ p ∈ s.parameters side, p.typeText = v.name → p.isVariable = true := by
  intro p hp hname
  have hwf := hs.parameters side p hp
  rcases hwf.typed with hconcrete | hgeneric
  · exact absurd hname.symm (hconcrete.unnamed v hv)
  · exact hwf.isVariable_iff.mpr hgeneric

/-- The declaration that a type variable is looked up as. -/
theorem WellFormed.constraint?_eq {s : OpSchema} (hs : s.WellFormed) {v : TypeConstraint}
    (hv : v ∈ s.constraints) : s.constraint? v.name = some v :=
  (find?_key_eq_some_iff hs.constraints_nodup).mpr ⟨hv, rfl⟩

end OpSchema

section

variable {s : OpSchema} {inputs : List (Option ValueType)} {bindings : Bindings}
  {slots types : List ValueType} {v : TypeConstraint}

/-- A variable is bound to what the inputs of a node show for it. -/
theorem lookup_checkInputs_iff (hs : s.WellFormed) (hv : v ∈ s.constraints)
    (hinputs : checkInputs s inputs = .ok bindings) {e : DType} :
    bindings.lookup v.name = some e ↔ Shows v.name s.inputs inputs e := by
  obtain ⟨-, hfrom⟩ := guard_eq_ok_iff.mp hinputs
  simpa [OpSchema.parameters] using lookup_checkInputsFrom_iff (hs.isVariable hv .input) hfrom

/-- Where an input shows an element type for a variable, all uses agree with it. -/
theorem uniform_of_shows (hs : s.WellFormed) (hv : v ∈ s.constraints)
    (hinputs : checkInputs s inputs = .ok bindings)
    (hcomplete : completeOutputs s bindings slots = .ok types)
    {bound : DType} (hbound : Shows v.name s.inputs inputs bound) :
    Uniform v fun e =>
      Shows v.name s.inputs inputs e ∨ Shows v.name s.outputs (types.map some) e := by
  have hlookup := (lookup_checkInputs_iff hs hv hinputs).mpr hbound
  have hallows : v.allows bound = true := by
    obtain ⟨-, hfrom⟩ := guard_eq_ok_iff.mp hinputs
    exact allows_of_checkInputsFrom (hs.constraint?_eq hv) (hs.isVariable hv .input) hfrom hbound
  have heq : ∀ e, Shows v.name s.inputs inputs e ∨ Shows v.name s.outputs (types.map some) e →
      e = bound := by
    rintro e (hinput | houtput)
    · have he := (lookup_checkInputs_iff hs hv hinputs).mpr hinput
      exact Option.some.inj (he.symm.trans hlookup)
    · exact houtput.eq_of_bound hlookup hbound.known (hs.isVariable hv .output) hcomplete
  exact ⟨fun e e' he he' => (heq e he).trans (heq e' he').symm, fun e he => heq e he ▸ hallows⟩

/-- Where no input shows an element type for a variable, the outputs show what they showed before
they were completed. -/
theorem shows_outputs_iff (hs : s.WellFormed) (hv : v ∈ s.constraints)
    (hinputs : checkInputs s inputs = .ok bindings)
    (hcomplete : completeOutputs s bindings slots = .ok types)
    (hnone : ¬ ∃ e, Shows v.name s.inputs inputs e) {e : DType} :
    Shows v.name s.outputs (types.map some) e ↔ Shows v.name s.outputs (slots.map some) e := by
  have hfree : bindings.lookup v.name = none := by
    cases hlookup : bindings.lookup v.name with
    | none => rfl
    | some e => exact absurd ⟨e, (lookup_checkInputs_iff hs hv hinputs).mp hlookup⟩ hnone
  exact shows_completeOutputsFrom_iff hfree (hs.isVariable hv .output) hcomplete

end

/-- **All uses of a type variable agree and are allowed, exactly if an input shows an element type
for it or inference left it so.** -/
theorem Checker.uniform_iff {name : String} {decls : List Declaration} {s : OpSchema}
    (hbuild : ((Draft.new name).declareAll decls).build = .ok s) {c : Checker} {n : Node}
    {inputs : List (Option ValueType)} {version : Int} {types : List ValueType}
    (hlookup : c.lookup n.domain n.op (c.opset version) = some s)
    (h : c.checkNode n inputs version = .ok types) {v : TypeConstraint} (hv : v ∈ s.constraints) :
    (Uniform v fun e =>
        Shows v.name s.inputs inputs e ∨ Shows v.name s.outputs (types.map some) e) ↔
      (∃ e, Shows v.name s.inputs inputs e) ∨
        Uniform v (Shows v.name s.outputs (s.infer (nodeContext s n inputs)).slots) := by
  have hs := Draft.wellFormed_of_build hbuild
  obtain ⟨s', hlookup', hagainst⟩ := Checker.checkNode_eq_ok_iff.mp h
  obtain rfl := Option.some.inj (hlookup.symm.trans hlookup')
  obtain ⟨-, -, -, bindings, hinputs, hcomplete⟩ := checkAgainst_eq_ok_iff.mp hagainst
  by_cases hbound : ∃ e, Shows v.name s.inputs inputs e
  · obtain ⟨e, he⟩ := hbound
    exact iff_of_true (uniform_of_shows hs hv hinputs hcomplete he) (.inl ⟨e, he⟩)
  · have hshown : (fun e =>
        Shows v.name s.inputs inputs e ∨ Shows v.name s.outputs (types.map some) e)
          = Shows v.name s.outputs (s.infer (nodeContext s n inputs)).slots := by
      funext e
      rw [eq_iff_iff, shows_outputs_iff hs hv hinputs hcomplete hbound, shows_slotTypes_iff]
      exact or_iff_right fun he => hbound ⟨e, he⟩
    rw [hshown]
    exact (or_iff_right hbound).symm

/-- A tensor to look into, and where to look. -/
def gatherInputs : List (Option ValueType) :=
  [some ⟨.tensor, .float32, none⟩, some ⟨.tensor, .int64, none⟩]

theorem Checker.uniform_iff_gather :
    ∃ s types v,
      ((Draft.new "Gather").declareAll Draft.gatherDeclarations).build = .ok s ∧
      Checker.checkNode { lookup := fun _ _ _ => some s }
        ⟨"", "Gather", "", ["d", "i"], ["p"], []⟩ gatherInputs 13 = .ok types ∧
      v ∈ s.constraints ∧
      Shows v.name s.outputs (types.map some) .float32 ∧
      Uniform v fun e =>
        Shows v.name s.inputs gatherInputs e ∨ Shows v.name s.outputs (types.map some) e := by
  have hbuild : ∃ s, ((Draft.new "Gather").declareAll Draft.gatherDeclarations).build = .ok s :=
    ⟨_, rfl⟩
  obtain ⟨s, hs⟩ := hbuild
  have hv : ⟨"T", highPrecisionTypes, "Numbers."⟩ ∈ s.constraints := by
    cases hs
    exact List.mem_singleton.mpr rfl
  have hcheck : ∃ types, Checker.checkNode { lookup := fun _ _ _ => some s }
      ⟨"", "Gather", "", ["d", "i"], ["p"], []⟩ gatherInputs 13 = .ok types := by
    cases hs
    exact ⟨_, rfl⟩
  obtain ⟨types, htypes⟩ := hcheck
  refine ⟨s, types, _, hs, htypes, hv, ?_, (uniform_iff hs rfl htypes hv).mpr (.inl ?_)⟩
  · cases hs
    cases htypes
    exact ⟨0, _, _, rfl, rfl, rfl, rfl, rfl, by decide⟩
  · cases hs
    exact ⟨.float32, 0, _, _, rfl, rfl, rfl, rfl, rfl, by decide⟩

/-- One input and two outputs of one type variable, of which inference makes different tensors. -/
def fillDeclarations : List Declaration := [
  .parameter .input 0 "x" "" "T",
  .parameter .output 0 "y" "" "T",
  .parameter .output 1 "z" "" "T",
  .constraint "T" [.float32] "",
  .inference (some fun _ =>
    ⟨[some ⟨.tensor, .bool, none⟩, some ⟨.tensor, .float32, none⟩], none⟩)]

/-- **Where no input binds it, the uses of a type variable can differ**, and can be of a type that
the variable does not allow. -/
theorem Checker.not_uniform_fill :
    ∃ s types v,
      ((Draft.new "Fill").declareAll fillDeclarations).build = .ok s ∧
      Checker.checkNode { lookup := fun _ _ _ => some s }
        ⟨"", "Fill", "", ["x"], ["y", "z"], []⟩ [some .unset] 13 = .ok types ∧
      v ∈ s.constraints ∧
      ¬ Uniform v fun e =>
        Shows v.name s.inputs [some .unset] e ∨ Shows v.name s.outputs (types.map some) e := by
  refine ⟨_, _, ⟨"T", [.float32], ""⟩, rfl, rfl, List.mem_singleton.mpr rfl, fun h => ?_⟩
  have hbool := h.allowed .bool (.inr ⟨0, _, _, rfl, rfl, rfl, rfl, rfl, by decide⟩)
  simp [TypeConstraint.allows] at hbool

end TensorGraph
