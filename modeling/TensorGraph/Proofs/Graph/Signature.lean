import TensorGraph.Proofs.Graph.TypeVariables

/-!
# Proofs/Graph/Signature — inputs pass exactly if they fit the declared signature

    declared     T         tensor(int64)     T         U
    given        float     int64             ?         bool
    bound        T float   T float           T float   T float, U bool

Inputs are checked from the first to the last, each against the bindings that those before it left.
Whether they pass does not depend on that order: it takes that every input suits its parameter by
itself (`Suits`), and that no two known element types stand for one type variable.  The walk keeps
what a variable is bound to and what the inputs still to come show for it in one hand
(`Claimed`), and one step moves an element type from the second to the first
(`Binds.claimed_iff`).
-/

namespace TensorGraph

/-- What holds at all positions of a list holds at the first and at those after it. -/
theorem forall_getElem?_cons_iff {α : Type} {P : Nat → α → Prop} {x : α} {xs : List α} :
    (∀ i y, (x :: xs)[i]? = some y → P i y) ↔
      P 0 x ∧ ∀ i y, xs[i]? = some y → P (i + 1) y := by
  constructor
  · intro h
    exact ⟨h 0 x rfl, fun i y hy => h (i + 1) y hy⟩
  · rintro ⟨hx, hxs⟩ i y hy
    cases i with
    | zero =>
      obtain rfl : x = y := by simpa using hy
      exact hx
    | succ i => exact hxs i y hy

/-! ## One input -/

/-- A value suits a parameter, whatever is given for the others: it is not set or a tensor, and an
element type that is known is the declared one, or one that the type variable allows. -/
structure Suits (s : OpSchema) (p : Parameter) (t : ValueType) : Prop where
  kind : t.kind = .notSet ∨ t.kind = .tensor
  concrete : t.kind = .tensor → t.dtype ≠ .invalid → p.IsConcrete s.constraints →
    t.dtype = p.dtype
  allowed : ∀ v ∈ s.constraints, ∀ e, ShowsAt v.name p t e → v.allows e = true

/-- An element type is bound to a type variable, or one of the values given for parameters shows
it. -/
def Claimed (name : String) (b : Bindings) (ps : List Parameter) (inputs : List (Option ValueType))
    (e : DType) : Prop :=
  b.lookup name = some e ∨ Shows name ps inputs e

section

variable {s : OpSchema} {p : Parameter} {t : ValueType} {b b' : Bindings} {index : Nat}

theorem Parameter.IsConcrete.isVariable_eq (h : p.IsConcrete s.constraints) :
    p.isVariable = false :=
  beq_false_of_ne h.known

/-- What binds, passes. -/
theorem Binds.checkInput (h : Binds s p t b b') :
    checkInput s index p (some t) b = .ok b' := by
  cases h with
  | unset hkind => simp [TensorGraph.checkInput, hkind]
  | unknown hkind hdtype => simp [TensorGraph.checkInput, hkind, hdtype, ValueType.isTensor]
  | concrete hkind hknown hconcrete hdtype =>
    simp [TensorGraph.checkInput, hkind, ValueType.isTensor, hconcrete, hdtype]
  | first hkind hknown hvariable hv hallows hfree =>
    simp [TensorGraph.checkInput, hkind, hknown, ValueType.isTensor, hvariable, hv, hallows, hfree]
  | again hkind hknown hvariable hv hallows hbound =>
    simp [TensorGraph.checkInput, hkind, hknown, ValueType.isTensor, hvariable, hv, hallows, hbound]

variable (hs : s.WellFormed) (hp : p ∈ s.inputs)
include hs hp

theorem Binds.suits (h : Binds s p t b b') : Suits s p t where
  kind := by
    cases h with
    | unset hkind => exact .inl hkind
    | _ hkind => exact .inr hkind
  concrete := by
    intro htensor hknown hconcrete
    cases h with
    | unset hkind => cases hkind.symm.trans htensor
    | unknown _ hdtype => exact absurd hdtype hknown
    | concrete _ _ _ hdtype => exact hdtype
    | first _ _ hvariable => cases hconcrete.isVariable_eq.symm.trans hvariable
    | again _ _ hvariable => cases hconcrete.isVariable_eq.symm.trans hvariable
  allowed := by
    intro v hv e hshows
    exact h.allows (hs.isVariable hv .input p hp) hshows (hs.constraint?_eq hv)

/-- **Progress** — a value that suits its parameter, and shows nothing but what its type variable
is bound to, passes. -/
theorem Suits.exists_binds (h : Suits s p t)
    (hbound : ∀ v ∈ s.constraints, ∀ e bound,
      ShowsAt v.name p t e → b.lookup v.name = some bound → bound = e) :
    ∃ b', Binds s p t b b' := by
  rcases h.kind with hunset | htensor
  · exact ⟨b, .unset hunset⟩
  by_cases hknown : t.dtype = .invalid
  · exact ⟨b, .unknown htensor hknown⟩
  have hwf := hs.parameters .input p hp
  rcases hwf.typed with hconcrete | hgeneric
  · have hdtype := h.concrete htensor hknown hconcrete
    exact ⟨b, .concrete htensor hknown hconcrete.isVariable_eq hdtype⟩
  have hvariable := hwf.isVariable_iff.mpr hgeneric
  obtain ⟨v, ⟨hv, hname⟩, -⟩ := hgeneric.named
  have hshows : ShowsAt v.name p t t.dtype := ⟨hname.symm, htensor, rfl, hknown⟩
  have hallows := h.allowed v hv t.dtype hshows
  have hv? := hs.constraint?_eq hv
  rw [hname] at hv?
  cases hlookup : b.lookup p.typeText with
  | none => exact ⟨_, .first htensor hknown hvariable hv? hallows hlookup⟩
  | some bound =>
    obtain rfl := hbound v hv t.dtype bound hshows (hname ▸ hlookup)
    exact ⟨b, .again htensor hknown hvariable hv? hallows hlookup⟩

end

/-! ## All inputs -/

/-- Each of the values given for parameters suits its own. -/
def SuitEach (s : OpSchema) (ps : List Parameter) (inputs : List (Option ValueType)) : Prop :=
  ∀ (i : Nat) p, ps[i]? = some p → ∃ t, inputs[i]? = some (some t) ∧ Suits s p t

/-- No type variable has two element types that claim it. -/
def Undisputed (s : OpSchema) (b : Bindings) (ps : List Parameter)
    (inputs : List (Option ValueType)) : Prop :=
  ∀ v ∈ s.constraints, ∀ e e',
    Claimed v.name b ps inputs e → Claimed v.name b ps inputs e' → e = e'

section

variable {s : OpSchema} {p : Parameter} {ps : List Parameter} {t : ValueType}
  {inputs : List (Option ValueType)} {b b' final : Bindings} {index : Nat} {name : String}

theorem claimed_nil_iff {e : DType} : Claimed name [] ps inputs e ↔ Shows name ps inputs e := by
  simp [Claimed]

theorem suitEach_cons_iff :
    SuitEach s (p :: ps) inputs ↔
      (∃ t, inputs.head?.join = some t ∧ Suits s p t) ∧ SuitEach s ps inputs.tail := by
  rw [SuitEach, forall_getElem?_cons_iff, SuitEach]
  simp only [List.head?_eq_getElem?, Option.join_eq_some_iff, List.getElem?_tail]

/-- **One step** — checking an input leaves the claims to a type variable as they are. -/
theorem Binds.claimed_iff (h : Binds s p t b b') (hp : p.typeText = name → p.isVariable = true)
    (ht : inputs.head?.join = some t) {e : DType} :
    Claimed name b' ps inputs.tail e ↔ Claimed name b (p :: ps) inputs e := by
  rw [Claimed, Claimed, h.lookup_iff hp, shows_cons_iff, or_assoc]
  simp [ht]

theorem Binds.undisputed_iff (hs : s.WellFormed) (hp : p ∈ s.inputs) (h : Binds s p t b b')
    (ht : inputs.head?.join = some t) :
    Undisputed s b' ps inputs.tail ↔ Undisputed s b (p :: ps) inputs := by
  refine forall₂_congr fun v hv => forall₂_congr fun e e' => ?_
  have hvariable := hs.isVariable hv .input p hp
  rw [h.claimed_iff hvariable ht, h.claimed_iff hvariable ht]

theorem checkInputsFrom_cons_eq_ok_iff :
    checkInputsFrom s index b (p :: ps) inputs = .ok final ↔
      ∃ t b', inputs.head?.join = some t ∧ Binds s p t b b' ∧
        checkInputsFrom s (index + 1) b' ps inputs.tail = .ok final := by
  refine ⟨checkInputsFrom_cons, ?_⟩
  rintro ⟨t, b', ht, hbinds, hrest⟩
  rw [checkInputsFrom, ht, hbinds.checkInput, ok_bind]
  exact hrest

end

/-- **All inputs** — they pass exactly if each suits its parameter and no type variable is
disputed. -/
theorem exists_checkInputsFrom_iff {s : OpSchema} (hs : s.WellFormed) :
    ∀ {ps : List Parameter} {index : Nat} {inputs : List (Option ValueType)} {b : Bindings},
      (∀ p ∈ ps, p ∈ s.inputs) →
        ((∃ final, checkInputsFrom s index b ps inputs = .ok final) ↔
          SuitEach s ps inputs ∧ Undisputed s b ps inputs)
  | [], index, inputs, b, _ => by
    refine iff_of_true ⟨b, rfl⟩ ⟨fun i p hp => by simp at hp, fun v _ e e' he he' => ?_⟩
    simp only [Claimed, not_shows_nil, or_false] at he he'
    exact Option.some.inj (he.symm.trans he')
  | p :: ps, index, inputs, b, hps => by
    have hp : p ∈ s.inputs := hps p List.mem_cons_self
    have hrest : ∀ q ∈ ps, q ∈ s.inputs := fun q hq => hps q (List.mem_cons_of_mem p hq)
    rw [suitEach_cons_iff]
    constructor
    · rintro ⟨final, hfinal⟩
      obtain ⟨t, b', ht, hbinds, hfinal⟩ := checkInputsFrom_cons hfinal
      obtain ⟨heach, hone⟩ := (exists_checkInputsFrom_iff hs hrest).mp ⟨final, hfinal⟩
      exact ⟨⟨⟨t, ht, hbinds.suits hs hp⟩, heach⟩, (hbinds.undisputed_iff hs hp ht).mp hone⟩
    · rintro ⟨⟨⟨t, ht, hsuits⟩, heach⟩, hone⟩
      -- the binding of a variable and what this input shows for it are two claims
      obtain ⟨b', hbinds⟩ := hsuits.exists_binds hs hp fun v hv e bound hshows hlookup =>
        hone v hv bound e (.inl hlookup) (.inr (shows_cons_iff.mpr (.inl ⟨t, ht, hshows⟩)))
      obtain ⟨final, hfinal⟩ := (exists_checkInputsFrom_iff hs hrest).mpr
        ⟨heach, (hbinds.undisputed_iff hs hp ht).mpr hone⟩
      exact ⟨final, checkInputsFrom_cons_eq_ok_iff.mpr ⟨t, b', ht, hbinds, hfinal⟩⟩

/-- What an input binds is a type variable. -/
theorem Binds.lookup_or_constraint {s : OpSchema} {p : Parameter} {t : ValueType} {b b' : Bindings}
    {name : String} {e : DType} (h : Binds s p t b b') (hlookup : b'.lookup name = some e) :
    b.lookup name = some e ∨ ∃ v ∈ s.constraints, v.name = name := by
  cases h with
  | @first _ _ _ v hv _ _ =>
    rw [List.lookup_cons] at hlookup
    by_cases hname : name = p.typeText
    · have hnamed : v.name = p.typeText := by simpa using List.find?_some hv
      exact .inr ⟨v, List.mem_of_find?_eq_some hv, hnamed.trans hname.symm⟩
    · rw [beq_false_of_ne hname] at hlookup
      exact .inl hlookup
  | _ => exact .inl hlookup

/-- **Nothing but type variables is bound.** -/
theorem lookup_or_constraint_of_checkInputsFrom {s : OpSchema} {name : String} {e : DType} :
    ∀ {ps : List Parameter} {index : Nat} {inputs : List (Option ValueType)} {b final : Bindings},
      checkInputsFrom s index b ps inputs = .ok final → final.lookup name = some e →
        b.lookup name = some e ∨ ∃ v ∈ s.constraints, v.name = name
  | [], _, _, b, final, h, hlookup => by
    obtain rfl : b = final := Except.ok.inj h
    exact .inl hlookup
  | p :: ps, index, inputs, b, final, h, hlookup => by
    obtain ⟨t, b', -, hbinds, hrest⟩ := checkInputsFrom_cons h
    rcases lookup_or_constraint_of_checkInputsFrom hrest hlookup with hbound | hvariable
    · exact hbinds.lookup_or_constraint hbound
    · exact .inr hvariable

/-! ## The declared signature -/

/-- Inputs fit the declared signature: there is one for each parameter, a tensor or not set; what is
declared with a concrete type has that element type, and what is declared with one type variable has
one element type, which the variable allows.  A tensor of unknown element type fits anywhere. -/
structure OpSchema.Fits (s : OpSchema) (inputs : List (Option ValueType)) : Prop where
  count : inputs.length = s.inputs.length
  given : ∀ input ∈ inputs, ∃ t, input = some t ∧ (t.kind = .notSet ∨ t.kind = .tensor)
  concrete : ∀ (i : Nat) p t, s.inputs[i]? = some p → inputs[i]? = some (some t) →
    p.IsConcrete s.constraints → t.kind = .tensor → t.dtype ≠ .invalid → t.dtype = p.dtype
  uniform : ∀ v ∈ s.constraints, Uniform v (Shows v.name s.inputs inputs)

section

variable {s : OpSchema} {inputs : List (Option ValueType)}

theorem OpSchema.Fits.suitEach (h : s.Fits inputs) : SuitEach s s.inputs inputs := by
  intro i p hp
  have hi : i < inputs.length := h.count ▸ (List.getElem?_eq_some_iff.mp hp).1
  obtain ⟨t, ht, hkind⟩ := h.given inputs[i] (List.getElem_mem hi)
  have hinput : inputs[i]? = some (some t) := by rw [List.getElem?_eq_getElem hi, ht]
  refine ⟨t, hinput, hkind, ?_, fun v hv e hshows => ?_⟩
  · exact fun htensor hknown hconcrete => h.concrete i p t hp hinput hconcrete htensor hknown
  · exact (h.uniform v hv).allowed e ⟨i, p, t, hp, hinput, hshows⟩

theorem SuitEach.length_le (h : SuitEach s s.inputs inputs) : s.inputs.length ≤ inputs.length := by
  by_contra hlt
  obtain ⟨t, ht, -⟩ := h inputs.length _ (List.getElem?_eq_getElem (not_le.mp hlt))
  simp at ht

theorem SuitEach.fits (h : SuitEach s s.inputs inputs) (hcount : inputs.length ≤ s.inputs.length)
    (hone : Undisputed s [] s.inputs inputs) : s.Fits inputs where
  count := le_antisymm hcount h.length_le
  given := by
    intro input hinput
    obtain ⟨i, hi, rfl⟩ := List.getElem_of_mem hinput
    obtain ⟨t, ht, hsuits⟩ := h i _ (List.getElem?_eq_getElem (hi.trans_le hcount))
    rw [List.getElem?_eq_getElem hi] at ht
    exact ⟨t, Option.some.inj ht, hsuits.kind⟩
  concrete := by
    intro i p t hp ht hconcrete htensor hknown
    obtain ⟨u, hu, hsuits⟩ := h i p hp
    obtain rfl : t = u := by simpa [ht] using hu
    exact hsuits.concrete htensor hknown hconcrete
  uniform := by
    intro v hv
    refine ⟨fun e e' he he' => ?_, ?_⟩
    · exact hone v hv e e' (claimed_nil_iff.mpr he) (claimed_nil_iff.mpr he')
    · rintro e ⟨i, p, t, hp, ht, hshows⟩
      obtain ⟨u, hu, hsuits⟩ := h i p hp
      obtain rfl : t = u := by simpa [ht] using hu
      exact hsuits.allowed v hv e hshows

theorem OpSchema.Fits.undisputed (h : s.Fits inputs) : Undisputed s [] s.inputs inputs := by
  intro v hv e e' he he'
  exact (h.uniform v hv).same e e' (claimed_nil_iff.mp he) (claimed_nil_iff.mp he')

theorem exists_checkInputs_iff (hs : s.WellFormed) :
    (∃ bindings, checkInputs s inputs = .ok bindings) ↔ s.Fits inputs := by
  simp only [checkInputs, guard_eq_ok_iff, exists_and_left, not_lt,
    exists_checkInputsFrom_iff hs fun _ hp => hp]
  exact ⟨fun ⟨hcount, heach, hone⟩ => heach.fits hcount hone,
    fun h => ⟨h.count.le, h.suitEach, h.undisputed⟩⟩

theorem exists_constraint_of_lookup {bindings : Bindings} {variableName : String} {e : DType}
    (h : checkInputs s inputs = .ok bindings) (hlookup : bindings.lookup variableName = some e) :
    ∃ v ∈ s.constraints, v.name = variableName := by
  obtain ⟨-, hfrom⟩ := guard_eq_ok_iff.mp h
  exact (lookup_or_constraint_of_checkInputsFrom hfrom hlookup).resolve_left (by simp)

end

/-- **Inputs pass exactly if they fit the declared signature**, whichever comes first.  They then
bind a type variable to the element type that tensors declared with it have, if one of them has a
known one, and bind nothing else. -/
theorem checkInputs_iff_fits {name : String} {decls : List Declaration} {s : OpSchema}
    (hbuild : ((Draft.new name).declareAll decls).build = .ok s)
    (inputs : List (Option ValueType)) :
    ((∃ bindings, checkInputs s inputs = .ok bindings) ↔ s.Fits inputs) ∧
    ∀ bindings, checkInputs s inputs = .ok bindings → ∀ variableName e,
      bindings.lookup variableName = some e ↔
        (∃ v ∈ s.constraints, v.name = variableName) ∧ Shows variableName s.inputs inputs e := by
  have hs := Draft.wellFormed_of_build hbuild
  refine ⟨exists_checkInputs_iff hs, fun bindings hbindings variableName e => ?_⟩
  constructor
  · intro hlookup
    obtain ⟨v, hv, rfl⟩ := exists_constraint_of_lookup hbindings hlookup
    exact ⟨⟨v, hv, rfl⟩, (lookup_checkInputs_iff hs hv hbindings).mp hlookup⟩
  · rintro ⟨⟨v, hv, rfl⟩, hshows⟩
    exact (lookup_checkInputs_iff hs hv hbindings).mpr hshows

/-- A condition, and two values of one type to choose from. -/
def whereDeclarations : List Declaration := [
  .parameter .input 0 "condition" "" "tensor(bool)",
  .parameter .input 1 "x" "" "T",
  .parameter .input 2 "y" "" "T",
  .parameter .output 0 "chosen" "" "T",
  .constraint "T" allNumericTypes ""]

/-- The second of two values settles their type where the first leaves it open, and two values of
different types are refused. -/
theorem checkInputs_iff_fits_where :
    let vague : List (Option ValueType) :=
      [some (.tensor .bool), some ⟨.tensor, .invalid, some []⟩, some (.tensor .float32)]
    let mixed : List (Option ValueType) :=
      [some .unset, some (.tensor .int64), some (.tensor .float32)]
    ∃ s, ((Draft.new "Where").declareAll whereDeclarations).build = .ok s ∧
      s.Fits vague ∧ Shows "T" s.inputs vague .float32 ∧ ¬ s.Fits mixed := by
  intro vague mixed
  have hbuild : ∃ s, ((Draft.new "Where").declareAll whereDeclarations).build = .ok s := ⟨_, rfl⟩
  obtain ⟨s, hs⟩ := hbuild
  have hvague : checkInputs s vague = .ok [("T", .float32)] := by
    cases hs
    rfl
  have hmixed : ∃ e, checkInputs s mixed = .error e := by
    cases hs
    exact ⟨_, rfl⟩
  obtain ⟨hfits, hbound⟩ := checkInputs_iff_fits hs vague
  refine ⟨s, hs, hfits.mp ⟨_, hvague⟩, ((hbound _ hvague "T" .float32).mp rfl).2, fun hfits' => ?_⟩
  obtain ⟨bindings, hbindings⟩ := (checkInputs_iff_fits hs mixed).1.mpr hfits'
  obtain ⟨e, he⟩ := hmixed
  cases he.symm.trans hbindings

end TensorGraph
