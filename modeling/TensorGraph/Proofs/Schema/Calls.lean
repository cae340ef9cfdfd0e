import TensorGraph.Proofs.Schema.Slots

/-!
# Proofs/Schema/Calls — the first refusal decides, and refused calls leave no other trace

    calls      doc   input 1   build   doc        input 0   build      build
    answer                     gap     refused              refused    refused
    holds      doc   doc, 1            doc, 1     doc, 0 1

A draft is served declarations and attempts to build, in any order.  A declaration is refused
exactly if it is not valid by itself or its slot was taken before (`Draft.exists_refuses_iff`), and
a refusal is all that it leaves behind.  The first refusal makes every later attempt to build fail
(`Draft.remembers_of_refuses`).  Without one, an attempt fails exactly if the declarations are not
complete yet (`Complete`), and then it can be repeated with what was missing, since attempts change
nothing.
-/

namespace TensorGraph

/-! ## Calls -/

/-- What can be asked of a draft; a recipe asks for what it consists of, in order. -/
inductive Call where
  | declare (decl : Declaration)
  | build

/-- The declaration that a call makes, if it makes one. -/
def Call.declaration? : Call → Option Declaration
  | .declare decl => some decl
  | .build => none

/-- The declarations among calls. -/
def declarationsOf (calls : List Call) : List Declaration := calls.filterMap Call.declaration?

namespace Draft

/-- What a call leaves of a draft, whether it succeeds or fails. -/
def serve (d : Draft) : Call → Draft
  | .declare decl => d.declare decl
  | .build => make.left d

/-- The draft of an operator after some calls. -/
def afterCalls (name : String) (calls : List Call) : Draft := calls.foldl serve (new name)

/-- After some calls, a declaration is refused for a reason. -/
def Refuses (name : String) (calls : List Call) (decl : Declaration) (e : Refusal) : Prop :=
  (afterCalls name calls).accept decl = .error e

/-- After some calls, a declaration is taken. -/
def Takes (name : String) (calls : List Call) (decl : Declaration) : Prop :=
  ∃ d, (afterCalls name calls).accept decl = .ok d

/-- Some call has set the slot: a declaration that was taken where it came. -/
def Taken (name : String) (calls : List Call) (slot : Slot) : Prop :=
  ∃ before decl, before ++ [.declare decl] <+: calls ∧ Takes name before decl ∧
    decl.slot? = some slot

/-- All declarations were taken where they came. -/
def AllTaken (name : String) (calls : List Call) : Prop :=
  ∀ before decl, before ++ [.declare decl] <+: calls → Takes name before decl

/-- **Building a draft only reads it.** -/
theorem isReadOnly_make : make.IsReadOnly := by
  refine Action.isReadOnly_get_bind fun d => ?_
  cases d.refusal? with
  | some e => exact Action.isReadOnly_throw _
  | none =>
    refine .ite (Action.isReadOnly_throw _) ?_
    exact Action.isReadOnly_ofExcept_bind (fun _ =>
      Action.isReadOnly_ofExcept_bind (fun _ => Action.isReadOnly_pure _) _) _

@[simp] theorem serve_build (d : Draft) : d.serve .build = d := isReadOnly_make d

section

variable {name : String} {calls : List Call} {call : Call} {decl : Declaration}

theorem afterCalls_append_singleton :
    afterCalls name (calls ++ [call]) = (afterCalls name calls).serve call := by
  simp [afterCalls]

theorem declarationsOf_append_singleton :
    declarationsOf (calls ++ [call]) = declarationsOf calls ++ call.declaration?.toList :=
  filterMap_append_singleton _ _ _

/-- **Attempts to build leave no trace**: a draft is what the declarations make of it. -/
theorem afterCalls_eq_declareAll :
    afterCalls name calls = (new name).declareAll (declarationsOf calls) := by
  induction calls using List.reverseRecOn with
  | nil => rfl
  | append_singleton calls call ih =>
    rw [afterCalls_append_singleton, declarationsOf_append_singleton, ih]
    cases call with
    | declare decl => exact (declareAll_append_singleton _ _ decl).symm
    | build => simp [Call.declaration?]

theorem concat_declare_prefix_iff {before : List Call} :
    before ++ [.declare decl] <+: calls ++ [call] ↔
      before = calls ∧ .declare decl = call ∨ before ++ [.declare decl] <+: calls := by
  rw [List.prefix_concat_iff, ← List.concat_eq_append, ← List.concat_eq_append, List.concat_inj]

/-! ## Slots -/

theorem filled_of_refusal (d : Draft) (r : Option Refusal) (slot : Slot) :
    Filled { d with refusal? := r } slot ↔ d.Filled slot := by
  cases slot with
  | parameter side index => cases side <;> rfl
  | _ => rfl

/-- **One call** sets the slot of a declaration that is taken, and no other. -/
theorem filled_declare_iff {d : Draft} {slot : Slot} :
    (d.declare decl).Filled slot ↔
      d.Filled slot ∨ (∃ d', d.accept decl = .ok d') ∧ decl.slot? = some slot := by
  cases h : d.accept decl with
  | ok d' =>
    rw [declare_of_accept h, filled_iff_of_accept h]
    simp
  | error e =>
    rw [declare_of_refused h, filled_of_refusal]
    simp

theorem taken_append_singleton {slot : Slot} :
    Taken name (calls ++ [call]) slot ↔
      Taken name calls slot ∨
        ∃ decl, .declare decl = call ∧ Takes name calls decl ∧ decl.slot? = some slot := by
  simp only [Taken, concat_declare_prefix_iff]
  constructor
  · rintro ⟨before, decl, ⟨rfl, hcall⟩ | hprefix, htakes, hslot⟩
    · exact .inr ⟨decl, hcall, htakes, hslot⟩
    · exact .inl ⟨before, decl, hprefix, htakes, hslot⟩
  · rintro (⟨before, decl, hprefix, htakes, hslot⟩ | ⟨decl, hcall, htakes, hslot⟩)
    · exact ⟨before, decl, .inr hprefix, htakes, hslot⟩
    · exact ⟨calls, decl, .inl ⟨rfl, hcall⟩, htakes, hslot⟩

/-- **All calls** — the slots that are filled are those that were taken. -/
theorem filled_afterCalls_iff {slot : Slot} :
    (afterCalls name calls).Filled slot ↔ Taken name calls slot := by
  induction calls using List.reverseRecOn with
  | nil =>
    refine iff_of_false (not_filled_new slot) ?_
    rintro ⟨before, decl, hprefix, -⟩
    simp at hprefix
  | append_singleton calls call ih =>
    rw [afterCalls_append_singleton, taken_append_singleton, ← ih]
    cases call with
    | declare decl => simp [serve, filled_declare_iff, Takes]
    | build => simp

/-- **A declaration is refused exactly if it is not valid or its slot was taken.** -/
theorem exists_refuses_iff :
    (∃ e, Refuses name calls decl e) ↔
      ¬ decl.Valid ∨ ∃ slot, decl.slot? = some slot ∧ Taken name calls slot := by
  simp only [Refuses, exists_eq_error_iff, exists_accept_iff, filled_afterCalls_iff, not_and_or,
    not_forall, not_not, exists_prop]

/-! ## The first refusal -/

theorem allTaken_append_singleton :
    AllTaken name (calls ++ [call]) ↔
      AllTaken name calls ∧ ∀ decl, .declare decl = call → Takes name calls decl := by
  simp only [AllTaken, concat_declare_prefix_iff]
  constructor
  · intro h
    exact ⟨fun before decl hprefix => h before decl (.inr hprefix),
      fun decl hcall => h calls decl (.inl ⟨rfl, hcall⟩)⟩
  · rintro ⟨hbefore, hlast⟩ before decl (⟨rfl, hcall⟩ | hprefix)
    · exact hlast decl hcall
    · exact hbefore before decl hprefix

/-- A draft without a refusal is one that took every declaration. -/
theorem allTaken_iff : AllTaken name calls ↔ (afterCalls name calls).refusal? = none := by
  induction calls using List.reverseRecOn with
  | nil => simp [AllTaken, afterCalls, new]
  | append_singleton calls call ih =>
    rw [afterCalls_append_singleton, allTaken_append_singleton, ih]
    cases call with
    | declare decl => simp [serve, refusal?_declare_iff, Takes]
    | build => simp

/-- A refusal that is remembered, with the name of the operator. -/
structure Remembers (d : Draft) (name : String) (e : Refusal) : Prop where
  name : d.name = name
  refusal? : d.refusal? = some e

/-- **One call** — what is remembered stays. -/
theorem Remembers.serve {d : Draft} {e : Refusal} (h : d.Remembers name e) (call : Call) :
    (d.serve call).Remembers name e := by
  cases call with
  | build => rwa [serve_build]
  | declare decl =>
    rw [Draft.serve]
    cases haccept : d.accept decl with
    | ok d' =>
      have haccepted := accepted_of_accept haccept
      rw [declare_of_accept haccept]
      exact ⟨haccepted.name.trans h.name, haccepted.refusal?.trans h.refusal?⟩
    | error e' =>
      rw [declare_of_refused haccept, h.refusal?]
      exact ⟨h.name, rfl⟩

theorem Remembers.build {d : Draft} {e : Refusal} (h : d.Remembers name e) :
    d.build = .error (.refused name e) := by
  rw [Draft.build, make, Action.answer_get_bind, h.refusal?, h.name]
  rfl

theorem name_afterCalls (h : AllTaken name calls) : (afterCalls name calls).name = name := by
  rw [allTaken_iff, afterCalls_eq_declareAll] at h
  rw [afterCalls_eq_declareAll]
  exact name_declareAll h

/-- **All calls** — after the first refusal, whatever follows, it is what is remembered. -/
theorem remembers_of_refuses {e : Refusal} (hfirst : AllTaken name calls)
    (h : Refuses name calls decl e) (after : List Call) :
    (afterCalls name (calls ++ .declare decl :: after)).Remembers name e := by
  induction after using List.reverseRecOn with
  | nil =>
    rw [afterCalls_append_singleton, serve, declare_of_refused h, allTaken_iff.mp hfirst]
    exact ⟨name_afterCalls hfirst, rfl⟩
  | append_singleton after call ih =>
    rw [← List.cons_append, ← List.append_assoc, afterCalls_append_singleton]
    exact ih.serve call

end

end Draft

/-! ## Complete declarations -/

/-- The indices are `0 … n - 1`, each once. -/
def Contiguous (indices : List Int) : Prop :=
  indices.Perm ((List.range indices.length).map Int.ofNat)

/-- A type text is a concrete tensor type or the name of a type variable. -/
def Denotes (cs : List TypeConstraint) (typeText : String) : Prop :=
  (∃ t, parseTensorText typeText = some (.ok t)) ∨ ∃ c ∈ cs, c.name = typeText

/-- Declarations that lack nothing: the operator has a proper name, the indices of each side leave
no gap, and every parameter has a type. -/
structure Complete (name : String) (decls : List Declaration) : Prop where
  name : Text.isIdentifier name = true
  indices : ∀ side, Contiguous ((declaredParameters side decls).map (·.1))
  types : ∀ side, ∀ e ∈ declaredParameters side decls,
    Denotes (decls.filterMap Declaration.constraint?) e.2.typeText

theorem Contiguous.of_perm {is js : List Int} (h : Contiguous is) (hperm : is.Perm js) :
    Contiguous js := by
  rw [Contiguous, ← hperm.length_eq]
  exact hperm.symm.trans h

/-- Increasing indices leave no gap exactly if none reaches their number. -/
theorem IndexSorted.contiguous_iff {ps : IndexedParameters} (h : IndexSorted ps) :
    Contiguous ((Draft.declaredForm ps).map (·.1)) ↔ ∀ e ∈ ps, e.1 < ps.length := by
  have hindices : (Draft.declaredForm ps).map (·.1) = (ps.map (·.1)).map Int.ofNat := by
    simp [Draft.declaredForm]
  rw [Contiguous, hindices, List.length_map, List.length_map]
  constructor
  · intro hperm e he
    have hmem : Int.ofNat e.1 ∈ (List.range ps.length).map Int.ofNat :=
      hperm.mem_iff.mp (List.mem_map_of_mem (List.mem_map_of_mem he))
    obtain ⟨i, hi, hie⟩ := List.mem_map.mp hmem
    rw [← Int.ofNat.inj hie]
    exact List.mem_range.mp hi
  · intro hbound
    rw [h.map_fst_eq_range hbound]

namespace Draft

section

variable {d : Draft} (hd : d.Sound)
include hd

theorem Sound.exists_resolveParameter_iff {side : Side} {index : Nat} {p : Parameter} :
    (∃ q, d.resolveParameter side index p = .ok q) ↔ Denotes d.constraints p.typeText := by
  simp only [resolveParameter_eq_ok_iff, Denotes]
  constructor
  · rintro ⟨q, ⟨t, hparsed, -⟩ | ⟨-, hnamed, -⟩⟩
    · exact .inl ⟨t, hparsed⟩
    · exact .inr hnamed
  · rintro (⟨t, hparsed⟩ | ⟨c, hc, hname⟩)
    · exact ⟨_, .inl ⟨t, hparsed, rfl⟩⟩
    · have hnone := parseTensorText_eq_none_of_isIdentifier (hd.constraints c hc).name
      exact ⟨p, .inr ⟨hname ▸ hnone, ⟨c, hc, hname⟩, rfl⟩⟩

theorem Sound.exists_resolve_iff {side : Side} :
    (∃ ps, d.resolve side = .ok ps) ↔
      Contiguous ((declaredForm (d.parameters side)).map (·.1)) ∧
        ∀ e ∈ declaredForm (d.parameters side), Denotes d.constraints e.2.typeText := by
  rw [(hd.sorted side).contiguous_iff]
  simp only [resolve, resolveFrom_eq_ok_iff, exists_and_left, exists_forall₂_iff,
    hd.exists_resolveParameter_iff, declaredForm, List.forall_mem_map]

end

theorem exists_build_eq_ok_iff {d : Draft} (h : d.refusal? = none) :
    (∃ s, d.build = .ok s) ↔
      Text.isIdentifier d.name = true ∧ ∀ side, ∃ ps, d.resolve side = .ok ps := by
  simp only [build_eq_ok_iff, h, true_and]
  constructor
  · rintro ⟨s, hname, inputs, outputs, hinputs, houtputs, -⟩
    refine ⟨hname, fun side => ?_⟩
    cases side with
    | input => exact ⟨inputs, hinputs⟩
    | output => exact ⟨outputs, houtputs⟩
  · rintro ⟨hname, hsides⟩
    obtain ⟨inputs, hinputs⟩ := hsides .input
    obtain ⟨outputs, houtputs⟩ := hsides .output
    exact ⟨_, hname, inputs, outputs, hinputs, houtputs, rfl⟩

/-- The parameters of one side resolve exactly if those declared leave no gap and have types. -/
theorem exists_resolve_declareAll_iff {name : String} {decls : List Declaration}
    (h : ((new name).declareAll decls).refusal? = none) (side : Side) :
    (∃ ps, ((new name).declareAll decls).resolve side = .ok ps) ↔
      Contiguous ((declaredParameters side decls).map (·.1)) ∧
        ∀ e ∈ declaredParameters side decls,
          Denotes (decls.filterMap Declaration.constraint?) e.2.typeText := by
  have hperm := parameters_perm side h
  rw [(sound_declareAll h).exists_resolve_iff, (collects_declareAll h).constraints]
  refine and_congr ⟨fun hc => hc.of_perm (hperm.map _), fun hc => hc.of_perm (hperm.map _).symm⟩ ?_
  simp only [hperm.mem_iff]

/-- **Where nothing is refused, a draft is built exactly if the declarations are complete.** -/
theorem exists_build_iff_complete {name : String} {decls : List Declaration}
    (h : ((new name).declareAll decls).refusal? = none) :
    (∃ s, ((new name).declareAll decls).build = .ok s) ↔ Complete name decls := by
  simp only [exists_build_eq_ok_iff h, name_declareAll h, exists_resolve_declareAll_iff h]
  exact ⟨fun ⟨hname, hsides⟩ => ⟨hname, fun side => (hsides side).1, fun side => (hsides side).2⟩,
    fun hc => ⟨hc.name, fun side => ⟨hc.indices side, hc.types side⟩⟩⟩

/-! ## What a history of calls decides -/

/-- What an operator's draft makes of any calls. -/
structure KeepsFirstRefusal (name : String) : Prop where
  /-- A declaration is refused where it is not valid by itself or its slot was set by one before it
  that was taken. -/
  refuses_iff : ∀ calls decl, (∃ e, Refuses name calls decl e) ↔
    ¬ decl.Valid ∨ ∃ slot, decl.slot? = some slot ∧ Taken name calls slot
  refused : ∀ calls decl e, Refuses name calls decl e →
    afterCalls name (calls ++ [.declare decl])
      = { afterCalls name calls with refusal? := (afterCalls name calls).refusal?.or (some e) }
  /-- After the first refusal, whatever follows, building fails with it. -/
  first_refusal : ∀ calls decl e, AllTaken name calls → Refuses name calls decl e →
    ∀ after, (afterCalls name (calls ++ .declare decl :: after)).build
      = .error (.refused name e)
  /-- Without a refusal, building fails exactly where something is missing. -/
  build_fails_iff : ∀ calls, AllTaken name calls →
    ((∃ e, (afterCalls name calls).build = .error e) ↔ ¬ Complete name (declarationsOf calls))
  build_frame : ∀ before after,
    afterCalls name (before ++ .build :: after) = afterCalls name (before ++ after)
  /-- What is missing can still be added after building failed. -/
  retry : ∀ calls decl, AllTaken name calls → Takes name calls decl →
    ¬ Complete name (declarationsOf calls) → Complete name (declarationsOf calls ++ [decl]) →
      (∃ e, (afterCalls name calls).build = .error e) ∧
        ∃ s, (afterCalls name (calls ++ [.build, .declare decl])).build = .ok s

section

variable {name : String} {calls : List Call} {decl : Declaration}

theorem exists_build_afterCalls_iff (h : AllTaken name calls) :
    (∃ s, (afterCalls name calls).build = .ok s) ↔ Complete name (declarationsOf calls) := by
  rw [allTaken_iff, afterCalls_eq_declareAll] at h
  rw [afterCalls_eq_declareAll, exists_build_iff_complete h]

theorem afterCalls_append_build (before after : List Call) :
    afterCalls name (before ++ .build :: after) = afterCalls name (before ++ after) := by
  simp only [afterCalls, List.foldl_append, List.foldl_cons, serve_build]

theorem exists_build_retry (h : AllTaken name calls) (htakes : Takes name calls decl)
    (hcomplete : Complete name (declarationsOf calls ++ [decl])) :
    ∃ s, (afterCalls name (calls ++ [.build, .declare decl])).build = .ok s := by
  have hall : AllTaken name (calls ++ [.declare decl]) := by
    refine allTaken_append_singleton.mpr ⟨h, ?_⟩
    rintro _ ⟨⟩
    exact htakes
  rw [afterCalls_append_build, exists_build_afterCalls_iff hall, declarationsOf_append_singleton]
  exact hcomplete

end

/-- **The first refusal decides**, and a refused declaration leaves no other trace, whatever is
declared and however often building is tried in between. -/
theorem keepsFirstRefusal (name : String) : KeepsFirstRefusal name where
  refuses_iff _ _ := exists_refuses_iff
  refused calls decl e h := by
    rw [afterCalls_append_singleton]
    exact declare_of_refused h
  first_refusal calls decl e hfirst h after := (remembers_of_refuses hfirst h after).build
  build_fails_iff calls h := by rw [exists_eq_error_iff, exists_build_afterCalls_iff h]
  build_frame := afterCalls_append_build
  retry calls decl h htakes hlacking hcomplete := by
    refine ⟨?_, exists_build_retry h htakes hcomplete⟩
    rwa [exists_eq_error_iff, exists_build_afterCalls_iff h]

/-- The type variable that `gatherDeclarations` ends with. -/
def gatherConstraint : Declaration := .constraint "T" highPrecisionTypes "Numbers."

/-- What is declared before it. -/
def gatherCalls : List Call := gatherDeclarations.dropLast.map .declare

/-- A type variable that is missing can be declared after building failed, and a version that is
refused cannot be made good by anything. -/
theorem keepsFirstRefusal_gather :
    (∃ e, (afterCalls "Gather" gatherCalls).build = .error e) ∧
    (∃ s, (afterCalls "Gather"
      (gatherCalls ++ [.build, .declare gatherConstraint])).build = .ok s) ∧
    ∀ after, (afterCalls "Gather" (gatherCalls ++ .declare (.since 0) :: after)).build
      = .error (.refused "Gather" (.sinceTooSmall 0)) := by
  have hkeeps := keepsFirstRefusal "Gather"
  have hall : AllTaken "Gather" gatherCalls := allTaken_iff.mpr rfl
  have hlacking : ¬ Complete "Gather" (declarationsOf gatherCalls) :=
    (hkeeps.build_fails_iff gatherCalls hall).mp ⟨_, rfl⟩
  have hcomplete : Complete "Gather" gatherDeclarations :=
    (exists_build_iff_complete rfl).mp ⟨_, rfl⟩
  obtain ⟨hfails, hbuilds⟩ :=
    hkeeps.retry gatherCalls gatherConstraint hall ⟨_, rfl⟩ hlacking hcomplete
  exact ⟨hfails, hbuilds, hkeeps.first_refusal gatherCalls (.since 0) _ hall rfl⟩

end Draft

end TensorGraph
