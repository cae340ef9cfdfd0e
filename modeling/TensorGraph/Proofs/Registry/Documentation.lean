import TensorGraph.Proofs.Registry.History
import TensorGraph.Proofs.Text.Case
import TensorGraph.Proofs.Text.Delimited
import TensorGraph.Report.Schemas

/-!
# Proofs/Registry/Documentation — which operators have a page

    asked for     ArgMax    arg_max   ARGMAX    argmax    Custom
    looked up     ArgMax    ArgMax    ArgMax    ArgMax    Custom

In the default domain a name is looked up under that of the standard operator it spells
(`Operator.ofName_eq_ok_iff`).  A schema registered under such a spelling is in effect, and yet its
page is never printed: what is printed is the page of the standard operator, which has another
title, or nothing.  All other schemas have their pages (`Registry.documentsAt_iff`).  Of the style
of a page only the titles matter: their texts can be read back (`Report.TitlesCanBeRead`).
-/

namespace TensorGraph

/-! ## Titles -/

namespace Report

/-- A text of one line without tabs. -/
structure IsPlain (text : String) : Prop where
  oneLine : '\n' ∉ text.toList
  tabless : '\t' ∉ text.toList

/-- The text of a title can be read back, whatever follows the title. -/
def TitlesCanBeRead [Style] : Prop :=
  ∀ {text text' rest rest' : String}, IsPlain text → IsPlain text' →
    Style.title text ++ rest = Style.title text' ++ rest' → text = text'

theorem splitLines_of_notMem {cs : List Char} (h : '\n' ∉ cs) : splitLines cs = [cs] := by
  induction cs with
  | nil => rfl
  | cons c cs ih =>
    obtain ⟨hc, hcs⟩ := List.ne_and_not_mem_of_not_mem_cons h
    have hne : ¬ (c == '\n') = true := by simpa using hc.symm
    rw [splitLines, if_neg hne, ih hcs]

theorem settle_of_notMem {cs : List Char} (hline : '\n' ∉ cs) (htab : '\t' ∉ cs) :
    settle cs = cs := by
  fun_induction settle cs with
  | case1 => rfl
  | case2 cs ih => simp at hline
  | case3 cs ih => simp at htab
  | case4 c cs _ _ ih =>
    rw [ih (List.not_mem_of_not_mem_cons hline) (List.not_mem_of_not_mem_cons htab)]

section

variable {text : String}

theorem IsPlain.linesOf_eq (h : IsPlain text) : linesOf text = [text] := by
  rw [linesOf, settle_of_notMem h.oneLine h.tabless, splitLines_of_notMem h.oneLine,
    List.map_singleton, String.ofList_toList]

theorem notMem_spaces {c : Char} (n : Nat) (h : c ≠ ' ') : c ∉ (spaces n).toList := by
  rw [spaces, String.toList_ofList]
  exact fun hc => h (List.eq_of_mem_replicate hc)

/-- A title of one line: its text stands on the second of three lines. -/
theorem IsPlain.title_eq (h : IsPlain text) :
    title text = spaces (text.length + 8) ++ "\n" ++ (spaces 4 ++ text ++ spaces 4) ++ "\n" ++
      (spaces (text.length + 8) ++ "\n") := by
  have hwidth : widest [text] = text.length := by simp [widest]
  have hpad : padRight text.length text = text := by simp [padRight, spaces]
  simp only [title, h.linesOf_eq, hwidth, List.map_singleton, hpad, List.cons_append,
    List.nil_append, String.intercalate_cons_cons, String.intercalate_singleton,
    String.append_assoc]

theorem IsPlain.toList_title_append (h : IsPlain text) (rest : String) :
    ∃ below, (title text ++ rest).toList = (spaces (text.length + 8)).toList ++ '\n' ::
      ((spaces 4 ++ text ++ spaces 4).toList ++ '\n' :: below) :=
  ⟨(spaces (text.length + 8) ++ "\n" ++ rest).toList, by simp [h.title_eq]⟩

/-- **Margins leave the text of a title readable.** -/
theorem titlesCanBeRead : TitlesCanBeRead := by
  intro text text' rest rest' h h' (heq : title text ++ rest = title text' ++ rest')
  have hmargin (n : Nat) : '\n' ∉ (spaces n).toList := notMem_spaces n (by decide)
  have hline {text : String} (h : IsPlain text) : '\n' ∉ (spaces 4 ++ text ++ spaces 4).toList := by
    simp [hmargin, h.oneLine]
  obtain ⟨below, hbelow⟩ := h.toList_title_append rest
  obtain ⟨below', hbelow'⟩ := h'.toList_title_append rest'
  rw [heq, hbelow'] at hbelow
  -- the first line goes, and then the margins of the second
  obtain ⟨-, hfrom⟩ := (Text.append_cons_inj_of_notMem_left (hmargin _) (hmargin _)).mp hbelow
  obtain ⟨hsecond, -⟩ := (Text.append_cons_inj_of_notMem_left (hline h') (hline h)).mp hfrom
  have htext : text'.toList = text.toList := by simpa using hsecond
  exact (String.toList_inj.mp htext).symm

end

end Report

/-! ## Pages -/

/-- A name that ends where its title goes on: it has no dash, and no line break or tab. -/
def IsHeading (name : String) : Prop := ∀ c ∈ name.toList, c ∉ ['\n', '\t', '-']

instance : DecidablePred IsHeading := fun name =>
  List.decidableBAll (· ∉ ['\n', '\t', '-']) name.toList

theorem IsHeading.notMem {name : String} (h : IsHeading name) {c : Char}
    (hc : c ∈ ['\n', '\t', '-']) : c ∉ name.toList :=
  fun hmem => h c hmem hc

namespace OpSchema

variable {s : OpSchema}

theorem text_of_default (h : s.domain = "") : s.text = s.name ++ "-" ++ toString s.since := by
  rw [text, if_pos h, String.empty_append]

theorem isPlain_text (h : s.domain = "") (hname : IsHeading s.name) : Report.IsPlain s.text := by
  rw [text_of_default h]
  constructor
  · simp [hname.notMem (c := '\n') (by decide), Text.notMem_repr]
  · simp [hname.notMem (c := '\t') (by decide), Text.notMem_repr]

end OpSchema

theorem Report.schemaPage_eq [Report.Style] (s : OpSchema) (vs : List Int) :
    ∃ below, Report.schemaPage s vs = Report.Style.title s.text ++ below := by
  simp only [Report.schemaPage, String.append_assoc]
  exact ⟨_, rfl⟩

/-- **Pages of the default domain tell names apart** where titles can be read back. -/
theorem name_eq_of_schemaPage_eq [Report.Style] (htitles : Report.TitlesCanBeRead)
    {s s' : OpSchema} {vs vs' : List Int} (hs : s.domain = "") (hs' : s'.domain = "")
    (hname : IsHeading s.name) (hname' : IsHeading s'.name)
    (h : Report.schemaPage s vs = Report.schemaPage s' vs') : s.name = s'.name := by
  obtain ⟨below, hbelow⟩ := Report.schemaPage_eq s vs
  obtain ⟨below', hbelow'⟩ := Report.schemaPage_eq s' vs'
  rw [hbelow, hbelow'] at h
  have htext : s.text = s'.text :=
    htitles (OpSchema.isPlain_text hs hname) (OpSchema.isPlain_text hs' hname') h
  rw [OpSchema.text_of_default hs, OpSchema.text_of_default hs'] at htext
  have hchars : s.name.toList ++ '-' :: s.since.repr.toList
      = s'.name.toList ++ '-' :: s'.since.repr.toList := by
    simpa using congrArg String.toList htext
  obtain ⟨hsame, -⟩ := (Text.append_cons_inj_of_notMem_left (hname.notMem (by decide))
    (hname'.notMem (by decide))).mp hchars
  exact String.toList_inj.mp hsame

/-! ## Spellings -/

/-- Names that are told apart in lower case, and none of which is in lower case. -/
structure AreListed {α : Type} (listed : List (α × String)) : Prop where
  capital : ∀ e ∈ listed, e.2.toList.any Char.isUpper = true
  ascii : ∀ e ∈ listed, e.2.toList.all (·.toNat < 128) = true
  distinct : (listed.map fun e => Text.lowercase e.2).Nodup

section

variable {α : Type} {enumeration s : String} {listed : List (α × String)} {a : α}
  {e : α × String}

theorem AreListed.lowercase_eq_of_spells (h : AreListed listed) (he : e ∈ listed)
    (hs : spells s e.2) : Text.lowercase s = Text.lowercase e.2 := by
  simp only [spells, Bool.or_eq_true, beq_iff_eq] at hs
  obtain rfl | rfl := hs
  · rfl
  · exact Text.lowercase_lowercase (h.ascii e he)

theorem AreListed.spells_lowercase_iff (h : AreListed listed) (he : e ∈ listed) :
    spells (Text.lowercase s) e.2 ↔ Text.lowercase s = Text.lowercase e.2 := by
  have hne : Text.lowercase s ≠ e.2 := Text.lowercase_ne (h.capital e he)
  simp [spells, hne]

/-- What either lookup finds is spelled as asked for. -/
theorem AreListed.lowercase_eq_of_find? (h : AreListed listed)
    (hfind : (listed.find? (spells s ·.2)).or (listed.find? (spells (Text.lowercase s) ·.2))
      = some e) : e ∈ listed ∧ Text.lowercase s = Text.lowercase e.2 := by
  rw [Option.or_eq_some_iff] at hfind
  obtain hwritten | ⟨-, hlower⟩ := hfind
  · have he := List.mem_of_find?_eq_some hwritten
    have hspells := List.find?_some hwritten
    exact ⟨he, h.lowercase_eq_of_spells he hspells⟩
  · have he := List.mem_of_find?_eq_some hlower
    have hspells := List.find?_some hlower
    exact ⟨he, (h.spells_lowercase_iff he).mp hspells⟩

/-- **Names are found in any case.** -/
theorem AreListed.findListed_eq_ok_iff (h : AreListed listed) :
    findListed enumeration listed s = .ok a ↔
      ∃ name, (a, name) ∈ listed ∧ Text.lowercase s = Text.lowercase name := by
  rw [findListed]
  split
  next b name hfind =>
    obtain ⟨hmem, hlower⟩ := h.lowercase_eq_of_find? hfind
    constructor
    · intro hb
      cases hb
      exact ⟨name, hmem, hlower⟩
    · rintro ⟨name', hmem', hlower'⟩
      -- two names in the list that are alike in lower case are one
      have hsame := List.inj_on_of_nodup_map h.distinct hmem hmem' (hlower.symm.trans hlower')
      cases hsame
      rfl
  next hnone =>
    refine iff_of_false nofun ?_
    rintro ⟨name, hmem, hlower⟩
    have hmissed := List.find?_eq_none.mp (Option.or_eq_none_iff.mp hnone).2 _ hmem
    exact hmissed ((h.spells_lowercase_iff hmem).mpr hlower)

end

namespace Operator

/-- A text spells the name of an operator: in snake case, or as it is but for case. -/
def SpelledBy (op : Operator) (s : String) : Prop :=
  s = op.snakeName ∨ Text.lowercase s = Text.lowercase op.name

theorem areListed_listed : AreListed listed where
  capital := by decide +kernel
  ascii := by decide +kernel
  distinct := by decide +kernel

theorem mem_all_of_mem_listed : ∀ e ∈ listed, ¬ (e.1 = invalid ∨ e.1 = last) →
    e.1 ∈ all ∧ e.2 = e.1.name := by
  decide

theorem mem_listed_of_mem_all : ∀ op ∈ all,
    (op, op.name) ∈ listed ∧ ¬ (op = invalid ∨ op = last) := by
  decide

theorem nodup_snakeNames : (all.map snakeName).Nodup := by decide +kernel

theorem underscore_mem_snakeName : ∀ op ∈ all, '_' ∈ op.snakeName.toList := by decide +kernel

theorem underscore_notMem_lowercase : ∀ op ∈ all, '_' ∉ (Text.lowercase op.name).toList := by
  decide +kernel

section

variable {op op' : Operator} {s : String}

theorem lowercase_snakeName_ne (hop : op ∈ all) (hop' : op' ∈ all) :
    Text.lowercase op.snakeName ≠ Text.lowercase op'.name := by
  intro heq
  have hmem := Text.mem_lowercase (by decide) (underscore_mem_snakeName op hop)
  exact underscore_notMem_lowercase op' hop' (heq ▸ hmem)

/-- No text spells two operators. -/
theorem SpelledBy.unique (h : op.SpelledBy s) (h' : op'.SpelledBy s) (hop : op ∈ all)
    (hop' : op' ∈ all) : op = op' := by
  obtain rfl | hlower := h <;> obtain hsnake | hlower' := h'
  · exact List.inj_on_of_nodup_map nodup_snakeNames hop hop' hsnake
  · exact absurd hlower' (lowercase_snakeName_ne hop hop')
  · exact absurd (hsnake ▸ hlower) (lowercase_snakeName_ne hop' hop)
  · have hsame := List.inj_on_of_nodup_map areListed_listed.distinct
      (mem_listed_of_mem_all op hop).1 (mem_listed_of_mem_all op' hop').1
      (hlower.symm.trans hlower')
    exact congrArg Prod.fst hsame

theorem spelledBy_of_ofName (h : ofName s = .ok op) : op ∈ all ∧ op.SpelledBy s := by
  rw [ofName] at h
  split at h
  next op' hfind =>
    cases h
    have hsnake : op.snakeName = s := by simpa using List.find?_some hfind
    exact ⟨List.mem_of_find?_eq_some hfind, .inl hsnake.symm⟩
  next =>
    split at h
    next op' hlisted =>
      rw [guard_eq_ok_iff, Except.ok.injEq] at h
      obtain ⟨hmarker, rfl⟩ := h
      obtain ⟨name, hmem, hlower⟩ := areListed_listed.findListed_eq_ok_iff.mp hlisted
      obtain ⟨hall, hname⟩ := mem_all_of_mem_listed _ hmem hmarker
      exact ⟨hall, .inr (hlower.trans (congrArg Text.lowercase hname))⟩
    next => cases h

theorem SpelledBy.exists_ofName (h : op.SpelledBy s) (hop : op ∈ all) :
    ∃ op', ofName s = .ok op' := by
  rw [ofName]
  split
  next op' _ => exact ⟨op', rfl⟩
  next hnone =>
    have hlower : Text.lowercase s = Text.lowercase op.name :=
      h.resolve_left fun hsnake => List.find?_eq_none.mp hnone op hop (by simp [hsnake])
    obtain ⟨hmem, hmarker⟩ := mem_listed_of_mem_all op hop
    have hlisted : ofListedName s = .ok op :=
      areListed_listed.findListed_eq_ok_iff.mpr ⟨op.name, hmem, hlower⟩
    rw [hlisted]
    exact ⟨op, if_neg hmarker⟩

/-- **An operator is found by its spellings.** -/
theorem ofName_eq_ok_iff : ofName s = .ok op ↔ op ∈ all ∧ op.SpelledBy s := by
  refine ⟨spelledBy_of_ofName, ?_⟩
  rintro ⟨hop, hspelled⟩
  obtain ⟨op', hop'⟩ := hspelled.exists_ofName hop
  obtain ⟨hall, hspelled'⟩ := spelledBy_of_ofName hop'
  rwa [hspelled.unique hspelled' hop hall]

/-- Spellings can be told apart in titles. -/
theorem SpelledBy.isHeading (h : op.SpelledBy s) (hop : op ∈ all) : IsHeading s := by
  have hself : ∀ c ∈ ['\n', '\t', '-'], Text.lowerChar c = c := by
    simp only [List.forall_mem_cons, List.not_mem_nil, false_implies, implies_true, and_true]
    decide
  have hnames : ∀ op ∈ all, IsHeading op.snakeName ∧ IsHeading (Text.lowercase op.name) := by
    decide +kernel
  obtain ⟨hsnake, hlower⟩ := hnames op hop
  obtain rfl | heq := h
  · exact hsnake
  · intro c hmem hc
    exact hlower c (heq ▸ Text.mem_lowercase (hself c hc) hmem) hc

end

end Operator

/-! ## The name that is looked up -/

/-- A name of the default domain that spells the name of a standard operator, and is another. -/
structure RenamedTo (domain name : String) (op : Operator) : Prop where
  inDefault : domain = ""
  mem : op ∈ Operator.all
  spelled : op.SpelledBy name
  other : op.name ≠ name

/-- A name that is looked up under another. -/
def Renamed (domain name : String) : Prop := ∃ op, RenamedTo domain name op

section

variable {domain name : String} {op : Operator}

theorem RenamedTo.documentedName_eq (h : RenamedTo domain name op) :
    documentedName domain name = op.name := by
  rw [documentedName, if_pos h.inDefault, Operator.ofName_eq_ok_iff.mpr ⟨h.mem, h.spelled⟩]

theorem documentedName_of_not_renamed (h : ¬ Renamed domain name) :
    documentedName domain name = name := by
  rw [documentedName]
  split
  next hdomain =>
    split
    next op hop =>
      obtain ⟨hmem, hspelled⟩ := Operator.ofName_eq_ok_iff.mp hop
      by_contra hother
      exact h ⟨op, hdomain, hmem, hspelled, hother⟩
    next => rfl
  next => rfl

/-- The standard operators keep their names. -/
theorem not_renamed_name (domain : String) (hop : op ∈ Operator.all) :
    ¬ Renamed domain op.name := by
  rintro ⟨op', h⟩
  exact h.other (h.spelled.unique (.inr rfl) h.mem hop ▸ rfl)

end

/-! ## Which pages there are -/

namespace Registry

/-- What is in effect has a page: it is that of the schema, with the versions of the operator. -/
def DocumentsAt [Report.Style] (r : Registry) (domain name : String) (opset : Int) : Prop :=
  ∀ s, r.schema? domain name opset = some s →
    r.document domain name opset = .ok (Report.schemaPage s (r.versions domain name))

section

variable {r : Registry} {domain name name' : String} {opset : Int} {s : OpSchema} {op : Operator}

theorem isFor_of_schema? (h : r.schema? domain name opset = some s) :
    s.domain = domain ∧ s.name = name :=
  OpSchema.isFor_iff.mp
    (isFor_of_mem_versionsOf (List.mem_reverse.mp (List.mem_of_find?_eq_some h)))

variable [Report.Style]

theorem document_of_schema? (hname : documentedName domain name = name')
    (h : r.schema? domain name' opset = some s) :
    r.document domain name opset = .ok (Report.schemaPage s (r.versions domain name')) := by
  simp only [document, hname, h]

theorem document_of_schema?_eq_none (hname : documentedName domain name = name')
    (h : r.schema? domain name' opset = none) :
    r.document domain name opset = .error ⟨name', domain, opset⟩ := by
  simp only [document, hname, h]

theorem documentsAt_of_not_renamed (h : ¬ Renamed domain name) :
    r.DocumentsAt domain name opset := fun _ hs =>
  document_of_schema? (documentedName_of_not_renamed h) hs

theorem document_of_renamedTo (h : RenamedTo domain name op) :
    r.document domain name opset = r.document domain op.name opset := by
  have hkept := documentedName_of_not_renamed (not_renamed_name domain h.mem)
  simp only [document, h.documentedName_eq, hkept]

/-- The page of a schema is not printed under another name than its own. -/
theorem not_documentsAt_of_renamedTo (htitles : Report.TitlesCanBeRead)
    (h : RenamedTo domain name op) (hs : r.schema? domain name opset = some s) :
    ¬ r.DocumentsAt domain name opset := by
  intro hdocuments
  obtain ⟨hdomain, hname⟩ := isFor_of_schema? hs
  have hpage := hdocuments s hs
  cases hfound : r.schema? domain op.name opset with
  | none =>
    rw [document_of_schema?_eq_none h.documentedName_eq hfound] at hpage
    cases hpage
  | some s' =>
    -- a page of the default domain has the name in its title
    rw [document_of_schema? h.documentedName_eq hfound] at hpage
    obtain ⟨hdomain', hname'⟩ := isFor_of_schema? hfound
    have hheading : IsHeading s.name := hname ▸ h.spelled.isHeading h.mem
    have hheading' : IsHeading s'.name :=
      hname' ▸ Operator.SpelledBy.isHeading (.inr rfl) h.mem
    have hsame := name_eq_of_schemaPage_eq htitles (hdomain'.trans h.inDefault)
      (hdomain.trans h.inDefault) hheading' hheading (Except.ok.inj hpage)
    exact h.other (by rw [← hname', hsame, hname])

end

/-- Whatever the style, as long as titles can be read back, the names that are looked up under
another have no page of their own. -/
theorem documentsAt_iff_of_titles [Report.Style] (htitles : Report.TitlesCanBeRead) (r : Registry)
    (domain name : String) (opset : Int) :
    r.DocumentsAt domain name opset ↔
      ¬ (Renamed domain name ∧ ∃ s, r.schema? domain name opset = some s) := by
  constructor
  · rintro hdocuments ⟨⟨op, h⟩, s, hs⟩
    exact not_documentsAt_of_renamedTo htitles h hs hdocuments
  · intro h s hs
    exact documentsAt_of_not_renamed (fun hrenamed => h ⟨hrenamed, s, hs⟩) s hs

/-- **An operator that the registry resolves has its page**, exactly unless its name is another
spelling of the name of a standard operator in the default domain.  With such a spelling the answer
is that for the standard operator. -/
theorem documentsAt_iff (r : Registry) (domain name : String) (opset : Int) :
    (r.DocumentsAt domain name opset ↔
      ¬ (Renamed domain name ∧ ∃ s, r.schema? domain name opset = some s)) ∧
    ∀ op, RenamedTo domain name op →
      r.document domain name opset = r.document domain op.name opset :=
  ⟨documentsAt_iff_of_titles Report.titlesCanBeRead r domain name opset,
    fun _ => document_of_renamedTo⟩

/-- The only schema of a registry, for `argmax`.  It is in effect, but the lookup is for `ArgMax`,
which has none. -/
theorem not_documentsAt_argmax :
    ∃ s r, (Draft.new "argmax").build = .ok s ∧ empty.register s = .ok r ∧
      r.schema? "" "argmax" 13 = some s ∧
      r.document "" "argmax" 13 = .error ⟨"ArgMax", "", 13⟩ ∧ ¬ r.DocumentsAt "" "argmax" 13 := by
  refine ⟨_, _, rfl, register_of_new rfl nofun, rfl, ?_⟩
  have hrenamed : RenamedTo "" "argmax" .argMax :=
    ⟨rfl, by decide, .inr (by decide +kernel), by decide⟩
  exact ⟨document_of_schema?_eq_none hrenamed.documentedName_eq rfl,
    not_documentsAt_of_renamedTo Report.titlesCanBeRead hrenamed rfl⟩

end Registry

end TensorGraph
