import Mathlib
import TensorGraph.Proofs.GraphFile.InputTypes
import TensorGraph.Proofs.Text.Delimited
import TensorGraph.Proofs.Tensor.TypeSyntax

/-!
# Proofs/Tensor/TypeText — the printed type identifies the type

    tensor(float)                rank unknown
    tensor(float)[]              a scalar
    tensor(float)[batch 3 ?]     a name, a size, and a dimension that is not known

The element type has no bracket in its text, so that text ends at the first one
(`ValueType.bracket_notMem_elemText`, `ValueType.elemText_inj`).  Whoever names the element types
has to name them apart, and without brackets (`DType.ElementNames.Distinct`).  What follows is a row
of words, one for each dimension: the numeral of a size, an identifier, which does not begin with a
digit, or a question mark (`Dim.text_inj`).  So tensor types are told apart by their texts
(`ValueType.text_identifies`).
-/

namespace TensorGraph

/-! ## Words -/

namespace Dim

/-- The name of a dimension, if it has one, is an identifier. -/
def IsNamed (d : Dim) : Prop := ∀ name, d = .symbolic name → Text.isIdentifier name = true

variable {d d' : Dim} {n : Nat} {name : String}

theorem isDigit_of_mem_text {c : Char} (h : c ∈ (text (.static n)).toList) : c.isDigit = true := by
  rw [text, Nat.toString_eq_repr, Nat.toList_repr] at h
  exact Nat.isDigit_of_mem_toDigits (by decide) (by decide) h

theorem IsNamed.isIdentifier (h : (symbolic name).IsNamed) : Text.isIdentifier name = true :=
  h name rfl

/-- The text of a dimension is a word. -/
theorem IsNamed.isWord_text (h : d.IsNamed) : Text.IsWord ' ' d.text.toList := by
  cases d with
  | static n =>
    refine ⟨by simp [text], fun hspace => ?_⟩
    exact absurd (isDigit_of_mem_text hspace) (by decide)
  | symbolic name =>
    obtain ⟨c, cs, hcs, -⟩ := Text.exists_head_of_isIdentifier h.isIdentifier
    refine ⟨by simp [text, hcs], fun hspace => ?_⟩
    exact absurd (Text.isWordChar_of_isIdentifier h.isIdentifier hspace) (by decide)
  | unknown => exact ⟨by decide, by decide⟩

theorem text_static_ne_symbolic (h : (symbolic name).IsNamed) :
    (static n).text ≠ (symbolic name).text := by
  intro heq
  obtain ⟨c, cs, hcs, hdigit⟩ := Text.exists_head_of_isIdentifier h.isIdentifier
  have hmem : c ∈ (text (.static n)).toList := by
    rw [heq, text, hcs]
    exact List.mem_cons_self
  rw [isDigit_of_mem_text hmem] at hdigit
  cases hdigit

theorem text_static_ne_unknown : (static n).text ≠ unknown.text := by
  intro heq
  have hmem : '?' ∈ (text (.static n)).toList := by
    rw [heq]
    decide
  exact absurd (isDigit_of_mem_text hmem) (by decide)

theorem text_symbolic_ne_unknown (h : (symbolic name).IsNamed) :
    (symbolic name).text ≠ unknown.text := by
  intro heq
  have hmem : '?' ∈ (text (.symbolic name)).toList := by
    rw [heq]
    decide
  exact absurd (Text.isWordChar_of_isIdentifier h.isIdentifier hmem) (by decide)

/-- **Dimensions are told apart by their texts.** -/
theorem text_inj (h : d.IsNamed) (h' : d'.IsNamed) (heq : d.text = d'.text) : d = d' := by
  cases d with
  | static n =>
    cases d' with
    | static n' => exact congrArg static (Nat.repr_inj.mp heq)
    | symbolic name => exact absurd heq (text_static_ne_symbolic h')
    | unknown => exact absurd heq text_static_ne_unknown
  | symbolic name =>
    cases d' with
    | static n => exact absurd heq.symm (text_static_ne_symbolic h)
    | symbolic name' => exact congrArg symbolic heq
    | unknown => exact absurd heq (text_symbolic_ne_unknown h)
  | unknown =>
    cases d' with
    | static n => exact absurd heq.symm text_static_ne_unknown
    | symbolic name => exact absurd heq.symm (text_symbolic_ne_unknown h')
    | unknown => rfl

/-- **Rows of dimensions are told apart by their words.** -/
theorem map_text_inj {dims dims' : List Dim} (h : ∀ d ∈ dims, d.IsNamed)
    (h' : ∀ d ∈ dims', d.IsNamed)
    (heq : dims.map (·.text.toList) = dims'.map (·.text.toList)) : dims = dims' := by
  induction dims generalizing dims' with
  | nil => exact (List.map_eq_nil_iff.mp heq.symm).symm
  | cons d ds ih =>
    obtain ⟨d', ds', rfl, hd, hds⟩ := List.map_eq_cons_iff.mp heq.symm
    rw [List.forall_mem_cons] at h h'
    have hfirst : d' = d := text_inj h'.1 h.1 (String.toList_inj.mp hd)
    rw [hfirst, ih h.2 h'.2 hds.symm]

end Dim

theorem dimsText_inj {dims dims' : List Dim} (h : ∀ d ∈ dims, d.IsNamed)
    (h' : ∀ d ∈ dims', d.IsNamed) (heq : dimsText dims = dimsText dims') : dims = dims' := by
  have hwords {dims : List Dim} (h : ∀ d ∈ dims, d.IsNamed) :
      ∀ word ∈ dims.map (·.text.toList), Text.IsWord ' ' word :=
    List.forall_mem_map.mpr fun d hd => (h d hd).isWord_text
  have hrow : [' '].intercalate (dims.map (·.text.toList))
      = [' '].intercalate (dims'.map (·.text.toList)) := by
    simpa [dimsText, Function.comp_def] using congrArg String.toList heq
  exact Dim.map_text_inj h h' (Text.intercalate_inj (hwords h) (hwords h') hrow)

/-! ## Element types -/

namespace DType

/-- Element types are told apart by their names, and no name has a bracket to open. -/
structure ElementNames.Distinct [ElementNames] : Prop where
  inj : ∀ t u : DType, t.name = u.name → t = u
  bracket : ∀ t : DType, '[' ∉ t.name.toList

section

variable [ElementNames] {t u : DType}

/-- In a type text stands the name that it is read by, or else the name of the element type, and
brackets show that. -/
theorem elementName_cases (t : DType) :
    (t, t.elementName) ∈ namedElements ∨
      t.elementName.toList = "unknown_dtype<".toList ++ (t.name.toList ++ ['>']) := by
  cases t <;> first
    | left; simp [namedElements, elementName]; done
    | right; simp [elementName]

theorem elementName_ne_questionMark : t.elementName ≠ "?" := by
  intro heq
  obtain hnamed | hforeign := t.elementName_cases
  · have hall : ∀ e ∈ namedElements, e.2 ≠ "?" := by decide
    exact hall _ hnamed heq
  · simp [heq] at hforeign

theorem ElementNames.Distinct.bracket_notMem_elementName (h : ElementNames.Distinct) :
    '[' ∉ t.elementName.toList := by
  obtain hnamed | hforeign := t.elementName_cases
  · have hall : ∀ e ∈ namedElements, '[' ∉ e.2.toList := by decide
    exact hall _ hnamed
  · simp [hforeign, h.bracket t]

/-- **Element types are told apart in type texts.** -/
theorem ElementNames.Distinct.elementName_inj (h : ElementNames.Distinct)
    (heq : t.elementName = u.elementName) : t = u := by
  have hangle : ∀ e ∈ namedElements, '<' ∉ e.2.toList := by decide
  obtain ht | ht := t.elementName_cases
  · obtain hu | hu := u.elementName_cases
    · have hnodup : (namedElements.map (·.2)).Nodup := by decide
      exact congrArg Prod.fst (List.inj_on_of_nodup_map hnodup ht hu heq)
    · exact absurd (by simp [heq, hu]) (hangle _ ht)
  · obtain hu | hu := u.elementName_cases
    · exact absurd (by simp [← heq, ht]) (hangle _ hu)
    · rw [heq, hu, List.append_cancel_left_eq, List.append_cancel_right_eq,
        String.toList_inj] at ht
      exact (h.inj u t ht).symm

end

theorem mem_listed_or_other (t : DType) : t ∈ listed.map Prod.fst ∨ ∃ code, t = other code := by
  cases t with
  | other code => exact .inr ⟨code, rfl⟩
  | _ => exact .inl (by decide)

theorem toList_name_other (code : Int) :
    (other code).name.toList = "DType(".toList ++ (code.repr.toList ++ [')']) := by
  have hname : (other code).name = "DType(" ++ toString code ++ ")" := rfl
  simp [hname]

/-- The listed names have neither a parenthesis nor a bracket. -/
theorem notMem_name_listed : ∀ e ∈ listed, '(' ∉ e.1.name.toList ∧ '[' ∉ e.1.name.toList := by
  decide +kernel

theorem name_listed_ne_other {e : DType × String} (he : e ∈ listed) (code : Int) :
    e.1.name ≠ (other code).name := by
  intro heq
  refine (notMem_name_listed e he).1 ?_
  simp [heq, toList_name_other]

/-- **The listed names and the codes tell element types apart.** -/
theorem distinct_listedName : ElementNames.Distinct where
  inj t u heq := by
    have hnodup : (listed.map fun e => e.1.name).Nodup := by decide +kernel
    obtain ht | ⟨code, rfl⟩ := t.mem_listed_or_other
    · obtain ⟨e, he, rfl⟩ := List.mem_map.mp ht
      obtain hu | ⟨code', rfl⟩ := u.mem_listed_or_other
      · obtain ⟨e', he', rfl⟩ := List.mem_map.mp hu
        rw [List.inj_on_of_nodup_map hnodup he he' heq]
      · exact absurd heq (name_listed_ne_other he code')
    · obtain hu | ⟨code', rfl⟩ := u.mem_listed_or_other
      · obtain ⟨e', he', rfl⟩ := List.mem_map.mp hu
        exact absurd heq.symm (name_listed_ne_other he' code)
      · have hchars := congrArg String.toList heq
        rw [toList_name_other, toList_name_other, List.append_cancel_left_eq,
          List.append_cancel_right_eq, String.toList_inj] at hchars
        rw [Int.repr_injective hchars]
  bracket t := by
    obtain hlisted | ⟨code, rfl⟩ := t.mem_listed_or_other
    · obtain ⟨e, he, rfl⟩ := List.mem_map.mp hlisted
      exact (notMem_name_listed e he).2
    · simp [toList_name_other, Text.notMem_repr]

end DType

namespace ValueType

open DType (ElementNames)

section

variable [ElementNames]

theorem elemText_invalid : (tensor .invalid).elemText = "tensor(?)" := rfl

theorem elemText_of_ne {t : DType} (h : t ≠ .invalid) :
    (tensor t).elemText = "tensor(" ++ t.elementName ++ ")" := if_neg h

theorem bracket_notMem_elemText (h : ElementNames.Distinct) (t : DType) :
    '[' ∉ (tensor t).elemText.toList := by
  by_cases hinvalid : t = .invalid
  · rw [hinvalid, elemText_invalid]
    decide
  · simp [elemText_of_ne hinvalid, h.bracket_notMem_elementName]

theorem elemText_ne_invalid {t : DType} (h : t ≠ .invalid) :
    (tensor t).elemText ≠ (tensor .invalid).elemText := by
  intro heq
  have hquestion : "tensor(" ++ t.elementName ++ ")" = "tensor(" ++ "?" ++ ")" := by
    rw [← elemText_of_ne h, heq]
    rfl
  rw [String.append_left_inj, String.append_right_inj] at hquestion
  exact DType.elementName_ne_questionMark hquestion

theorem elemText_inj (hnames : ElementNames.Distinct) {t u : DType}
    (h : (tensor t).elemText = (tensor u).elemText) : t = u := by
  by_cases ht : t = .invalid
  · by_cases hu : u = .invalid
    · rw [ht, hu]
    · rw [ht] at h
      exact absurd h.symm (elemText_ne_invalid hu)
  · by_cases hu : u = .invalid
    · rw [hu] at h
      exact absurd h (elemText_ne_invalid ht)
    · rw [elemText_of_ne ht, elemText_of_ne hu, String.append_left_inj,
        String.append_right_inj] at h
      exact hnames.elementName_inj h

/-! ## Types -/

/-- A tensor type whose named dimensions are named by identifiers. -/
structure IsNamed (t : ValueType) : Prop where
  tensor : t.kind = .tensor
  names : ∀ dims, t.dims? = some dims → ∀ d ∈ dims, d.IsNamed

variable {t u : ValueType} {dtype dtype' : DType} {dims dims' : List Dim}

theorem text_ranked : text ⟨.tensor, dtype, some dims⟩ = (tensor dtype).elemText ++ dimsText dims :=
  rfl

theorem text_unranked : text ⟨.tensor, dtype, none⟩ = (tensor dtype).elemText := rfl

theorem toList_text_ranked (dtype : DType) (dims : List Dim) :
    ∃ row, (text ⟨.tensor, dtype, some dims⟩).toList
      = (tensor dtype).elemText.toList ++ '[' :: row :=
  ⟨(" ".intercalate (dims.map Dim.text) ++ "]").toList, by simp [text_ranked, dimsText]⟩

theorem text_unranked_ne_ranked (hnames : ElementNames.Distinct) :
    text ⟨.tensor, dtype, none⟩ ≠ text ⟨.tensor, dtype', some dims⟩ := by
  intro h
  obtain ⟨row, hrow⟩ := toList_text_ranked dtype' dims
  rw [← h, text_unranked] at hrow
  exact bracket_notMem_elemText hnames dtype (hrow ▸ by simp)

/-- What stands in front of the bracket is determined, and so is the rest. -/
theorem text_ranked_inj (hnames : ElementNames.Distinct)
    (h : text ⟨.tensor, dtype, some dims⟩ = text ⟨.tensor, dtype', some dims'⟩) :
    dtype = dtype' ∧ dimsText dims = dimsText dims' := by
  obtain ⟨row, hrow⟩ := toList_text_ranked dtype dims
  obtain ⟨row', hrow'⟩ := toList_text_ranked dtype' dims'
  rw [h, hrow'] at hrow
  obtain ⟨helem, -⟩ := (Text.append_cons_inj_of_notMem_left (bracket_notMem_elemText hnames dtype')
    (bracket_notMem_elemText hnames dtype)).mp hrow
  obtain rfl : dtype' = dtype := elemText_inj hnames (String.toList_inj.mp helem)
  exact ⟨rfl, (String.append_right_inj _).mp h⟩

/-- **Tensor types are told apart by their texts**, as far as element types are by their names. -/
theorem IsNamed.text_inj (hnames : ElementNames.Distinct) (ht : t.IsNamed) (hu : u.IsNamed)
    (h : t.text = u.text) : t = u := by
  obtain ⟨kind, dtype, dims?⟩ := t
  obtain ⟨kind', dtype', dims?'⟩ := u
  obtain rfl : kind = .tensor := ht.tensor
  obtain rfl : kind' = .tensor := hu.tensor
  cases dims? with
  | none =>
    cases dims?' with
    | none => rw [elemText_inj hnames h]
    | some dims' => exact absurd h (text_unranked_ne_ranked hnames)
  | some dims =>
    cases dims?' with
    | none => exact absurd h.symm (text_unranked_ne_ranked hnames)
    | some dims' =>
      obtain ⟨rfl, hdims⟩ := text_ranked_inj hnames h
      rw [dimsText_inj (ht.names dims rfl) (hu.names dims' rfl) hdims]

end

end ValueType

/-! ## Graph files -/

namespace GraphFile

variable [Yaml.Resolution]

theorem isNamed_of_writesDim {n : Yaml.Node} {d : Dim} (h : WritesDim n d) : d.IsNamed := by
  intro name hname
  cases h with
  | size htag htext hlow hhigh => cases hname
  | unknown htag htext => cases hname
  | symbol htag htext =>
    cases hname
    exact htext

theorem isNamed_of_writesShape {shape? : Option Yaml.Node} {dims? : Option (List Dim)}
    (h : WritesShape shape? dims?) : ∀ dims, dims? = some dims → ∀ d ∈ dims, d.IsNamed := by
  rintro dims rfl
  cases h with
  | list hitems =>
    induction hitems with
    | nil => nofun
    | cons hfirst _ ih => exact List.forall_mem_cons.mpr ⟨isNamed_of_writesDim hfirst, ih⟩

/-- **Graph files name dimensions by identifiers.** -/
theorem isNamed_of_type {e : InputEntry} {t : ValueType} (h : e.type = .ok t) : t.IsNamed := by
  rw [InputEntry.type] at h
  split at h
  next => cases h
  next =>
    split at h
    next => cases h
    next dtype _ =>
      obtain ⟨dims?, hwrites, rfl⟩ := withShape_eq_ok_iff.mp h
      exact ⟨rfl, isNamed_of_writesShape hwrites⟩

end GraphFile

/-- **The printed type identifies the type.**  Texts of tensor types with identifiers for names are
equal exactly if the types are, and inputs of graph files have such types. -/
theorem ValueType.text_identifies :
    (∀ t u : ValueType, t.IsNamed → u.IsNamed → (t.text = u.text ↔ t = u)) ∧
      ∀ (e : GraphFile.InputEntry) (t : ValueType), e.type = .ok t → t.IsNamed := by
  refine ⟨fun t u ht hu => ⟨ht.text_inj DType.distinct_listedName hu, ?_⟩, fun e t h =>
    GraphFile.isNamed_of_type h⟩
  rintro rfl
  rfl

/-- The digits of two shapes are the same, and so are their numbers of axes. -/
theorem ValueType.text_identifies_digits :
    (ofShape ⟨.float32, [.static 1, .static 23, .symbolic "n"]⟩).text
      ≠ (ofShape ⟨.float32, [.static 12, .static 3, .symbolic "n"]⟩).text := by
  have hnamed (m n : Nat) :
      (ofShape ⟨.float32, [.static m, .static n, .symbolic "n"]⟩).IsNamed := by
    refine ⟨rfl, ?_⟩
    rintro _ ⟨⟩ d hd name rfl
    obtain rfl : name = "n" := by simpa using hd
    decide
  intro h
  have hsame := (text_identifies.1 _ _ (hnamed 1 23) (hnamed 12 3)).mp h
  exact absurd hsame (by decide)

end TensorGraph
