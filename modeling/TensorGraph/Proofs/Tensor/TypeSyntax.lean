import Mathlib.Data.List.TakeWhile
import TensorGraph.Proofs.Results
import TensorGraph.Proofs.Text.Identifier
import TensorGraph.Tensor.DType

/-!
# Proofs/Tensor/TypeSyntax — the texts of concrete tensor types are read exactly

    text       tensor(float)   tensor( Int64 )   tensor(float))   tensor()   tensor(   T
    inside     float           ␣Int64␣           float)           (empty)    none      none
    read as    float32         int64             a fault          a fault    none      none

A concrete type is `tensor(`, any text, and `)` (`tensorTextInner?_eq_some_iff`).  The text inside
is read by its core, what is left without the white space around it (`Text.TrimsTo`), and case does
not matter.  The names that are read are the names that are written
(`DType.mem_namedElements_iff`), so reading accepts the named element types, each by its own name,
and nothing else (`parseTensorText_exact`).  Identifiers have no parenthesis, so type variables and
concrete types are told apart (`parseTensorText_eq_none_of_isIdentifier`).
-/

namespace TensorGraph

/-! ## White space -/

namespace Text

/-- `core` is what is left of `s` without the white space at its ends. -/
structure TrimsTo (s core : String) : Prop where
  around : ∃ before after, s.toList = before ++ core.toList ++ after ∧
    (∀ c ∈ before, isBlank c = true) ∧ ∀ c ∈ after, isBlank c = true
  first : ∀ c ∈ core.toList.head?, isBlank c = false
  last : ∀ c ∈ core.toList.getLast?, isBlank c = false

section

variable {cs rest before after : List Char}

theorem dropWhile_isBlank_eq_self (h : ∀ c ∈ rest.head?, isBlank c = false) :
    rest.dropWhile isBlank = rest := by
  cases rest with
  | nil => rfl
  | cons c rest => rw [List.dropWhile_cons, h c rfl, if_neg Bool.false_ne_true]

theorem isBlank_head?_dropWhile {c : Char} (h : c ∈ (cs.dropWhile isBlank).head?) :
    isBlank c = false := by
  have hstop := List.head?_dropWhile_not isBlank cs
  rw [Option.mem_def.mp h] at hstop
  simpa using hstop

/-- **Dropping white space** takes away a blank part, and stops at the first other character. -/
theorem dropWhile_isBlank_eq_iff :
    cs.dropWhile isBlank = rest ↔ (∃ before, cs = before ++ rest ∧ ∀ c ∈ before, isBlank c = true) ∧
      ∀ c ∈ rest.head?, isBlank c = false := by
  constructor
  · rintro rfl
    refine ⟨⟨cs.takeWhile isBlank, List.takeWhile_append_dropWhile.symm, ?_⟩, ?_⟩
    · exact fun c hc => List.mem_takeWhile_imp hc
    · exact fun c hc => isBlank_head?_dropWhile hc
  · rintro ⟨⟨before, rfl, hblank⟩, hfirst⟩
    rw [List.dropWhile_append_of_pos hblank, dropWhile_isBlank_eq_self hfirst]

theorem trimChars_eq_iff {core : List Char} :
    trimChars cs = core ↔ (cs.dropWhile isBlank).reverse.dropWhile isBlank = core.reverse := by
  rw [trimChars, List.reverse_eq_iff]

theorem trimChars_of_around {core : List Char} (hbefore : ∀ c ∈ before, isBlank c = true)
    (hafter : ∀ c ∈ after, isBlank c = true) (hfirst : ∀ c ∈ core.head?, isBlank c = false)
    (hlast : ∀ c ∈ core.getLast?, isBlank c = false) :
    trimChars (before ++ core ++ after) = core := by
  have hafter' : ∀ c ∈ after.reverse, isBlank c = true := by simpa using hafter
  rw [trimChars_eq_iff, List.append_assoc, List.dropWhile_append_of_pos hbefore]
  -- an empty core does not stop the first pass, which then takes what comes after as well
  cases core with
  | nil => simp [List.dropWhile_eq_nil_iff.mpr hafter]
  | cons c core =>
    have hstop : (c :: core ++ after).dropWhile isBlank = c :: core ++ after :=
      dropWhile_isBlank_eq_self hfirst
    rw [hstop, List.reverse_append, dropWhile_isBlank_eq_iff]
    exact ⟨⟨after.reverse, rfl, hafter'⟩, by rwa [List.head?_reverse]⟩

end

/-- **Trimming takes away the white space at the ends**, all of it and nothing else. -/
theorem trim_eq_iff {s core : String} : trim s = core ↔ TrimsTo s core := by
  rw [trim, ← String.toList_inj, String.toList_ofList]
  constructor
  · intro h
    obtain ⟨⟨after, hmiddle, hafter⟩, hlast⟩ := dropWhile_isBlank_eq_iff.mp (trimChars_eq_iff.mp h)
    obtain ⟨⟨before, hs, hbefore⟩, hfirst⟩ :=
      dropWhile_isBlank_eq_iff.mp (rfl : s.toList.dropWhile isBlank = _)
    rw [List.reverse_eq_iff, List.reverse_append, List.reverse_reverse] at hmiddle
    rw [hmiddle] at hs hfirst
    refine ⟨⟨before, after.reverse, by rw [hs, List.append_assoc], hbefore, ?_⟩, ?_, ?_⟩
    · simpa using hafter
    · exact fun c hc => hfirst c (by rw [List.head?_append, Option.mem_def.mp hc]; rfl)
    · simpa using hlast
  · rintro ⟨⟨before, after, hs, hbefore, hafter⟩, hfirst, hlast⟩
    rw [hs, trimChars_of_around hbefore hafter hfirst hlast]

end Text

/-! ## Element names -/

namespace DType

/-- The element types that have a name in type texts. -/
def named : List DType := [
  bool, int8, int16, int32, int64, uint8, uint16, uint32, uint64,
  float16, float32, float64, bfloat16, complex64, complex128]

/-- A spelling of an element type: its name, in any case, with white space around it or not. -/
def SpelledBy (t : DType) (s : String) : Prop :=
  ∃ core, Text.TrimsTo s core ∧ Text.lowercase core = t.elementName

variable {t : DType} {s name : String}

theorem spelledBy_iff : t.SpelledBy s ↔ Text.lowercase (Text.trim s) = t.elementName := by
  simp only [SpelledBy, ← Text.trim_eq_iff, exists_eq_left']

instance : Decidable (t.SpelledBy s) := decidable_of_iff _ spelledBy_iff.symm

/-- **The names that are read are the names that are written.** -/
theorem mem_namedElements_iff : (t, name) ∈ namedElements ↔ t ∈ named ∧ name = t.elementName := by
  constructor
  · intro h
    have hread : ∀ e ∈ namedElements, e.1 ∈ named ∧ e.2 = e.1.elementName := by decide
    exact hread _ h
  · rintro ⟨h, rfl⟩
    have hwritten : ∀ t ∈ named, (t, t.elementName) ∈ namedElements := by decide
    exact hwritten t h

/-- A name is in lower case already, and has no white space around it. -/
theorem spelledBy_elementName (h : t ∈ named) : t.SpelledBy t.elementName := by
  have hnames : ∀ t ∈ named, t.SpelledBy t.elementName := by decide +kernel
  exact hnames t h

/-- **An element name is read exactly if it is listed**, in any case and with white space around
it. -/
theorem ofElementName_eq_ok_iff :
    ofElementName s = .ok t ↔ (t, Text.lowercase (Text.trim s)) ∈ namedElements := by
  have hnodup : (namedElements.map (·.2)).Nodup := by decide
  have hfind (e : DType × String) := find?_key_eq_some_iff hnodup (x := e)
    (k := Text.lowercase (Text.trim s))
  rw [ofElementName]
  constructor
  · intro h
    split at h
    · rename_i t name hfound
      obtain ⟨hmem, rfl⟩ := (hfind _).mp hfound
      exact Except.ok.inj h ▸ hmem
    · cases h
  · intro h
    rw [(hfind _).mpr ⟨h, rfl⟩]

/-- **An element name is read as the named type that it spells.** -/
theorem ofElementName_eq_ok_iff_spelledBy :
    ofElementName s = .ok t ↔ t ∈ named ∧ t.SpelledBy s := by
  rw [ofElementName_eq_ok_iff, mem_namedElements_iff, spelledBy_iff]

theorem eq_of_ofElementName_eq_error {e : UnknownElement} (h : ofElementName s = .error e) :
    e = ⟨s⟩ := by
  rw [ofElementName] at h
  split at h
  · cases h
  · exact (Except.error.inj h).symm

theorem ofElementName_of_not_spelledBy (h : ∀ t ∈ named, ¬ t.SpelledBy s) :
    ofElementName s = .error ⟨s⟩ := by
  cases hread : ofElementName s with
  | ok t =>
    obtain ⟨hnamed, hspelled⟩ := ofElementName_eq_ok_iff_spelledBy.mp hread
    exact absurd hspelled (h t hnamed)
  | error e => rw [eq_of_ofElementName_eq_error hread]

end DType

/-! ## Tensor types -/

section

variable {s w : String} {t : DType}

/-- **The form of a concrete type.**  The two ends do not overlap, and the closing parenthesis is
the last character, whatever stands inside. -/
theorem tensorTextInner?_eq_some_iff : tensorTextInner? s = some w ↔ s = "tensor(" ++ w ++ ")" := by
  rw [← String.toList_inj, String.toList_append, String.toList_append, List.append_assoc]
  simp only [tensorTextInner?]
  constructor
  · intro h
    split at h
    next hopening =>
      obtain ⟨rest, hrest⟩ := List.isPrefixOf_iff_prefix.mp hopening
      rw [← hrest, List.drop_left] at h
      split at h
      next inner hinner =>
        obtain rfl := Option.some.inj h
        simp [← hrest, List.reverse_eq_iff.mp hinner]
      next => cases h
    next => cases h
  · intro h
    rw [h, if_pos (List.isPrefixOf_iff_prefix.mpr (List.prefix_append ..)), List.drop_left]
    simp

theorem isSome_parseTensorText :
    (parseTensorText s).isSome = true ↔ ∃ w, s = "tensor(" ++ w ++ ")" := by
  rw [parseTensorText, Option.isSome_map, Option.isSome_iff_exists]
  simp only [tensorTextInner?_eq_some_iff]

/-- A concrete type is read by what stands inside. -/
theorem parseTensorText_of_form (h : s = "tensor(" ++ w ++ ")") :
    parseTensorText s = some ((DType.ofElementName w).mapError (⟨s, ·⟩)) := by
  rw [parseTensorText, tensorTextInner?_eq_some_iff.mpr h, Option.map_some]
  cases DType.ofElementName w <;> rfl

theorem parseTensorText_eq_ok_iff (h : s = "tensor(" ++ w ++ ")") :
    parseTensorText s = some (.ok t) ↔ t ∈ DType.named ∧ t.SpelledBy w := by
  rw [parseTensorText_of_form h, ← DType.ofElementName_eq_ok_iff_spelledBy]
  cases DType.ofElementName w <;> simp [Except.mapError]

theorem parseTensorText_of_not_spelledBy (h : s = "tensor(" ++ w ++ ")")
    (hw : ∀ t ∈ DType.named, ¬ t.SpelledBy w) : parseTensorText s = some (.error ⟨s, ⟨w⟩⟩) := by
  rw [parseTensorText_of_form h, DType.ofElementName_of_not_spelledBy hw]
  rfl

theorem mem_named_of_parseTensorText (h : parseTensorText s = some (.ok t)) : t ∈ DType.named := by
  obtain ⟨w, hw⟩ := isSome_parseTensorText.mp (Option.isSome_of_eq_some h)
  exact ((parseTensorText_eq_ok_iff hw).mp h).1

/-- A concrete type has an element type. -/
theorem ne_invalid_of_parseTensorText (h : parseTensorText s = some (.ok t)) : t ≠ .invalid := by
  have hnamed : ∀ t ∈ DType.named, t ≠ .invalid := by decide
  exact hnamed t (mem_named_of_parseTensorText h)

/-- **No identifier is a concrete type**: it has no parenthesis. -/
theorem parseTensorText_eq_none_of_isIdentifier (h : Text.isIdentifier s = true) :
    parseTensorText s = none := by
  rw [← Option.not_isSome_iff_eq_none, isSome_parseTensorText]
  rintro ⟨w, rfl⟩
  have hparen : '(' ∈ ("tensor(" ++ w ++ ")").toList := by simp
  exact absurd (Text.isWordChar_of_isIdentifier h hparen) (by decide)

/-- **What is written is read back.** -/
theorem parseTensorText_tensorText (h : t ∈ DType.named) :
    parseTensorText t.tensorText = some (.ok t) :=
  (parseTensorText_eq_ok_iff rfl).mpr ⟨h, DType.spelledBy_elementName h⟩

end

/-- **The tensor type syntax is read exactly.**  A text is a concrete type if it is `tensor(`, any
text, and `)`.  It is then read as the named element type that its inside spells, and if there is
none, the fault names the text and its inside.  The element type that is read is a known one, and is
read back from the text written for it.  No identifier is a concrete type. -/
theorem parseTensorText_exact (s : String) :
    ((parseTensorText s).isSome = true ↔ ∃ w, s = "tensor(" ++ w ++ ")") ∧
      (∀ w, s = "tensor(" ++ w ++ ")" →
        (∀ t, parseTensorText s = some (.ok t) ↔ t ∈ DType.named ∧ t.SpelledBy w) ∧
        ((∀ t ∈ DType.named, ¬ t.SpelledBy w) → parseTensorText s = some (.error ⟨s, ⟨w⟩⟩))) ∧
      (∀ t, parseTensorText s = some (.ok t) →
        t ≠ .invalid ∧ parseTensorText t.tensorText = some (.ok t)) ∧
      (Text.isIdentifier s = true → parseTensorText s = none) := by
  refine ⟨isSome_parseTensorText, fun w hw => ⟨fun t => parseTensorText_eq_ok_iff hw, ?_⟩,
    fun t ht => ⟨ne_invalid_of_parseTensorText ht, ?_⟩, parseTensorText_eq_none_of_isIdentifier⟩
  · exact parseTensorText_of_not_spelledBy hw
  · exact parseTensorText_tensorText (mem_named_of_parseTensorText ht)

/-- White space and capitals beyond ASCII, a type within a type, and a word. -/
theorem parseTensorText_exact_inside :
    parseTensorText "tensor(\tİNT8\u00a0)" = some (.ok .int8) ∧
      parseTensorText DType.int8.tensorText = some (.ok .int8) ∧
      parseTensorText "tensor(tensor(int8))"
        = some (.error ⟨"tensor(tensor(int8))", ⟨"tensor(int8)"⟩⟩) ∧
      Text.isIdentifier "tensor_int8" = true ∧ parseTensorText "tensor_int8" = none := by
  obtain ⟨-, hreads, hback, -⟩ := parseTensorText_exact "tensor(\tİNT8\u00a0)"
  have hspelled : DType.SpelledBy .int8 "\tİNT8\u00a0" := by decide +kernel
  have hread := ((hreads "\tİNT8\u00a0" (by decide)).1 .int8).mpr ⟨by decide, hspelled⟩
  obtain ⟨-, hnested, -, -⟩ := parseTensorText_exact "tensor(tensor(int8))"
  have hunknown : ∀ t ∈ DType.named, ¬ t.SpelledBy "tensor(int8)" := by decide +kernel
  obtain ⟨-, -, -, hword⟩ := parseTensorText_exact "tensor_int8"
  exact ⟨hread, (hback _ hread).2, (hnested "tensor(int8)" (by decide)).2 hunknown, by decide,
    hword (by decide)⟩

end TensorGraph
