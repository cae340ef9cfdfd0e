import TensorGraph.GraphFile.InputType
import TensorGraph.Proofs.Number.Numerals
import TensorGraph.Proofs.Tensor.TypeSyntax

/-!
# Proofs/GraphFile/InputTypes — the types that graph files give to inputs

    shape     [+3,   batch,   "?",   ""]      []            ~              (none)
    means      3     batch     ?      ?       a scalar      rank unknown   rank unknown

An entry of a shape is a size, a name or a mark for a dimension that is not known (`WritesDim`).  A
shape is a list of such entries, or it says nothing (`WritesShape`).  An input has a type exactly if
its element name is known and its shape is of this form (`InputEntry.type_iff_writes`).
-/

namespace TensorGraph.GraphFile

open Number

/-! ## Dimensions -/

/-- What an entry of a shape means: a decimal numeral within 64 bits is a size, a question mark or
an empty text says nothing, and an identifier names a dimension. -/
inductive WritesDim [Yaml.Resolution] : Yaml.Node → Dim → Prop
  | size {s : Yaml.Scalar} {i : Int} (htag : s.tag = "!!int") (htext : Numeral 10 s.text.toList i)
      (hlow : 0 ≤ i) (hhigh : i < twoTo 63) : WritesDim (.scalar s) (.static i.toNat)
  | unknown {s : Yaml.Scalar} (htag : s.tag = "!!str") (htext : s.text = "?" ∨ s.text = "") :
      WritesDim (.scalar s) .unknown
  | symbol {s : Yaml.Scalar} (htag : s.tag = "!!str") (htext : Text.isIdentifier s.text = true) :
      WritesDim (.scalar s) (.symbolic s.text)

section

variable [Yaml.Resolution] {n : Yaml.Node} {s : Yaml.Scalar} {d : Dim}

theorem readDim_int (htag : s.tag = "!!int") :
    readDim (.scalar s) = .ok d ↔
      ∃ i, integerInBase 10 s.text.toList = .ok i ∧ 0 ≤ i ∧ d = .static i.toNat := by
  simp only [readDim, if_pos htag]
  cases integerInBase 10 s.text.toList with
  | error e => simp
  | ok i =>
    by_cases hneg : i < 0
    · simp [hneg, Int.not_le.mpr hneg]
    · simp [Dim.ofInt, hneg, Int.not_lt.mp hneg, eq_comm]

theorem readDim_str (htag : s.tag = "!!str") :
    readDim (.scalar s) = .ok d ↔
      (s.text = "?" ∨ s.text = "") ∧ d = .unknown ∨
        Text.isIdentifier s.text = true ∧ d = .symbolic s.text := by
  have hint : s.tag ≠ "!!int" := by simp [htag]
  simp only [readDim, if_neg hint, if_pos htag]
  by_cases hopen : s.text = "?" ∨ s.text = ""
  · have hplain : Text.isIdentifier s.text = false := by
      rcases hopen with h | h <;> rw [h] <;> decide
    simp [hopen, hplain, @eq_comm _ d]
  · by_cases hname : Text.isIdentifier s.text = true <;> simp [hopen, hname, @eq_comm _ d]

/-- **An entry is read exactly if it writes a dimension**, and it is read as that. -/
theorem readDim_eq_ok_iff : readDim n = .ok d ↔ WritesDim n d := by
  cases n with
  | scalar s =>
    constructor
    · intro h
      by_cases hint : s.tag = "!!int"
      · obtain ⟨i, hi, hlow, rfl⟩ := (readDim_int hint).mp h
        obtain ⟨htext, hrange⟩ := (integerInBase_eq_ok_iff (by decide) (by decide)).mp hi
        exact .size hint htext hlow hrange.2
      · by_cases hstr : s.tag = "!!str"
        · rcases (readDim_str hstr).mp h with ⟨htext, rfl⟩ | ⟨htext, rfl⟩
          · exact .unknown hstr htext
          · exact .symbol hstr htext
        · simp [readDim, hint, hstr] at h
    · intro h
      cases h with
      | size htag htext hlow hhigh =>
        have hrange : InRange _ := ⟨Int.le_trans (by decide) hlow, hhigh⟩
        exact (readDim_int htag).mpr
          ⟨_, (integerInBase_eq_ok_iff (by decide) (by decide)).mpr ⟨htext, hrange⟩, hlow, rfl⟩
      | unknown htag htext => exact (readDim_str htag).mpr (.inl ⟨htext, rfl⟩)
      | symbol htag htext => exact (readDim_str htag).mpr (.inr ⟨htext, rfl⟩)
  | sequence line tag? items => exact ⟨fun h => by simp [readDim] at h, nofun⟩
  | mapping line tag? entries => exact ⟨fun h => by simp [readDim] at h, nofun⟩
  | reference line anchor target tag number => exact ⟨fun h => by simp [readDim] at h, nofun⟩

/-- No entry makes a static dimension of a negative size. -/
theorem readDim_ne_negative (n : Yaml.Node) (e : Dim.Negative) :
    readDim n ≠ .error (.negative e) := by
  cases n with
  | scalar s =>
    simp only [readDim]
    split
    · cases integerInBase 10 s.text.toList with
      | error e => simp
      | ok i => by_cases hneg : i < 0 <;> simp [Dim.ofInt, hneg]
    · split
      · split
        · nofun
        · split <;> nofun
      · nofun
  | sequence line tag? items => nofun
  | mapping line tag? entries => nofun
  | reference line anchor target tag number => nofun

end

/-! ## Shapes -/

/-- What the shape of an input means: it says nothing where it is missing or a null, and otherwise
lists the dimensions. -/
inductive WritesShape [Yaml.Resolution] : Option Yaml.Node → Option (List Dim) → Prop
  | missing : WritesShape none none
  | null {s : Yaml.Scalar} (htag : s.tag = "!!null") : WritesShape (some (.scalar s)) none
  | list {line : Nat} {tag? : Option String} {items : List Yaml.Node} {dims : List Dim}
      (hitems : List.Forall₂ WritesDim items dims) :
      WritesShape (some (.sequence line tag? items)) (some dims)

section

variable [Yaml.Resolution] {t : ValueType} {shape? : Option Yaml.Node} {dtype : DType}

theorem mapM_readDim_eq_ok_iff {items : List Yaml.Node} {dims : List Dim} :
    items.mapM readDim = .ok dims ↔ List.Forall₂ WritesDim items dims := by
  simp only [mapM_eq_ok_iff, readDim_eq_ok_iff]

theorem withShape_of_writes {dims? : Option (List Dim)} (h : WritesShape shape? dims?) :
    withShape (.tensor dtype) shape? = .ok ⟨.tensor, dtype, dims?⟩ := by
  cases h with
  | missing => rfl
  | null htag => simp [withShape, isAbsent, htag, ValueType.tensor]
  | list hitems =>
    simp [withShape, isAbsent, mapM_readDim_eq_ok_iff.mpr hitems, ValueType.tensor,
      ValueType.withDims]

/-- A shape is of this form, or it is no list, or one of its entries is no dimension. -/
theorem withShape_cases (dtype : DType) (shape? : Option Yaml.Node) :
    (∃ dims?, WritesShape shape? dims?) ∨
      (∃ line, withShape (.tensor dtype) shape? = .error (.shapeNotList line)) ∨
      ∃ n e, readDim n = .error e ∧ withShape (.tensor dtype) shape? = .error (.dim e) := by
  match shape? with
  | none => exact .inl ⟨none, .missing⟩
  | some (.scalar s) =>
    by_cases htag : s.tag = "!!null"
    · exact .inl ⟨none, .null htag⟩
    · exact .inr (.inl ⟨s.line, by simp [withShape, isAbsent, htag, Yaml.Node.line]⟩)
  | some (.sequence line tag? items) =>
    cases hitems : items.mapM readDim with
    | ok dims => exact .inl ⟨some dims, .list (mapM_readDim_eq_ok_iff.mp hitems)⟩
    | error e =>
      obtain ⟨n, -, hn⟩ := exists_of_mapM_eq_error hitems
      exact .inr (.inr ⟨n, e, hn, by simp [withShape, isAbsent, hitems]⟩)
  | some (.mapping line tag? entries) => exact .inr (.inl ⟨line, rfl⟩)
  | some (.reference line anchor target tag number) => exact .inr (.inl ⟨line, rfl⟩)

/-- **A shape is read exactly if it is of this form**, and it adds its dimensions to the type. -/
theorem withShape_eq_ok_iff :
    withShape (.tensor dtype) shape? = .ok t ↔
      ∃ dims?, WritesShape shape? dims? ∧ t = ⟨.tensor, dtype, dims?⟩ := by
  constructor
  · intro h
    rcases withShape_cases dtype shape? with ⟨dims?, hdims⟩ | ⟨line, hline⟩ | ⟨n, e, -, he⟩
    · rw [withShape_of_writes hdims] at h
      exact ⟨dims?, hdims, (Except.ok.inj h).symm⟩
    · rw [hline] at h
      cases h
    · rw [he] at h
      cases h
  · rintro ⟨dims?, hdims, rfl⟩
    exact withShape_of_writes hdims

theorem withShape_ne_negative (cause : Dim.Negative) :
    withShape (.tensor dtype) shape? ≠ .error (.dim (.negative cause)) := by
  intro h
  rcases withShape_cases dtype shape? with ⟨dims?, hdims⟩ | ⟨line, hline⟩ | ⟨n, e, hn, he⟩
  · rw [withShape_of_writes hdims] at h
    cases h
  · rw [hline] at h
    cases h
  · obtain rfl : e = .negative cause := by simpa [he] using h
    exact readDim_ne_negative n cause hn

end

/-! ## Types -/

theorem not_listed_empty {dtype : DType} :
    (dtype, Text.lowercase (Text.trim "")) ∉ DType.namedElements := by
  have hkey : Text.lowercase (Text.trim "") = "" := by decide
  rw [hkey]
  simp [DType.namedElements]

/-- **An input has a type exactly if its element name is known and its shape is of the documented
form.**  The type is a tensor with that element type.  It has a shape exactly if one is listed, with
the dimensions that the entries mean, in order.  No entry makes a dimension of a negative size. -/
theorem InputEntry.type_iff_writes [Yaml.Resolution] (e : InputEntry) :
    (∀ t, e.type = .ok t ↔
      ∃ dtype dims?, (dtype, Text.lowercase (Text.trim e.dtype)) ∈ DType.namedElements ∧
        WritesShape e.shape? dims? ∧ t = ⟨.tensor, dtype, dims?⟩) ∧
    ∀ cause, e.type ≠ .error (.dim (.negative cause)) := by
  simp only [InputEntry.type]
  by_cases hempty : e.dtype = ""
  · simp [hempty, not_listed_empty]
  · simp only [if_neg hempty, ← DType.ofElementName_eq_ok_iff]
    cases DType.ofElementName e.dtype with
    | error cause => simp
    | ok dtype =>
      refine ⟨fun t => ?_, withShape_ne_negative⟩
      simp [withShape_eq_ok_iff]

end TensorGraph.GraphFile
