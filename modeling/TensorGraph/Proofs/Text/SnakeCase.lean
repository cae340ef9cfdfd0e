import TensorGraph.Proofs.Text.Case
import TensorGraph.Proofs.Text.Identifier
import TensorGraph.Text.Case

/-!
# Proofs/Text/SnakeCase — snake case is lower case with the words set apart

    name             HTTPServer2     log__SumExp     _Max_
    in lower case    httpserver2     log__sumexp     _max_
    in snake case    http_server2    log__sum_exp    _max_

An underscore is put in between two neighbours only, and neither of them is an underscore
(`SetApart`, `setApart_snakeAfter`).  So nothing else changes but case, an identifier stays one, and
a second pass finds no capital to work on.  What is between two underscores is worked on by itself
(`snakeAfter_append`), so a double underscore is there exactly where the name had one
(`snakeAfter_eq_doubled_iff`).  `snakeCase_setsApart` is all of this.
-/

namespace TensorGraph.Text

/-! ## Underscores between neighbours -/

/-- The second text is the first with underscores put in, at most one between two neighbours, and
none beside an underscore, in front of the first character or after the last. -/
inductive SetApart : List Char → List Char → Prop where
  | nil : SetApart [] []
  | single (c : Char) : SetApart [c] [c]
  | keep {c d : Char} {cs out : List Char} (hrest : SetApart (d :: cs) (d :: out)) :
    SetApart (c :: d :: cs) (c :: d :: out)
  | part {c d : Char} {cs out : List Char} (hc : c ≠ '_') (hd : d ≠ '_')
    (hrest : SetApart (d :: cs) (d :: out)) : SetApart (c :: d :: cs) (c :: '_' :: d :: out)

namespace SetApart

variable {cs out : List Char}

/-- **Nothing but underscores is put in.** -/
theorem filter_eq (h : SetApart cs out) : out.filter (· ≠ '_') = cs.filter (· ≠ '_') := by
  induction h with
  | nil => rfl
  | single c => rfl
  | keep _ ih =>
    simp only [List.filter_cons] at ih ⊢
    rw [ih]
  | part _ _ _ ih =>
    rw [List.filter_cons, List.filter_cons_of_neg (by decide)]
    simp only [List.filter_cons] at ih ⊢
    rw [ih]

theorem head?_eq (h : SetApart cs out) : out.head? = cs.head? := by
  cases h <;> rfl

theorem mem_or_eq (h : SetApart cs out) {c : Char} (hc : c ∈ out) : c ∈ cs ∨ c = '_' := by
  by_cases hne : c = '_'
  · exact .inr hne
  · have hkept : c ∈ out.filter (· ≠ '_') := List.mem_filter.mpr ⟨hc, by simpa using hne⟩
    rw [h.filter_eq] at hkept
    exact .inl (List.mem_filter.mp hkept).1

/-- **An identifier stays one.** -/
theorem isIdentifier {s t : String} (h : SetApart s.toList t.toList)
    (hs : Text.isIdentifier s = true) : Text.isIdentifier t = true := by
  obtain ⟨hne, hchars, hfirst⟩ := isIdentifier_iff.mp hs
  refine isIdentifier_iff.mpr ⟨?_, fun c hc => ?_, ?_⟩
  · rintro rfl
    have hhead : s.toList.head? = none := h.head?_eq.symm
    exact hne (by simpa using hhead)
  · rcases h.mem_or_eq hc with hmem | rfl
    · exact hchars c hmem
    · exact .inr (.inr rfl)
  · rw [BeginsWithDigit, h.head?_eq]
    exact hfirst

end SetApart

/-! ## Word characters in lower case -/

section

variable {c : Char}

theorem toNat_lt_of_isWordChar (h : isWordChar c = true) : c.toNat < 128 := by
  have hbound {d : Char} (hd : d.toNat < 128) (hle : c ≤ d) : c.toNat < 128 :=
    Nat.lt_of_le_of_lt (UInt32.le_iff_toNat_le.mp hle) hd
  rcases isWordChar_iff.mp h with (hletter | hletter) | hdigit | rfl
  · exact hbound (by decide) hletter.2
  · exact hbound (by decide) hletter.2
  · exact hbound (by decide) hdigit.2
  · decide

theorem isWordChar_lowerChar (h : isWordChar c = true) : isWordChar (lowerChar c) = true :=
  of_ascii (P := fun c => isWordChar c = true → isWordChar (lowerChar c) = true)
    (by decide +kernel) (toNat_lt_of_isWordChar h) h

theorem isDigit_lowerChar_iff (h : isWordChar c = true) : IsDigit (lowerChar c) ↔ IsDigit c :=
  of_ascii (P := fun c => IsDigit (lowerChar c) ↔ IsDigit c) (by decide +kernel)
    (toNat_lt_of_isWordChar h)

theorem lowerChar_eq_underscore_iff (h : isWordChar c = true) : lowerChar c = '_' ↔ c = '_' :=
  of_ascii (P := fun c => lowerChar c = '_' ↔ c = '_') (by decide +kernel)
    (toNat_lt_of_isWordChar h)

theorem isUpper_lowerChar_eq_false (h : isWordChar c = true) : isUpper (lowerChar c) = false :=
  of_ascii (P := fun c => isUpper (lowerChar c) = false) (by decide +kernel)
    (toNat_lt_of_isWordChar h)

/-- What is no capital is in lower case. -/
theorem lowerChar_eq_self (h : isWordChar c = true) (hupper : isUpper c = false) :
    lowerChar c = c :=
  of_ascii (P := fun c => isUpper c = false → lowerChar c = c) (by decide +kernel)
    (toNat_lt_of_isWordChar h) hupper

end

/-! ## One character after another -/

section

variable {prev c : Char} {cs : List Char}

theorem startsWord_underscore (cs : List Char) : startsWord '_' cs = false := rfl

/-- The first character is treated as one that follows an underscore. -/
theorem snakeChars_eq_snakeAfter (cs : List Char) : snakeChars cs = snakeAfter '_' cs := by
  cases cs with
  | nil => rfl
  | cons c cs =>
    rw [snakeChars, snakeAfter, startsWord_underscore]
    split <;> rfl

/-- **The step lemma** — a character goes to lower case, perhaps after an underscore. -/
theorem snakeAfter_cons (h : isWordChar c = true) :
    snakeAfter prev (c :: cs) = (if isUpper c && startsWord prev cs then ['_'] else []) ++
      lowerChar c :: snakeAfter c cs := by
  rw [snakeAfter]
  cases hupper : isUpper c with
  | true => simp
  | false => simp [lowerChar_eq_self h hupper]

theorem snakeAfter_underscore (prev : Char) (cs : List Char) :
    snakeAfter prev ('_' :: cs) = '_' :: snakeAfter '_' cs := rfl

theorem snakeAfter_underscore_cons (h : isWordChar c = true) :
    snakeAfter '_' (c :: cs) = lowerChar c :: snakeAfter c cs := by
  rw [snakeAfter_cons h, startsWord_underscore, Bool.and_false]
  rfl

/-- **The run lemma** — underscores go between neighbours that are none. -/
theorem setApart_snakeAfter : ∀ {c : Char} {cs : List Char},
    (∀ d ∈ c :: cs, isWordChar d = true) →
      SetApart ((c :: cs).map lowerChar) (lowerChar c :: snakeAfter c cs)
  | c, [], _ => .single _
  | c, d :: ds, h => by
    obtain ⟨hc, hcs⟩ := List.forall_mem_cons.mp h
    have hd : isWordChar d = true := hcs d List.mem_cons_self
    have hrest := setApart_snakeAfter hcs
    rw [snakeAfter_cons hd, List.map_cons, List.map_cons]
    split
    next hparts =>
      obtain ⟨hupper, hstarts⟩ := Bool.and_eq_true_iff.mp hparts
      refine .part (mt (lowerChar_eq_underscore_iff hc).mp ?_)
        (mt (lowerChar_eq_underscore_iff hd).mp ?_) hrest
      · rintro rfl
        cases hstarts
      · rintro rfl
        cases hupper
    next => exact .keep hrest

theorem setApart_snakeChars (h : ∀ c ∈ cs, isWordChar c = true) :
    SetApart (cs.map lowerChar) (snakeChars cs) := by
  cases cs with
  | nil => exact .nil
  | cons c cs =>
    rw [snakeChars_eq_snakeAfter, snakeAfter_underscore_cons (h c List.mem_cons_self)]
    exact setApart_snakeAfter h

/-- Where there is no capital there is nothing to do. -/
theorem snakeAfter_of_not_isUpper (h : ∀ c ∈ cs, isUpper c = false) : snakeAfter prev cs = cs := by
  induction cs generalizing prev with
  | nil => rfl
  | cons c cs ih =>
    obtain ⟨hc, hcs⟩ := List.forall_mem_cons.mp h
    rw [snakeAfter, hc, ih hcs]
    rfl

end

/-! ## Double underscores -/

section

variable {prev : Char} {cs u v : List Char}

theorem startsWord_append (prev : Char) (u v : List Char) :
    startsWord prev (u ++ '_' :: v) = startsWord prev u := by
  cases u with
  | nil =>
    rw [startsWord, startsWord]
    rfl
  | cons d u => rfl

/-- **Underscores separate** — what is on either side is worked on by itself. -/
theorem snakeAfter_append (prev : Char) (u v : List Char) :
    snakeAfter prev (u ++ '_' :: v) = snakeAfter prev u ++ '_' :: snakeAfter '_' v := by
  induction u generalizing prev with
  | nil => rfl
  | cons c u ih =>
    rw [List.cons_append, snakeAfter, snakeAfter, startsWord_append, ih c]
    split <;> simp

theorem snakeAfter_underscore_eq_cons (hcs : ∀ c ∈ cs, isWordChar c = true)
    (h : snakeAfter '_' cs = '_' :: v) : ∃ v', cs = '_' :: v' ∧ snakeAfter '_' v' = v := by
  cases cs with
  | nil => cases h
  | cons c cs =>
    have hc := hcs c List.mem_cons_self
    rw [snakeAfter_underscore_cons hc] at h
    obtain ⟨hhead, hv⟩ := List.cons.inj h
    obtain rfl := (lowerChar_eq_underscore_iff hc).mp hhead
    exact ⟨cs, rfl, hv⟩

/-- A double underscore comes after a letter at the front, also if an underscore is put before the
letter. -/
theorem exists_of_append_eq {lead rest : List Char} {b : Char} (hlead : lead.length ≤ 1)
    (hb : b ≠ '_') (h : lead ++ b :: rest = u ++ '_' :: '_' :: v) :
    ∃ u₂, u = lead ++ b :: u₂ ∧ rest = u₂ ++ '_' :: '_' :: v := by
  match lead, u with
  | [], [] => simp_all
  | [], a :: u => exact ⟨u, by simp_all⟩
  | [a], [] => simp_all
  | [a], [a'] => simp_all
  | [a], a' :: b' :: u => exact ⟨u, by simp_all⟩
  | _ :: _ :: _, _ => simp at hlead

/-- A double underscore comes from one. -/
theorem exists_of_snakeAfter_eq (hcs : ∀ c ∈ cs, isWordChar c = true)
    (h : snakeAfter prev cs = u ++ '_' :: '_' :: v) :
    ∃ u' v', cs = u' ++ '_' :: '_' :: v' ∧ snakeAfter prev u' = u ∧ snakeAfter '_' v' = v := by
  induction cs generalizing prev u with
  | nil => simp [snakeAfter] at h
  | cons c cs ih =>
    obtain ⟨hc, hrest⟩ := List.forall_mem_cons.mp hcs
    by_cases hunder : c = '_'
    · subst hunder
      rw [snakeAfter_underscore] at h
      cases u with
      | nil =>
        obtain ⟨v', rfl, hv⟩ := snakeAfter_underscore_eq_cons hrest (List.cons.inj h).2
        exact ⟨[], v', rfl, rfl, hv⟩
      | cons b u =>
        obtain ⟨rfl, hafter⟩ := List.cons.inj h
        obtain ⟨u', v', rfl, rfl, hv⟩ := ih hrest hafter
        exact ⟨'_' :: u', v', rfl, rfl, hv⟩
    · -- a letter or digit, which is no part of the double underscore
      rw [snakeAfter_cons hc] at h
      obtain ⟨u₂, rfl, hafter⟩ := exists_of_append_eq (by split <;> simp)
        (mt (lowerChar_eq_underscore_iff hc).mp hunder) h
      obtain ⟨u', v', rfl, rfl, hv⟩ := ih hrest hafter
      refine ⟨c :: u', v', rfl, ?_, hv⟩
      rw [snakeAfter_cons hc, startsWord_append]

/-- **Double underscores are where they were.** -/
theorem snakeAfter_eq_doubled_iff (hcs : ∀ c ∈ cs, isWordChar c = true) :
    snakeAfter prev cs = u ++ '_' :: '_' :: v ↔
      ∃ u' v', cs = u' ++ '_' :: '_' :: v' ∧ snakeAfter prev u' = u ∧ snakeAfter '_' v' = v := by
  refine ⟨exists_of_snakeAfter_eq hcs, ?_⟩
  rintro ⟨u', v', rfl, rfl, rfl⟩
  rw [snakeAfter_append, snakeAfter_underscore]

end

/-! ## Identifiers -/

section

variable {s : String}

theorem toList_snakeCase (s : String) : (snakeCase s).toList = snakeAfter '_' s.toList := by
  rw [snakeCase, String.toList_ofList, snakeChars_eq_snakeAfter]

theorem isIdentifier_lowercase (h : isIdentifier s = true) : isIdentifier (lowercase s) = true := by
  have hword {c : Char} (hc : c ∈ s.toList) : isWordChar c = true := isWordChar_of_isIdentifier h hc
  obtain ⟨hne, -, hfirst⟩ := isIdentifier_iff.mp h
  refine isIdentifier_iff.mpr ⟨?_, fun c hc => ?_, ?_⟩
  · intro hempty
    have hmap := toList_lowercase s
    rw [hempty] at hmap
    exact hne (by simpa using hmap)
  · rw [toList_lowercase] at hc
    obtain ⟨b, hb, rfl⟩ := List.mem_map.mp hc
    exact isWordChar_iff.mp (isWordChar_lowerChar (hword hb))
  · rintro ⟨c, hc, hdigit⟩
    rw [toList_lowercase, List.head?_map] at hc
    obtain ⟨b, hb, rfl⟩ := Option.map_eq_some_iff.mp hc
    have hbdigit := (isDigit_lowerChar_iff (hword (List.mem_of_head? hb))).mp hdigit
    exact hfirst ⟨b, hb, hbdigit⟩

theorem setApart_snakeCase (h : isIdentifier s = true) :
    SetApart (lowercase s).toList (snakeCase s).toList := by
  rw [toList_lowercase, snakeCase, String.toList_ofList]
  exact setApart_snakeChars fun c hc => isWordChar_of_isIdentifier h hc

/-- **Snake case has no capitals.** -/
theorem isUpper_snakeCase (h : isIdentifier s = true) {c : Char} (hc : c ∈ (snakeCase s).toList) :
    isUpper c = false := by
  rcases (setApart_snakeCase h).mem_or_eq hc with hlower | rfl
  · rw [toList_lowercase] at hlower
    obtain ⟨b, hb, rfl⟩ := List.mem_map.mp hlower
    exact isUpper_lowerChar_eq_false (isWordChar_of_isIdentifier h hb)
  · rfl

theorem snakeCase_eq_self (h : ∀ c ∈ s.toList, isUpper c = false) : snakeCase s = s := by
  rw [← String.toList_inj, toList_snakeCase, snakeAfter_of_not_isUpper h]

theorem snakeCase_eq_doubled_iff (h : isIdentifier s = true) (u v : String) :
    snakeCase s = u ++ "__" ++ v ↔
      ∃ u' v', s = u' ++ "__" ++ v' ∧ snakeCase u' = u ∧ snakeCase v' = v := by
  have hchars (s t : String) : snakeCase s = t ↔ snakeAfter '_' s.toList = t.toList := by
    rw [← String.toList_inj, toList_snakeCase]
  have hdoubled (u v : String) : (u ++ "__" ++ v).toList = u.toList ++ '_' :: '_' :: v.toList := by
    simp
  rw [hchars, hdoubled, snakeAfter_eq_doubled_iff fun c hc => isWordChar_of_isIdentifier h hc]
  constructor
  · rintro ⟨u', v', hs, hu, hv⟩
    refine ⟨.ofList u', .ofList v', String.toList_inj.mp ?_, (hchars ..).mpr ?_,
      (hchars ..).mpr ?_⟩
    · rw [hdoubled, String.toList_ofList, String.toList_ofList, hs]
    · rw [String.toList_ofList, hu]
    · rw [String.toList_ofList, hv]
  · rintro ⟨u', v', rfl, hu, hv⟩
    exact ⟨u'.toList, v'.toList, hdoubled .., (hchars ..).mp hu, (hchars ..).mp hv⟩

end

/-- What the snake case of a name is like. -/
structure IsSnakeCaseOf (s out : String) : Prop where
  noCapital : ∀ c ∈ out.toList, isUpper c = false
  settled : snakeCase out = out
  /-- Without underscores it is the name in lower case without underscores, -/
  letters : out.toList.filter (· ≠ '_') = (lowercase s).toList.filter (· ≠ '_')
  /-- for underscores are put in between neighbours that are none. -/
  setApart : SetApart (lowercase s).toList out.toList
  isIdentifier : isIdentifier out = true
  /-- A double underscore is where the name has one: what is before it, and what is after it, is the
  snake case of what is before and after in the name. -/
  doubled_iff : ∀ u v, out = u ++ "__" ++ v ↔
    ∃ u' v', s = u' ++ "__" ++ v' ∧ snakeCase u' = u ∧ snakeCase v' = v

/-- **Snake case only lowers letters and sets words apart.** -/
theorem snakeCase_setsApart {s : String} (h : isIdentifier s = true) :
    IsSnakeCaseOf s (snakeCase s) where
  noCapital _ hc := isUpper_snakeCase h hc
  settled := snakeCase_eq_self fun _ hc => isUpper_snakeCase h hc
  letters := (setApart_snakeCase h).filter_eq
  setApart := setApart_snakeCase h
  isIdentifier := (setApart_snakeCase h).isIdentifier (isIdentifier_lowercase h)
  doubled_iff := snakeCase_eq_doubled_iff h

/-- Runs of capitals and of underscores, at the ends and within. -/
theorem snakeCase_setsApart_runs :
    snakeCase "_HTTPServer2__logSUMExp_" = "_http_server2__log_sum_exp_" ∧
      IsSnakeCaseOf "_HTTPServer2__logSUMExp_" "_http_server2__log_sum_exp_" := by
  have hsnake : snakeCase "_HTTPServer2__logSUMExp_" = "_http_server2__log_sum_exp_" := by
    decide +kernel
  exact ⟨hsnake, hsnake ▸ snakeCase_setsApart (by decide)⟩

end TensorGraph.Text
