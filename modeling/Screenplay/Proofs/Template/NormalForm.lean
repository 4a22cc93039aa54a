/-
Identifiers made of identifiers. Words of small letters and numbers with hyphens between them are
split at the hyphens and nowhere else (`wordsOf_intercalate`). Of ASCII text the words of an
identifier with hyphens are therefore those of the text in lower case (`wordsOf_kebabChars`), and all
that lower case takes away, the other identifiers take away as well. So they can be made of the
identifier with hyphens as of the text.

Outside of ASCII this fails: there are letters that stay capital in lower case, and the lower case of
a letter may be more than letters.
-/
import Screenplay.Proofs.Template.Hyphens

namespace Screenplay.Text

/-! ## Case in ASCII -/

/-- Every character of the text is an ASCII character. -/
def Ascii (s : List Char) : Prop := ∀ c ∈ s, c.toNat < 0x80

instance (s : List Char) : Decidable (Ascii s) :=
  decidable_of_iff (s.all (·.toNat < 0x80) = true) (by simp [Ascii])

theorem Ascii.of_cons {c : Char} {s : List Char} (h : Ascii (c :: s)) : Ascii s := fun d hd => h d (by simp [hd])

/-- The small letter of a letter, and any other ASCII character itself. -/
def small (c : Char) : Char := (lowerChar c).headD c

/-- The capital letter of a letter, and any other ASCII character itself. -/
def large (c : Char) : Char := (upperChar c).headD c

/-- What is checked of each ASCII character holds of all. -/
@[elab_as_elim]
theorem forall_ascii {P : Char → Prop} {c : Char} (hc : c.toNat < 0x80) (h : ∀ n < 0x80, P (Char.ofNat n)) : P c := by
  have hchar := h c.toNat hc
  rwa [Char.ofNat_toNat] at hchar

/-- A character that case maps to one other and back, within ASCII. -/
structure Paired (c : Char) : Prop where
  ne_sigma : c ≠ 'Σ'
  lowerChar_eq : lowerChar c = [small c]
  upperChar_eq : upperChar c = [large c]
  small_small : small (small c) = small c
  small_large : small (large c) = small c
  large_small : large (small c) = large c
  ascii_small : (small c).toNat < 0x80
  ascii_large : (large c).toNat < 0x80
  not_isUppercase : isUppercase (small c) = false
  isAlphanumeric_small : isAlphanumeric (small c) = isAlphanumeric c

theorem paired_of_ascii {c : Char} (h : c.toNat < 0x80) : Paired c where
  ne_sigma := forall_ascii h (by decide)
  lowerChar_eq := forall_ascii h (by decide +kernel)
  upperChar_eq := forall_ascii h (by decide +kernel)
  small_small := forall_ascii h (by decide +kernel)
  small_large := forall_ascii h (by decide +kernel)
  large_small := forall_ascii h (by decide +kernel)
  ascii_small := forall_ascii h (by decide +kernel)
  ascii_large := forall_ascii h (by decide +kernel)
  not_isUppercase := forall_ascii h (by decide +kernel)
  isAlphanumeric_small := forall_ascii h (by decide +kernel)

theorem lowered_ascii {s : List Char} (h : Ascii s) : lowered s = s.map small := by
  suffices hword : ∀ word, lowerAfter word s = s.map small from hword false
  induction s with
  | nil => exact fun _ => rfl
  | cons c r ih =>
    intro word
    have hc := paired_of_ascii (h c (by simp))
    rw [lowerAfter, if_neg hc.ne_sigma, hc.lowerChar_eq, ih h.of_cons]
    rfl

theorem ascii_map_small {s : List Char} (h : Ascii s) : Ascii (s.map small) := by
  intro x hx
  obtain ⟨c, hc, rfl⟩ := List.mem_map.1 hx
  exact (paired_of_ascii (h c hc)).ascii_small

theorem map_small_map_small {s : List Char} (h : Ascii s) : (s.map small).map small = s.map small := by
  rw [List.map_map]
  exact List.map_congr_left fun c hc => (paired_of_ascii (h c hc)).small_small

end Screenplay.Text

namespace Screenplay.Template

open Screenplay.Text

/-! ## Capitals and hyphens -/

theorem capitalized_ascii {c : Char} {w : List Char} (h : Ascii (c :: w)) :
    capitalized (c :: w) = large c :: w.map small := by
  have hw : w.flatMap lowerChar = w.map small := by
    rw [← List.flatMap_pure_eq_map]
    exact List.flatMap_congr fun d hd => (paired_of_ascii (h d (by simp [hd]))).lowerChar_eq
  rw [capitalized, hw, (paired_of_ascii (h c (by simp))).upperChar_eq]
  rfl

/-- A capital at the start is all that a capitalized word has left of the case of the word. -/
theorem capitalized_map_small {w : List Char} (h : Ascii w) : capitalized (w.map small) = capitalized w := by
  cases w with
  | nil => rfl
  | cons c w =>
    have hsmall := ascii_map_small h
    rw [List.map_cons] at hsmall ⊢
    rw [capitalized_ascii h, capitalized_ascii hsmall, (paired_of_ascii (h c (by simp))).large_small,
      map_small_map_small h.of_cons]

theorem ascii_capitalized {w : List Char} (h : Ascii w) : Ascii (capitalized w) := by
  cases w with
  | nil => exact h
  | cons c w =>
    rw [capitalized_ascii h]
    intro x hx
    rcases List.mem_cons.1 hx with rfl | hx
    · exact (paired_of_ascii (h c (by simp))).ascii_large
    · exact ascii_map_small h.of_cons x hx

theorem map_small_capitalized {w : List Char} (h : Ascii w) : (capitalized w).map small = w.map small := by
  cases w with
  | nil => rfl
  | cons c w =>
    rw [capitalized_ascii h, List.map_cons, List.map_cons, (paired_of_ascii (h c (by simp))).small_large,
      map_small_map_small h.of_cons]

theorem leadIdentifier_append {w rest : List Char}
    (hw : ∀ c ∈ w, isAlphanumeric c = true ∧ isUppercase c = false) (hrest : ∀ c, breaksAfter c rest = false) :
    leadIdentifier (w ++ rest) = (w ++ (leadIdentifier rest).1, (leadIdentifier rest).2) := by
  induction w with
  | nil => rfl
  | cons c w ih =>
    have hbreak : breaksAfter c (w ++ rest) = false := by
      cases w with
      | nil => exact hrest c
      | cons n w => simp [breaksAfter, startsWord, (hw n (by simp)).2]
    rw [List.cons_append, leadIdentifier_join (hw c (by simp)).1 hbreak, ih fun d hd => hw d (by simp [hd])]
    rfl

theorem wordsOf_append {w rest : List Char} (hne : w ≠ [])
    (hw : ∀ c ∈ w, isAlphanumeric c = true ∧ isUppercase c = false)
    (hrest : ∀ d ∈ rest.head?, isAlphanumeric d = false) :
    wordsOf (w ++ rest) = w :: wordsOf rest := by
  have hbreak (c : Char) : breaksAfter c rest = false := by
    cases rest with
    | nil => rfl
    | cons d r => rw [breaksAfter, hrest d rfl, Bool.false_and]
  have hlead : (leadIdentifier rest).1 = [] := by
    cases rest with
    | nil => rfl
    | cons d r => rw [leadIdentifier_gap (hrest d rfl)]
  have hempty : ¬ w.isEmpty = true := fun he => hne (List.isEmpty_iff.1 he)
  rw [wordsOf, leadIdentifier_append hw hbreak, wordsOf, hlead, List.append_nil, consWord, if_neg hempty]
  rfl

theorem isAlphanumeric_hyphen : isAlphanumeric '-' = false := by decide +kernel

theorem wordsOf_hyphen_cons (s : List Char) : wordsOf ('-' :: s) = wordsOf s := by
  rw [wordsOf, leadIdentifier_gap isAlphanumeric_hyphen]
  rfl

/-- **Hyphens are read back.** Words without capitals, with hyphens between them, are the words of what they
make. -/
theorem wordsOf_intercalate {ws : List (List Char)} (hne : ∀ w ∈ ws, w ≠ [])
    (h : ∀ w ∈ ws, ∀ c ∈ w, isAlphanumeric c = true ∧ isUppercase c = false) :
    wordsOf (['-'].intercalate ws) = ws := by
  induction ws with
  | nil => rfl
  | cons w ws ih =>
    cases ws with
    | nil =>
      have hnone : ∀ d ∈ ([] : List Char).head?, isAlphanumeric d = false := nofun
      have hend := wordsOf_append (hne w (by simp)) (h w (by simp)) hnone
      rw [List.append_nil] at hend
      rw [List.intercalate_singleton, hend]
      rfl
    | cons w' ws =>
      have hrest := ih (fun v hv => hne v (by simp [List.mem_cons.1 hv])) fun v hv => h v (by simp [List.mem_cons.1 hv])
      have hhyphen : ∀ d ∈ ('-' :: ['-'].intercalate (w' :: ws)).head?, isAlphanumeric d = false := by
        rintro d ⟨⟩
        exact isAlphanumeric_hyphen
      rw [List.intercalate_cons_cons, List.append_assoc, List.singleton_append,
        wordsOf_append (hne w (by simp)) (h w (by simp)) hhyphen, wordsOf_hyphen_cons, hrest]

/-! ## The words of an identifier -/

theorem ascii_of_mem_wordsOf {s w : List Char} (h : Ascii s) (hw : w ∈ wordsOf s) : Ascii w :=
  fun c hc => h c (mem_of_mem_wordsOf hw hc).1

theorem map_lowered_wordsOf {s : List Char} (h : Ascii s) : (wordsOf s).map lowered = (wordsOf s).map (·.map small) :=
  List.map_congr_left fun _ hw => lowered_ascii (ascii_of_mem_wordsOf h hw)

theorem wordsOf_kebabChars {s : List Char} (h : Ascii s) : wordsOf (kebabChars s) = (wordsOf s).map (·.map small) := by
  rw [kebabChars, map_lowered_wordsOf h]
  refine wordsOf_intercalate (fun v hv => ?_) fun v hv x hx => ?_
  · obtain ⟨w, hw, rfl⟩ := List.mem_map.1 hv
    simpa using ne_nil_of_mem_wordsOf hw
  · obtain ⟨w, hw, rfl⟩ := List.mem_map.1 hv
    obtain ⟨c, hc, rfl⟩ := List.mem_map.1 hx
    have hpaired := paired_of_ascii (ascii_of_mem_wordsOf h hw c hc)
    exact ⟨hpaired.isAlphanumeric_small.trans (mem_of_mem_wordsOf hw hc).2, hpaired.not_isUppercase⟩

theorem ascii_kebabChars {s : List Char} (h : Ascii s) : Ascii (kebabChars s) := by
  intro x hx
  rcases mem_intercalate hx with hx | ⟨v, hv, hx⟩
  · rw [List.mem_singleton.1 hx]
    decide
  · rw [map_lowered_wordsOf h] at hv
    obtain ⟨w, hw, rfl⟩ := List.mem_map.1 hv
    exact ascii_map_small (ascii_of_mem_wordsOf h hw) x hx

theorem kebabChars_kebabChars {s : List Char} (h : Ascii s) : kebabChars (kebabChars s) = kebabChars s := by
  rw [kebabChars, map_lowered_wordsOf (ascii_kebabChars h), wordsOf_kebabChars h, kebabChars, map_lowered_wordsOf h,
    List.map_map]
  congr 1
  exact List.map_congr_left fun w hw => map_small_map_small (ascii_of_mem_wordsOf h hw)

theorem pascalChars_kebabChars {s : List Char} (h : Ascii s) : pascalChars (kebabChars s) = pascalChars s := by
  rw [pascalChars, wordsOf_kebabChars h, pascalChars, List.flatMap_map]
  exact List.flatMap_congr fun w hw => capitalized_map_small (ascii_of_mem_wordsOf h hw)

theorem camelChars_kebabChars {s : List Char} (h : Ascii s) : camelChars (kebabChars s) = camelChars s := by
  have hascii (w : List Char) (hw : w ∈ wordsOf s) : Ascii w := ascii_of_mem_wordsOf h hw
  rw [camelChars, wordsOf_kebabChars h, camelChars]
  cases hws : wordsOf s with
  | nil => rfl
  | cons w ws =>
    rw [hws] at hascii
    have hw := hascii w (by simp)
    have hrest : (ws.map (·.map small)).flatMap capitalized = ws.flatMap capitalized := by
      rw [List.flatMap_map]
      exact List.flatMap_congr fun v hv => capitalized_map_small (hascii v (by simp [hv]))
    rw [List.map_cons]
    dsimp only
    rw [hrest, lowered_ascii hw, lowered_ascii (ascii_map_small hw), map_small_map_small hw]

/-! ## The letters of an identifier -/

/-- The letters and numbers of a text, in lower case. -/
def letters (s : List Char) : List Char := lowered (s.filter isAlphanumeric)

theorem letters_eq {s : List Char} (h : Ascii s) : letters s = (wordsOf s).flatMap (·.map small) := by
  have hfilter : Ascii (s.filter isAlphanumeric) := fun c hc => h c (List.mem_filter.1 hc).1
  rw [letters, lowered_ascii hfilter, ← flatten_wordsOf, List.map_flatten, List.flatMap_def]

theorem filter_kebabChars_ascii {s : List Char} (h : Ascii s) : (kebabChars s).filter (· ≠ '-') = letters s := by
  rw [filter_kebabChars, map_lowered_wordsOf h, letters_eq h, List.flatMap_def]

theorem ascii_flatMap_capitalized {ws : List (List Char)} (h : ∀ w ∈ ws, Ascii w) : Ascii (ws.flatMap capitalized) := by
  intro x hx
  obtain ⟨w, hw, hx⟩ := List.mem_flatMap.1 hx
  exact ascii_capitalized (h w hw) x hx

theorem map_small_flatMap_capitalized {ws : List (List Char)} (h : ∀ w ∈ ws, Ascii w) :
    (ws.flatMap capitalized).map small = ws.flatMap (·.map small) := by
  rw [List.map_flatMap]
  exact List.flatMap_congr fun w hw => map_small_capitalized (h w hw)

theorem lowered_pascalChars {s : List Char} (h : Ascii s) : lowered (pascalChars s) = letters s := by
  have hwords (w : List Char) (hw : w ∈ wordsOf s) : Ascii w := ascii_of_mem_wordsOf h hw
  rw [pascalChars, lowered_ascii (ascii_flatMap_capitalized hwords), map_small_flatMap_capitalized hwords,
    letters_eq h]

theorem lowered_camelChars {s : List Char} (h : Ascii s) : lowered (camelChars s) = letters s := by
  have hwords (w : List Char) (hw : w ∈ wordsOf s) : Ascii w := ascii_of_mem_wordsOf h hw
  rw [camelChars, letters_eq h]
  cases hws : wordsOf s with
  | nil => rfl
  | cons w ws =>
    rw [hws] at hwords
    have hw := hwords w (by simp)
    have hrest (v : List Char) (hv : v ∈ ws) : Ascii v := hwords v (by simp [hv])
    have hascii : Ascii (w.map small ++ ws.flatMap capitalized) := by
      intro x hx
      exact (List.mem_append.1 hx).elim (ascii_map_small hw x) (ascii_flatMap_capitalized hrest x)
    dsimp only
    rw [lowered_ascii hw, lowered_ascii hascii, List.map_append, map_small_map_small hw,
      map_small_flatMap_capitalized hrest, List.flatMap_cons]

/-- **Identifiers with hyphens are a normal form** of ASCII text. Made of one, an identifier of any kind
is the one made of the text, so the identifier with hyphens made of it is itself. The letters and
numbers of all three kinds are, in lower case, those of the text. -/
theorem kebabCase_normal {s : String} (h : Ascii s.toList) :
    kebabCase (kebabCase s) = kebabCase s ∧ pascalCase (kebabCase s) = pascalCase s ∧
      camelCase (kebabCase s) = camelCase s ∧
      (kebabCase s).toList.filter (· ≠ '-') = (lower (.ofList (s.toList.filter isAlphanumeric))).toList ∧
      lower (pascalCase s) = lower (.ofList (s.toList.filter isAlphanumeric)) ∧
      lower (camelCase s) = lower (.ofList (s.toList.filter isAlphanumeric)) := by
  simp only [kebabCase, pascalCase, camelCase, lower, String.toList_ofList]
  rw [kebabChars_kebabChars h, pascalChars_kebabChars h, camelChars_kebabChars h, filter_kebabChars_ascii h,
    lowered_pascalChars h, lowered_camelChars h]
  exact ⟨rfl, rfl, rfl, rfl, rfl, rfl⟩

/-- An acronym, a number before a capital, and separators in a row. -/
theorem kebabCase_normal_acronym :
    Ascii "HTTPServer v2Beta - it's".toList ∧
      kebabCase "HTTPServer v2Beta - it's" = "http-server-v2-beta-it-s" ∧
      kebabCase "http-server-v2-beta-it-s" = "http-server-v2-beta-it-s" ∧
      pascalCase "http-server-v2-beta-it-s" = pascalCase "HTTPServer v2Beta - it's" ∧
      camelCase "http-server-v2-beta-it-s" = camelCase "HTTPServer v2Beta - it's" ∧
      "http-server-v2-beta-it-s".toList.filter (· ≠ '-') = "httpserverv2betaits".toList ∧
      lower (pascalCase "HTTPServer v2Beta - it's") = "httpserverv2betaits" ∧
      lower (camelCase "HTTPServer v2Beta - it's") = "httpserverv2betaits" := by
  have hascii : Ascii "HTTPServer v2Beta - it's".toList := by decide
  have hkebab : kebabCase "HTTPServer v2Beta - it's" = "http-server-v2-beta-it-s" := by decide +kernel
  have hletters :
      lower (.ofList ("HTTPServer v2Beta - it's".toList.filter isAlphanumeric)) = "httpserverv2betaits" := by
    decide +kernel
  have hnormal := kebabCase_normal hascii
  rw [hkebab, hletters] at hnormal
  exact ⟨hascii, hkebab, hnormal⟩

end Screenplay.Template
