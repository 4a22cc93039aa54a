/-
Which characters the words of a text and its identifiers are made of. Splitting
into words keeps the letters and numbers of the text and nothing else
(`flatten_wordsOf`). Lower case brings in no character before `a`, and none that
does not show (`mem_lowered`), so in an identifier with hyphens stand letters,
numbers, what lower case makes of them, and hyphens (`mem_kebabChars`).
-/
import Screenplay.Proofs.Text.Blanks
import Screenplay.Template.Casing

namespace Screenplay.Text

/-! ## Lower case -/

theorem exists_of_search {runs : List Shift} {m n : Nat} (h : Shift.search runs m = some n) :
    ∃ r ∈ runs, r.has m = true ∧ n = r.image + (m - r.first) := by
  induction runs with
  | nil => cases h
  | cons r rs ih =>
    rw [Shift.search] at h
    split at h
    · split at h
      · next hm => cases h; exact ⟨r, by simp, hm, rfl⟩
      · cases h
    · obtain ⟨r', hr, h⟩ := ih h
      exact ⟨r', by simp [hr], h⟩

/-- The blanks and the control characters. -/
def voids : List Run :=
  [⟨0x00, 0x20, 1⟩, ⟨0x7F, 0xA0, 1⟩, ⟨0x1680, 0x1680, 1⟩, ⟨0x2000, 0x200A, 1⟩, ⟨0x2028, 0x2029, 1⟩,
    ⟨0x202F, 0x202F, 1⟩, ⟨0x205F, 0x205F, 1⟩, ⟨0x3000, 0x3000, 1⟩]

/-- A character that is neither blank nor a control character. -/
def Shows (c : Char) : Prop := isBlank c = false ∧ isControl c = false

instance (c : Char) : Decidable (Shows c) := inferInstanceAs (Decidable (_ ∧ _))

theorem shows_iff {c : Char} : Shows c ↔ ∀ v ∈ voids, c.toNat < v.first ∨ v.last < c.toNat := by
  simp only [Shows, isBlank, isControl, voids, List.forall_mem_cons, List.not_mem_nil, false_implies, implies_true,
    and_true, Bool.or_eq_false_iff, Bool.and_eq_false_iff, beq_eq_false_iff_ne, decide_eq_false_iff_not, ne_eq]
  omega

theorem isAlphanumeric_voids : ∀ v ∈ voids, ∀ n ∈ List.range' v.first (v.last + 1 - v.first),
    isAlphanumeric (Char.ofNat n) = false := by
  decide +kernel

theorem shows_of_isAlphanumeric {c : Char} (h : isAlphanumeric c = true) : Shows c := by
  refine shows_iff.2 fun v hv => Decidable.byContradiction fun hc => ?_
  have := isAlphanumeric_voids v hv c.toNat (List.mem_range'_1.2 (by omega))
  rw [Char.ofNat_toNat, h] at this
  cases this

/-- A character from `a` on that shows. -/
structure Late (c : Char) : Prop where
  le : 'a' ≤ c
  shows : Shows c

theorem toNat_ofNat {n : Nat} (h : n.isValidChar) : (Char.ofNat n).toNat = n := by
  rw [Char.ofNat, dif_pos h]
  rfl

theorem late_ofNat {n : Nat} (hv : n.isValidChar) (hle : 'a'.toNat ≤ n)
    (hs : ∀ v ∈ voids, n < v.first ∨ v.last < n) : Late (Char.ofNat n) where
  le := by
    show 'a'.toNat ≤ (Char.ofNat n).toNat
    rwa [toNat_ofNat hv]
  shows := shows_iff.2 (by rwa [toNat_ofNat hv])

/-- The images of the runs are late characters, with no surrogates in between. -/
theorem lowerRuns_image : ∀ r ∈ Table.lowerRuns, 'a'.toNat ≤ r.image ∧
    (r.image + (r.last - r.first) < 0xD800 ∨
      (0xDFFF < r.image ∧ r.image + (r.last - r.first) < 0x110000)) ∧
    ∀ v ∈ voids, r.image + (r.last - r.first) < v.first ∨ v.last < r.image := by
  decide +kernel

theorem lowerExpansions_image : ∀ e ∈ Table.lowerExpansions, ∀ n ∈ e.2,
    'a'.toNat ≤ n ∧ n < 0xD800 ∧ ∀ v ∈ voids, n < v.first ∨ v.last < n := by
  decide +kernel

/-- What lower case makes of a character is the character itself, or a late one. -/
theorem mem_lowerChar {x c : Char} (h : x ∈ lowerChar c) : x = c ∨ Late x := by
  unfold lowerChar mapCase at h
  split at h
  · next n hn =>
    obtain ⟨r, hr, hm, rfl⟩ := exists_of_search hn
    simp only [Run.has, Bool.and_eq_true, decide_eq_true_eq] at hm
    obtain ⟨hle, hv, hs⟩ := lowerRuns_image r hr
    have hvalid : (r.image + (c.toNat - r.first)).isValidChar := by
      unfold Nat.isValidChar
      omega
    refine .inr (List.mem_singleton.1 h ▸ late_ofNat hvalid (by omega) fun v hvoid => ?_)
    have := hs v hvoid
    omega
  · split at h
    · next e hf =>
      obtain ⟨n, hn, rfl⟩ := List.mem_map.1 h
      obtain ⟨hle, hlt, hs⟩ := lowerExpansions_image _ (List.mem_of_find?_eq_some hf) n hn
      exact .inr (late_ofNat (.inl hlt) hle hs)
    · exact .inl (List.mem_singleton.1 h)

theorem late_sigma : Late 'ς' ∧ Late 'σ' :=
  ⟨⟨by decide, by decide, by decide⟩, ⟨by decide, by decide, by decide⟩⟩

theorem mem_lowerAfter {x : Char} {word : Bool} {s : List Char} (h : x ∈ lowerAfter word s) :
    x ∈ s ∨ Late x := by
  induction s generalizing word with
  | nil => cases h
  | cons c r ih =>
    rw [lowerAfter, List.mem_append] at h
    rcases h with h | h
    · split at h
      · -- Both forms of the small sigma.
        refine .inr ?_
        rw [List.mem_singleton.1 h]
        split
        · exact late_sigma.1
        · exact late_sigma.2
      · rcases mem_lowerChar h with rfl | h
        · exact .inl (by simp)
        · exact .inr h
    · rcases ih h with h | h
      · exact .inl (by simp [h])
      · exact .inr h

theorem mem_lowered {x : Char} {s : List Char} (h : x ∈ lowered s) : x ∈ s ∨ Late x :=
  mem_lowerAfter h

end Screenplay.Text

namespace Screenplay.Template

open Screenplay.Text

/-! ## Words -/

/-- Whether a word begins where a letter or a number ends. -/
def breaksAfter (c : Char) : List Char → Bool
  | n :: after => isAlphanumeric n && startsWord c n after.head?
  | [] => false

theorem leadIdentifier_cons (c : Char) (r : List Char) :
    leadIdentifier (c :: r) =
      if isAlphanumeric c = false then ([], consWord (leadIdentifier r).1 (leadIdentifier r).2)
      else if breaksAfter c r = true then ([c], consWord (leadIdentifier r).1 (leadIdentifier r).2)
      else (c :: (leadIdentifier r).1, (leadIdentifier r).2) := by
  rw [leadIdentifier]
  cases r <;> simp [breaksAfter]

theorem leadIdentifier_gap {c : Char} (hc : isAlphanumeric c = false) (r : List Char) :
    leadIdentifier (c :: r) = ([], wordsOf r) := by
  rw [leadIdentifier_cons, if_pos hc, wordsOf]

theorem leadIdentifier_break {c : Char} {r : List Char} (hc : isAlphanumeric c = true) (h : breaksAfter c r = true) :
    leadIdentifier (c :: r) = ([c], wordsOf r) := by
  rw [leadIdentifier_cons, if_neg (by simp [hc]), if_pos h, wordsOf]

theorem leadIdentifier_join {c : Char} {r : List Char} (hc : isAlphanumeric c = true) (h : breaksAfter c r = false) :
    leadIdentifier (c :: r) = (c :: (leadIdentifier r).1, (leadIdentifier r).2) := by
  rw [leadIdentifier_cons, if_neg (by simp [hc]), if_neg (by simp [h])]

theorem flatten_leadIdentifier (s : List Char) :
    (leadIdentifier s).1 ++ (leadIdentifier s).2.flatten = s.filter isAlphanumeric := by
  induction s with
  | nil => rfl
  | cons c r ih =>
    rw [leadIdentifier_cons]
    by_cases hc : isAlphanumeric c = true
    · rw [if_neg (by simp [hc]), List.filter_cons_of_pos hc, ← ih]
      split
      · simp [flatten_consWord]
      · simp
    · rw [if_pos (by simpa using hc), List.filter_cons_of_neg hc, ← ih]
      exact flatten_consWord _ _

/-- The words of a text, put together, are its letters and numbers. -/
theorem flatten_wordsOf (s : List Char) : (wordsOf s).flatten = s.filter isAlphanumeric := by
  rw [wordsOf, flatten_consWord, flatten_leadIdentifier]

theorem mem_of_mem_wordsOf {s w : List Char} (hw : w ∈ wordsOf s) {c : Char} (hc : c ∈ w) :
    c ∈ s ∧ isAlphanumeric c = true := by
  have hflat : c ∈ (wordsOf s).flatten := List.mem_flatten.2 ⟨w, hw, hc⟩
  rwa [flatten_wordsOf, List.mem_filter] at hflat

theorem mem_kebabChars {x : Char} {s : List Char} (h : x ∈ kebabChars s) :
    x = '-' ∨ Late x ∨ (x ∈ s ∧ isAlphanumeric x = true) := by
  rcases mem_intercalate h with h | ⟨u, hu, hx⟩
  · exact .inl (by simpa using h)
  · obtain ⟨w, hw, rfl⟩ := List.mem_map.1 hu
    rcases mem_lowered hx with hx | hx
    · exact .inr (.inr (mem_of_mem_wordsOf hw hx))
    · exact .inr (.inl hx)

theorem toList_kebabCase (s : String) : (kebabCase s).toList = kebabChars s.toList := String.toList_ofList

/-- Nothing in an identifier is blank. -/
theorem shows_kebabCase {c : Char} {s : String} (h : c ∈ (kebabCase s).toList) : Shows c := by
  rw [toList_kebabCase] at h
  rcases mem_kebabChars h with rfl | hlate | ⟨-, ha⟩
  · decide
  · exact hlate.shows
  · exact shows_of_isAlphanumeric ha

end Screenplay.Template
