/-
Identifiers with hyphens, read back. Lower case takes no character away and makes no hyphen, so the
hyphens stand where words end and nowhere else: texts with the same letters have the same identifier
just when they have the same words (`kebabChars_eq_iff`). How much stands between the hyphens is told
by the letters alone (`countP_kebabChars`).
-/
import Mathlib.Algebra.GroupWithZero.Nat
import Screenplay.Proofs.Template.Casing

namespace Screenplay.Text

/-! ## How much lower case makes of a text -/

/-- How many characters stand for one in lower case. Both small forms of the sigma are one. -/
def lowerWidth (c : Char) : Nat := if c = 'Σ' then 1 else (lowerChar c).length

theorem lowerExpansions_ne_nil : ∀ e ∈ Table.lowerExpansions, e.2 ≠ [] := by decide

theorem lowerChar_ne_nil (c : Char) : lowerChar c ≠ [] := by
  unfold lowerChar mapCase
  split
  · simp
  · split
    · next e hf => simpa using lowerExpansions_ne_nil _ (List.mem_of_find?_eq_some hf)
    · simp

theorem lowerWidth_pos (c : Char) : 0 < lowerWidth c := by
  unfold lowerWidth
  split
  · exact Nat.one_pos
  · exact List.length_pos_iff.2 (lowerChar_ne_nil c)

theorem length_lowerAfter (word : Bool) (s : List Char) :
    (lowerAfter word s).length = (s.map lowerWidth).sum := by
  induction s generalizing word with
  | nil => rfl
  | cons c r ih =>
    rw [lowerAfter, List.length_append, ih, List.map_cons, List.sum_cons, lowerWidth]
    split <;> rfl

theorem length_lowered (s : List Char) : (lowered s).length = (s.map lowerWidth).sum := length_lowerAfter false s

/-- A text and a longer one that begins with it differ in lower case. -/
theorem eq_nil_of_lowered_append {s t : List Char} (h : lowered (s ++ t) = lowered s) : t = [] := by
  have hlen := congrArg List.length h
  rw [length_lowered, length_lowered, List.map_append, List.sum_append] at hlen
  cases t with
  | nil => rfl
  | cons c t =>
    have := lowerWidth_pos c
    rw [List.map_cons, List.sum_cons] at hlen
    omega

/-- One way to cut a text into words is told from another in lower case. -/
theorem map_lowered_injective {us vs : List (List Char)} (htext : us.flatten = vs.flatten)
    (h : us.map lowered = vs.map lowered) : us = vs := by
  induction us generalizing vs with
  | nil => exact (List.map_eq_nil_iff.1 h.symm).symm
  | cons u us ih =>
    cases vs with
    | nil => cases h
    | cons v vs =>
      obtain ⟨hfirst, hrest⟩ := List.cons.inj h
      rw [List.flatten_cons, List.flatten_cons] at htext
      have heq : u = v := by
        rcases List.append_eq_append_iff.1 htext with ⟨t, rfl, -⟩ | ⟨t, rfl, -⟩
        · rw [eq_nil_of_lowered_append hfirst.symm, List.append_nil]
        · rw [eq_nil_of_lowered_append hfirst, List.append_nil]
      subst heq
      rw [ih (List.append_cancel_left htext) hrest]

/-! ## Joined words -/

theorem filter_intercalate {p : Char → Bool} {sep : List Char} (h : ∀ x ∈ sep, p x = false) (l : List (List Char)) :
    (sep.intercalate l).filter p = l.flatten.filter p := by
  have hsep : sep.filter p = [] := List.filter_eq_nil_iff.2 fun x hx => by simp [h x hx]
  induction l with
  | nil => rfl
  | cons w l ih =>
    cases l with
    | nil => simp
    | cons w' l =>
      rw [List.intercalate_cons_cons, List.filter_append, List.filter_append, ih, hsep, List.append_nil,
        ← List.filter_append, ← List.flatten_cons]

theorem getLast?_intercalate {x : Char} (sep : List Char) {l : List (List Char)} (h : ∀ w ∈ l, w ≠ [] ∧ x ∉ w) :
    (sep.intercalate l).getLast? ≠ some x := by
  induction l with
  | nil => simp
  | cons w l ih =>
    cases l with
    | nil => simpa using fun hx => (h w (by simp)).2 (List.mem_of_getLast? hx)
    | cons w' l =>
      obtain ⟨c, hc⟩ := List.exists_mem_of_ne_nil w' (h w' (by simp)).1
      have hne : sep.intercalate (w' :: l) ≠ [] :=
        List.ne_nil_of_mem (mem_intercalate_of_mem sep List.mem_cons_self hc)
      rw [List.intercalate_cons_cons, List.getLast?_append_of_ne_nil _ hne]
      exact ih fun v hv => h v (by simp [List.mem_cons.1 hv])

end Screenplay.Text

namespace Screenplay.Template

open Screenplay.Text

/-! ## Words and hyphens -/

theorem ne_nil_of_mem_consWord {w v : List Char} {ws : List (List Char)} (hws : ∀ u ∈ ws, u ≠ [])
    (h : v ∈ consWord w ws) : v ≠ [] := by
  unfold consWord at h
  split at h
  · exact hws v h
  · next hw =>
    rcases List.mem_cons.1 h with rfl | h
    · exact fun he => hw (List.isEmpty_iff.2 he)
    · exact hws v h

theorem ne_nil_of_mem_leadIdentifier (s : List Char) : ∀ w ∈ (leadIdentifier s).2, w ≠ [] := by
  induction s with
  | nil => simp [leadIdentifier]
  | cons c r ih =>
    intro w hw
    rw [leadIdentifier_cons] at hw
    split at hw
    · exact ne_nil_of_mem_consWord ih hw
    · split at hw
      · exact ne_nil_of_mem_consWord ih hw
      · exact ih w hw

theorem ne_nil_of_mem_wordsOf {s w : List Char} (h : w ∈ wordsOf s) : w ≠ [] :=
  ne_nil_of_mem_consWord (ne_nil_of_mem_leadIdentifier s) h

theorem wordsOf_eq_nil_iff {s : List Char} : wordsOf s = [] ↔ s.filter isAlphanumeric = [] := by
  rw [← flatten_wordsOf, List.flatten_eq_nil_iff]
  refine ⟨fun h => by simp [h], fun h => List.eq_nil_iff_forall_not_mem.2 fun w hw => ?_⟩
  exact ne_nil_of_mem_wordsOf hw (h w hw)

theorem hyphen_not_mem {s w : List Char} (h : w ∈ (wordsOf s).map lowered) : w ≠ [] ∧ '-' ∉ w := by
  obtain ⟨u, hu, rfl⟩ := List.mem_map.1 h
  constructor
  · intro he
    exact ne_nil_of_mem_wordsOf hu (@eq_nil_of_lowered_append [] u he)
  · intro hmem
    rcases mem_lowered hmem with hmem | hlate
    · exact absurd (mem_of_mem_wordsOf hu hmem).2 (by decide +kernel)
    · exact absurd hlate.le (by decide)

/-- The words of an identifier are read back at its hyphens. -/
theorem splitOn_kebabChars {s : List Char} (h : wordsOf s ≠ []) :
    (kebabChars s).splitOn '-' = (wordsOf s).map lowered :=
  List.splitOn_intercalate '-' (fun _ hw => (hyphen_not_mem hw).2) (by simpa using h)

/-- Of the same letters and numbers the same identifier is made just when they are the same words. -/
theorem kebabChars_eq_iff {s t : List Char} (h : s.filter isAlphanumeric = t.filter isAlphanumeric) :
    kebabChars s = kebabChars t ↔ wordsOf s = wordsOf t := by
  refine ⟨fun hk => ?_, fun hw => by rw [kebabChars, hw, kebabChars]⟩
  by_cases hs : wordsOf s = []
  · rw [hs, wordsOf_eq_nil_iff.2 (h ▸ wordsOf_eq_nil_iff.1 hs)]
  · have ht : wordsOf t ≠ [] := fun ht => hs (wordsOf_eq_nil_iff.2 (h ▸ wordsOf_eq_nil_iff.1 ht))
    refine map_lowered_injective ?_ ?_
    · rw [flatten_wordsOf, flatten_wordsOf, h]
    · rw [← splitOn_kebabChars hs, ← splitOn_kebabChars ht, hk]

theorem filter_kebabChars (s : List Char) :
    (kebabChars s).filter (· ≠ '-') = ((wordsOf s).map lowered).flatten := by
  have hsep : ∀ x ∈ ['-'], decide (x ≠ '-') = false := by simp
  rw [kebabChars, filter_intercalate hsep, List.filter_eq_self]
  intro x hx
  obtain ⟨w, hw, hx⟩ := List.mem_flatten.1 hx
  exact decide_eq_true fun he => (hyphen_not_mem hw).2 (he ▸ hx)

/-- What stands between the hyphens is as wide as the letters and numbers are in lower case. -/
theorem countP_kebabChars (s : List Char) :
    (kebabChars s).countP (· ≠ '-') = ((s.filter isAlphanumeric).map lowerWidth).sum := by
  rw [List.countP_eq_length_filter, filter_kebabChars, ← flatten_wordsOf, List.length_flatten, List.map_flatten,
    List.sum_flatten, List.map_map, List.map_map]
  congr 1
  exact List.map_congr_left fun w _ => length_lowered w

theorem getLast?_kebabChars (s : List Char) : (kebabChars s).getLast? ≠ some '-' :=
  getLast?_intercalate ['-'] fun _ => hyphen_not_mem

end Screenplay.Template
