/-
Lower case inside a longer text. What stands around a text can change one thing in its lower case,
the form of a small sigma. A capital sigma is `Settled` if the text it stands in decides the form by
itself, and a text in which every sigma is settled is `Steady`. The lower case of a steady text is a
part of the lower case of every text it is a part of (`lowered_part`). No other text has this
property (`exists_missed`).
-/
import Screenplay.Proofs.Text.Search
import Screenplay.Text.Case

namespace Screenplay.Text

/-! ## What stands around a text -/

/-- Whether the first character that case does not ignore is cased, if there is such a character. -/
def lead? (s : List Char) : Option Bool := (s.find? (!isCaseIgnorable ·)).map isCased

/-- Whether the last character that case does not ignore is cased, if there is such a character. -/
def trail? (s : List Char) : Option Bool := lead? s.reverse

theorem lead?_cons (c : Char) (s : List Char) :
    lead? (c :: s) = if isCaseIgnorable c = true then lead? s else some (isCased c) := by
  rw [lead?, List.find?_cons]
  cases isCaseIgnorable c <;> rfl

theorem lead?_append (s t : List Char) : lead? (s ++ t) = (lead? s).or (lead? t) := by
  rw [lead?, List.find?_append, Option.map_or]
  rfl

theorem trail?_append (s t : List Char) : trail? (s ++ t) = (trail? t).or (trail? s) := by
  rw [trail?, List.reverse_append, lead?_append]
  rfl

theorem trail?_singleton (c : Char) :
    trail? [c] = if isCaseIgnorable c = true then none else some (isCased c) := lead?_cons c []

theorem startsCased_eq (s : List Char) : startsCased s = (lead? s).getD false := by
  induction s with
  | nil => rfl
  | cons c r ih =>
    rw [lead?_cons, startsCased, List.dropWhile_cons]
    by_cases hc : isCaseIgnorable c = true
    · rw [if_pos hc, if_pos hc]
      exact ih
    · rw [if_neg hc, if_neg hc]
      rfl

/-- The small sigma between what precedes and what follows. -/
def smallSigma (word next : Bool) : Char := if word && !next then 'ς' else 'σ'

/-- Lowercases a text that others precede and follow; `word` and `next` tell whether a cased character stands on
that side, those that case ignores apart. -/
def lowerBetween (word next : Bool) : List Char → List Char
  | [] => []
  | c :: r =>
    (if c = 'Σ' then [smallSigma word ((lead? r).getD next)] else lowerChar c) ++
      lowerBetween (if isCaseIgnorable c then word else isCased c) next r

theorem getD_trail?_cons (word : Bool) (c : Char) (s : List Char) :
    (trail? (c :: s)).getD word = (trail? s).getD (if isCaseIgnorable c then word else isCased c) := by
  rw [← List.singleton_append, trail?_append, trail?_singleton]
  cases trail? s with
  | some b => rfl
  | none => split <;> rfl

/-- In a text of two parts, each part is lowercased as the other one has it. -/
theorem lowerBetween_append (word next : Bool) (s t : List Char) :
    lowerBetween word next (s ++ t) =
      lowerBetween word ((lead? t).getD next) s ++ lowerBetween ((trail? s).getD word) next t := by
  induction s generalizing word with
  | nil => rfl
  | cons c r ih =>
    have hlead : (lead? (r ++ t)).getD next = (lead? r).getD ((lead? t).getD next) := by
      rw [lead?_append]
      cases lead? r <;> rfl
    rw [List.cons_append, lowerBetween, lowerBetween, ih, hlead, getD_trail?_cons, List.append_assoc]

theorem lowerAfter_eq (word : Bool) (s : List Char) : lowerAfter word s = lowerBetween word false s := by
  induction s generalizing word with
  | nil => rfl
  | cons c r ih => rw [lowerAfter, lowerBetween, ih, startsCased_eq, smallSigma]

theorem lowered_eq (s : List Char) : lowered s = lowerBetween false false s := lowerAfter_eq false s

/-! ## Steady texts -/

/-- The form of a sigma between these parts is the same whatever stands around them. -/
def Settled (before after : List Char) : Prop :=
  trail? before = some false ∨ lead? after = some true ∨ (trail? before).isSome = true ∧ (lead? after).isSome = true

/-- A text in which every capital sigma is settled. -/
def Steady (s : List Char) : Prop := ∀ before after, s = before ++ 'Σ' :: after → Settled before after

theorem steady_of_not_mem {s : List Char} (h : 'Σ' ∉ s) : Steady s := by
  rintro before after rfl
  exact absurd (by simp) h

theorem Settled.smallSigma_eq {before after : List Char} (h : Settled before after) (word next : Bool) :
    smallSigma ((trail? before).getD word) ((lead? after).getD next) =
      smallSigma ((trail? before).getD false) ((lead? after).getD false) := by
  rcases h with h | h | ⟨hbefore, hafter⟩
  · simp [h, smallSigma]
  · simp [h, smallSigma]
  · obtain ⟨a, ha⟩ := Option.isSome_iff_exists.1 hbefore
    obtain ⟨b, hb⟩ := Option.isSome_iff_exists.1 hafter
    rw [ha, hb]
    rfl

/-- The part of a text from some place on is lowercased in one way, if the sigmas in it are settled in the whole
text. -/
theorem lowerBetween_of_settled (before : List Char) {s : List Char}
    (h : ∀ b a, s = b ++ 'Σ' :: a → Settled (before ++ b) a) (word next : Bool) :
    lowerBetween ((trail? before).getD word) next s = lowerBetween ((trail? before).getD false) false s := by
  induction s generalizing before with
  | nil => rfl
  | cons c r ih =>
    have hnext (word : Bool) : (trail? (before ++ [c])).getD word =
        if isCaseIgnorable c = true then (trail? before).getD word else isCased c := by
      rw [trail?_append, trail?_singleton]
      split <;> rfl
    have hrest := ih (before ++ [c]) fun b a hr => by
      rw [List.append_assoc]
      exact h (c :: b) a (by rw [hr]; rfl)
    rw [hnext, hnext] at hrest
    rw [lowerBetween, lowerBetween, hrest]
    congr 1
    split
    · next hc =>
      subst hc
      have hsettled := h [] r rfl
      rw [List.append_nil] at hsettled
      rw [hsettled.smallSigma_eq]
    · rfl

/-- **A steady text has one lower case**, whatever stands around it. -/
theorem Steady.lowerBetween_eq {s : List Char} (h : Steady s) (word next : Bool) :
    lowerBetween word next s = lowered s := by
  rw [lowered_eq]
  exact lowerBetween_of_settled [] h word next

theorem lowered_part {s t : List Char} (ht : Steady t) (h : t <:+: s) : lowered t <:+: lowered s := by
  obtain ⟨u, v, rfl⟩ := h
  rw [lowered_eq (u ++ t ++ v), lowerBetween_append, lowerBetween_append, ht.lowerBetween_eq]
  exact List.infix_append _ _ _

/-! ## Unsteady texts -/

theorem sigma_cased : isCased 'Σ' = true ∧ isCaseIgnorable 'Σ' = false := by decide +kernel

/-- At a sigma a text comes apart: on both sides of it a cased character stands. -/
theorem lowerBetween_sigma (word next : Bool) (before after : List Char) :
    lowerBetween word next (before ++ 'Σ' :: after) =
      lowerBetween word true before ++
        smallSigma ((trail? before).getD word) ((lead? after).getD next) :: lowerBetween true next after := by
  have hlead : lead? ('Σ' :: after) = some true := by
    rw [lead?_cons, sigma_cased.1, sigma_cased.2]
    rfl
  rw [lowerBetween_append, hlead, lowerBetween, if_pos rfl, sigma_cased.1, sigma_cased.2]
  rfl

theorem not_mem_of_lead?_eq_none {s : List Char} (h : lead? s = none) : 'Σ' ∉ s := by
  intro hmem
  rw [lead?, Option.map_eq_none_iff, List.find?_eq_none] at h
  exact absurd (h _ hmem) (by simp [sigma_cased.2])

theorem letter_cased : isCased 'A' = true ∧ isCaseIgnorable 'A' = false ∧ lowerChar 'A' = ['a'] := by
  decide +kernel

theorem lowerBetween_letter_cons (word next : Bool) (s : List Char) :
    lowerBetween word next ('A' :: s) = 'a' :: lowerBetween true next s := by
  obtain ⟨hcased, hcase, hlower⟩ := letter_cased
  rw [lowerBetween, if_neg (by decide), hlower, hcase, hcased]
  rfl

theorem lowered_concat_letter (s : List Char) : lowered (s ++ ['A']) = lowerBetween false true s ++ ['a'] := by
  obtain ⟨hcased, hcase, -⟩ := letter_cased
  have hlead : lead? ['A'] = some true := by
    rw [lead?_cons, hcased, hcase]
    rfl
  rw [lowered_eq, lowerBetween_append, hlead, lowerBetween_letter_cons]
  rfl

/-- **A text that is not steady is missed somewhere.** In some text that it is a part of, its lower case is no part
of the lower case: one small sigma of its own has the other form there. -/
theorem exists_missed {t : List Char} (h : ¬ Steady t) :
    ∃ s, t <:+: s ∧ ∃ c, (c = 'σ' ∨ c = 'ς') ∧ (lowered s).count c < (lowered t).count c := by
  simp only [Steady, not_forall] at h
  obtain ⟨before, after, rfl, hunsettled⟩ := h
  rw [Settled, not_or, not_or, not_and_or] at hunsettled
  obtain ⟨htrail, hlead, hopen⟩ := hunsettled
  by_cases hnone : trail? before = none
  · -- Nothing precedes the sigma. Behind a letter it ends a word.
    have hbefore : Steady before := steady_of_not_mem fun hmem =>
      not_mem_of_lead?_eq_none hnone (List.mem_reverse.2 hmem)
    have hnext : (lead? after).getD false = false := by
      rcases hl : lead? after with _ | _ | _
      · rfl
      · rfl
      · exact absurd hl hlead
    refine ⟨'A' :: (before ++ 'Σ' :: after), (List.suffix_cons _ _).isInfix, 'σ', .inl rfl, ?_⟩
    rw [lowered_eq, lowered_eq, lowerBetween_letter_cons, lowerBetween_sigma, lowerBetween_sigma, hnone, hnext,
      hbefore.lowerBetween_eq, hbefore.lowerBetween_eq]
    simp [smallSigma, List.count_append]
  · -- Nothing follows the sigma, which ends a word. Before a letter it does not.
    have hword : trail? before = some true := by
      rcases ht : trail? before with _ | _ | _
      · exact absurd ht hnone
      · exact absurd ht htrail
      · rfl
    have hend : lead? after = none := by
      rw [hword] at hopen
      simpa using hopen
    have hafter : Steady after := steady_of_not_mem (not_mem_of_lead?_eq_none hend)
    refine ⟨(before ++ 'Σ' :: after) ++ ['A'], (List.prefix_append _ _).isInfix, 'ς', .inr rfl, ?_⟩
    rw [lowered_concat_letter, lowered_eq, lowerBetween_sigma, lowerBetween_sigma, hword, hend,
      hafter.lowerBetween_eq, hafter.lowerBetween_eq]
    simp [smallSigma, List.count_append]

/-! ## Texts with spaces between them -/

theorem lowered_append_space (s t : List Char) : lowered (s ++ ' ' :: t) = lowered s ++ ' ' :: lowered t := by
  have hspace : isCased ' ' = false ∧ isCaseIgnorable ' ' = false ∧ lowerChar ' ' = [' '] := by decide +kernel
  obtain ⟨hcased, hcase, hlower⟩ := hspace
  have hlead : lead? (' ' :: t) = some false := by
    rw [lead?_cons, hcased, hcase]
    rfl
  rw [lowered_eq, lowerBetween_append, hlead, lowerBetween, if_neg (by decide), hlower, hcase, hcased, lowered_eq,
    lowered_eq]
  rfl

theorem lowered_intercalate (texts : List (List Char)) :
    lowered ([' '].intercalate texts) = [' '].intercalate (texts.map lowered) := by
  induction texts with
  | nil => rfl
  | cons s texts ih =>
    cases texts with
    | nil => simp
    | cons t texts =>
      rw [List.intercalate_cons_cons, List.append_assoc, List.singleton_append, lowered_append_space, ih]
      simp only [List.map_cons, List.intercalate_cons_cons, List.append_assoc, List.singleton_append]

/-- **Lower case goes through to the texts of a list** with spaces between them. -/
theorem lower_join (texts : List String) : lower (join " " texts) = join " " (texts.map lower) := by
  have hspace : (" " : String).toList = [' '] := rfl
  have hlower : String.toList ∘ lower = lowered ∘ String.toList := by
    funext s
    exact String.toList_ofList
  rw [← String.toList_inj, lower, String.toList_ofList, join, join, String.toList_intercalate,
    String.toList_intercalate, hspace, lowered_intercalate, List.map_map, List.map_map, hlower]

end Screenplay.Text
