/-
What searching a text finds. A text occurs in another just when it is a part of it
(`occurs_iff`), as each of several texts is of all of them joined (`infix_intercalate`), which
begin with the first few of them joined (`prefix_intercalate`). A cut is made at the first place
where the separator stands (`prefix_of_cut`), if there is one (`cut_eq_none_iff`).
-/
import Mathlib.Data.List.Infix
import Screenplay.Text.Basic

namespace Screenplay.Text

theorem occurs_iff {needle s : List Char} : occurs needle s = true ↔ needle <:+: s := by
  induction s with
  | nil => rw [occurs, List.isEmpty_iff, List.infix_nil]
  | cons c r ih => rw [occurs, Bool.or_eq_true, List.isPrefixOf_iff_prefix, ih, List.infix_cons_iff]

theorem contains_iff {s needle : String} : contains s needle = true ↔ needle.toList <:+: s.toList :=
  occurs_iff

/-- Each of the texts is a part of all of them joined. -/
theorem infix_intercalate (sep : List Char) {s : List Char} {texts : List (List Char)} (h : s ∈ texts) :
    s <:+: sep.intercalate texts := by
  induction texts with
  | nil => cases h
  | cons t texts ih =>
    cases texts with
    | nil =>
      rw [List.mem_singleton.1 h, List.intercalate_singleton]
    | cons u texts =>
      rw [List.intercalate_cons_cons]
      rcases List.mem_cons.1 h with rfl | h
      · rw [List.append_assoc]
        exact (List.prefix_append _ _).isInfix
      · exact (ih h).trans (List.suffix_append _ _).isInfix

/-- Texts joined are the beginning of what they are joined to with more texts behind them. -/
theorem prefix_intercalate (sep : List Char) (texts more : List (List Char)) :
    sep.intercalate texts <+: sep.intercalate (texts ++ more) := by
  induction texts with
  | nil => exact List.nil_prefix
  | cons s texts ih =>
    cases texts with
    | nil =>
      cases more with
      | nil => exact List.prefix_rfl
      | cons t more =>
        rw [List.singleton_append, List.intercalate_singleton, List.intercalate_cons_cons, List.append_assoc]
        exact List.prefix_append _ _
    | cons t texts =>
      rw [List.cons_append, List.cons_append, List.intercalate_cons_cons, List.intercalate_cons_cons]
      exact (List.prefix_append_right_inj _).2 ih

theorem cut_eq_none_iff {sep s : List Char} : cut sep s = none ↔ ¬ sep <:+: s := by
  induction s with
  | nil => simp [cut]
  | cons c r ih =>
    rw [cut, List.infix_cons_iff, not_or, ← List.isPrefixOf_iff_prefix]
    split
    · next h => simp [h]
    · next h => rw [Option.map_eq_none_iff, ih]; simp [h]

theorem prefix_of_cut {sep s before after : List Char} (h : cut sep s = some (before, after)) {b a : List Char}
    (hs : s = b ++ sep ++ a) : before <+: b := by
  induction s generalizing before b with
  | nil =>
    rw [cut] at h
    split at h
    · cases h
      exact List.nil_prefix
    · cases h
  | cons c r ih =>
    rw [cut] at h
    split at h
    · cases h
      exact List.nil_prefix
    · next hp =>
      obtain ⟨⟨before', after'⟩, hcut, he⟩ := Option.map_eq_some_iff.1 h
      cases he
      cases b with
      | nil => exact absurd (isPrefixOf_iff.2 ⟨a, hs⟩) hp
      | cons d b =>
        obtain ⟨rfl, hr⟩ := List.cons.inj hs
        exact List.cons_prefix_cons.2 ⟨rfl, ih hcut hr⟩

end Screenplay.Text
