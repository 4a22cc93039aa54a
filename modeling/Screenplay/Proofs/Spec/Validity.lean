/-
What validation makes sure of. A valid screen is one that `validate` gives for
some draft; so its texts are trimmed, and the route, where there is one, is not
blank.
-/
import Screenplay.Proofs.Text.Blanks
import Screenplay.Spec.Validate

namespace Screenplay

theorem Text.exists_of_trim_ne_empty {s : String} (h : Text.trim s ≠ "") :
    ∃ c ∈ (Text.trim s).toList, Text.isBlank c = false := by
  rw [Text.trim, String.toList_ofList]
  refine Text.exists_of_trimmed_ne_nil fun he => h ?_
  rw [Text.trim, he]

/-- A screen that validation gives. -/
def Screen.Valid (s : Screen) : Prop := ∃ d : Draft, validate d = .ok s

theorem Screen.Valid.exists_draft {s : Screen} (h : s.Valid) : ∃ d : Draft, d.defects = [] ∧ s = d.normal := by
  obtain ⟨d, hd⟩ := h
  rw [validate] at hd
  split at hd
  · next hn => cases hd; exact ⟨d, hn, rfl⟩
  · cases hd

/-- A case of a screen that validation gives. -/
def Case.Valid (c : Case) : Prop := ∃ s : Screen, s.Valid ∧ c ∈ s.cases

theorem Case.Valid.exists_draft {c : Case} (h : c.Valid) : ∃ d : CaseDraft, c = d.normal := by
  obtain ⟨s, hs, hc⟩ := h
  obtain ⟨d, -, rfl⟩ := hs.exists_draft
  obtain ⟨cd, -, rfl⟩ := List.mem_map.1 hc
  exact ⟨cd, rfl⟩

/-! ## Texts that are there -/

theorem trimmedText_eq_trim (s : Option String) : ∃ t, trimmedText s = Text.trim t := by
  cases s with
  | none => exact ⟨"", rfl⟩
  | some t => exact ⟨t, rfl⟩

/-- The route of a valid screen is not blank. -/
theorem Screen.Valid.exists_of_route {s : Screen} (h : s.Valid) {r : String} (hr : s.route = some r) :
    ∃ c ∈ r.toList, Text.isBlank c = false := by
  obtain ⟨d, -, rfl⟩ := h.exists_draft
  obtain ⟨hm, hne⟩ := Option.filter_eq_some_iff.1 hr
  obtain ⟨t, -, rfl⟩ := Option.map_eq_some_iff.1 hm
  exact Text.exists_of_trim_ne_empty (by simpa using hne)

/-- The description of a valid case is empty or not blank. -/
theorem Case.Valid.exists_of_description {c : Case} (h : c.Valid) (hne : c.description ≠ "") :
    ∃ x ∈ c.description.toList, Text.isBlank x = false := by
  obtain ⟨d, rfl⟩ := h.exists_draft
  obtain ⟨t, ht⟩ := trimmedText_eq_trim d.description
  have hd : d.normal.description = Text.trim t := ht
  rw [hd] at hne ⊢
  exact Text.exists_of_trim_ne_empty hne

end Screenplay
