/-
Texts in order and each once. `insertName` keeps a list so, and `ordered` brings
the texts of any list into it.
-/
import Screenplay.Text.Basic

namespace Screenplay.Text

theorem precedes_iff {s t : String} : precedes s t = true ↔ s < t := by
  rw [precedes, decide_eq_true_iff]

theorem precedes_trans {s t u : String} (h : precedes s t = true) (h' : precedes t u = true) :
    precedes s u = true :=
  precedes_iff.2 (String.lt_trans (precedes_iff.1 h) (precedes_iff.1 h'))

theorem precedes_self (s : String) : precedes s s = false := by
  rw [Bool.eq_false_iff]
  exact fun h => String.lt_irrefl s (precedes_iff.1 h)

theorem ne_of_precedes {s t : String} (h : precedes s t = true) : s ≠ t := by
  rintro rfl
  rw [precedes_self] at h
  cases h

/-- Of two texts that differ, one comes before the other. -/
theorem precedes_of_ne {s t : String} (h : s ≠ t) (hst : precedes s t = false) : precedes t s = true := by
  rw [precedes_iff]
  rw [precedes, decide_eq_false_iff_not] at hst
  exact Decidable.byContradiction fun hts => h (String.le_antisymm (String.not_lt.1 hts) (String.not_lt.1 hst))

/-- Every text comes before all that follow it. -/
def Ascending (l : List String) : Prop := l.Pairwise (precedes · · = true)

theorem Ascending.nodup {l : List String} (h : Ascending l) : l.Nodup := h.imp ne_of_precedes

theorem mem_insertName {s x : String} {l : List String} : x ∈ insertName s l ↔ x = s ∨ x ∈ l := by
  induction l with
  | nil => simp [insertName]
  | cons t ts ih =>
    rw [insertName]
    split
    · rw [List.mem_cons]
    · split
      · next h => simp [beq_iff_eq.1 h]
      · rw [List.mem_cons, ih, List.mem_cons, or_left_comm]

theorem ascending_insertName {s : String} {l : List String} (h : Ascending l) : Ascending (insertName s l) := by
  induction l with
  | nil => exact List.pairwise_singleton _ _
  | cons t ts ih =>
    obtain ⟨ht, hts⟩ := List.pairwise_cons.1 h
    rw [insertName]
    split
    · next hst =>
      refine List.pairwise_cons.2 ⟨fun x hx => ?_, h⟩
      rcases List.mem_cons.1 hx with rfl | hx
      · exact hst
      · exact precedes_trans hst (ht x hx)
    · split
      · exact h
      · next hst hne =>
        refine List.pairwise_cons.2 ⟨fun x hx => ?_, ih hts⟩
        rcases mem_insertName.1 hx with rfl | hx
        · exact precedes_of_ne (by simpa using hne) (by simpa using hst)
        · exact ht x hx

theorem foldl_insertName (l : List String) {names : List String} (h : Ascending names) :
    Ascending (l.foldl (fun names s => insertName s names) names) ∧
      ∀ x, x ∈ l.foldl (fun names s => insertName s names) names ↔ x ∈ l ∨ x ∈ names := by
  induction l generalizing names with
  | nil => exact ⟨h, by simp⟩
  | cons s l ih =>
    obtain ⟨ha, hm⟩ := ih (ascending_insertName (s := s) h)
    refine ⟨ha, fun x => ?_⟩
    rw [List.foldl_cons, hm, mem_insertName, List.mem_cons, or_left_comm, ← or_assoc]

theorem ascending_ordered (l : List String) : Ascending (ordered l) :=
  (foldl_insertName l .nil).1

@[simp] theorem mem_ordered {x : String} {l : List String} : x ∈ ordered l ↔ x ∈ l := by
  simpa [ordered] using (foldl_insertName l .nil).2 x

end Screenplay.Text
