/-
Where in a draft a place is, and what it is called. The rank of a place is the
way to it from the top: ranks are compared like words in a dictionary, so a test
comes before the next one, and an entry of a list before the field after the
list. No two places have the same path (`path_injective`).
-/
import Mathlib
import Screenplay.Proofs.Text.Blanks
import Screenplay.Spec.Validate

namespace Screenplay

/-! ## Ranks -/

/-- Which field of a test case the list is, the name being number 0. -/
def Listing.column : Listing → Nat
  | steps => 1
  | assertions => 2

/-- The numbers of the fields and of the items on the way to a place. -/
def Place.rank : Place → List Nat
  | screen => [0]
  | description => [1]
  | tests => [2]
  | name i => [2, i, 0]
  | listing i l => [2, i, l.column]
  | entry i l j => [2, i, l.column, j]
  | hint i => [2, i, 3]
  | priority i => [2, i, 4]

/-! ## Paths -/

theorem Listing.field_injective {l m : Listing} (h : l.field = m.field) : l = m := by
  cases l <;> cases m <;> first | rfl | exact absurd h (by decide)

/-- The path of a test ends where its field begins. -/
theorem testPath_injective {i j : Nat} {f g : String} (h : testPath i f = testPath j g) : i = j ∧ f = g := by
  have hmark : "].".toList = [']', '.'] := by decide
  simp only [testPath, ← String.toList_inj, String.toList_append, List.append_assoc, hmark,
    List.cons_append, List.nil_append, List.append_cancel_left_eq] at h
  obtain ⟨hi, hf⟩ := Text.eq_of_separated (not_mem_toString (by decide) i) (not_mem_toString (by decide) j) h
  exact ⟨Nat.repr_injective (String.toList_inj.1 hi), String.toList_inj.1 (List.cons.inj hf).2⟩

/-- The number of an entry, as it stands behind its list. -/
def indexPath : Option Nat → String
  | none => ""
  | some j => "[" ++ toString j ++ "]"

/-- The path of a field without brackets ends where the number of an entry begins. -/
theorem indexPath_injective {f g : String} {a b : Option Nat} (hf : '[' ∉ f.toList) (hg : '[' ∉ g.toList)
    (h : f ++ indexPath a = g ++ indexPath b) : f = g ∧ a = b := by
  have hmark : "[".toList = ['['] := by decide
  rw [← String.toList_inj, String.toList_append, String.toList_append] at h
  cases a with
  | none =>
    cases b with
    | none => exact ⟨String.toList_inj.1 (by simpa [indexPath] using h), rfl⟩
    | some k =>
      refine absurd ?_ hf
      simp [indexPath] at h
      simp [h]
  | some j =>
    cases b with
    | none =>
      refine absurd ?_ hg
      simp [indexPath] at h
      simp [← h]
    | some k =>
      simp only [indexPath, String.toList_append, hmark, List.cons_append, List.nil_append] at h
      obtain ⟨hfg, hjk⟩ := Text.eq_of_separated hf hg h
      have hjk : toString j = toString k := String.toList_inj.1 (List.append_cancel_right hjk)
      exact ⟨String.toList_inj.1 hfg, congrArg some (Nat.repr_injective hjk)⟩

namespace Place

/-- What the path of a place within a test says: the test, the field, and the entry if it is one. -/
def spot? : Place → Option (Nat × String × Option Nat)
  | screen | description | tests => none
  | name i => some (i, "name", none)
  | listing i l => some (i, l.field, none)
  | entry i l j => some (i, l.field, some j)
  | hint i => some (i, "templateHint", none)
  | priority i => some (i, "priority", none)

theorem path_of_spot? {p : Place} {i : Nat} {f : String} {a : Option Nat} (h : p.spot? = some (i, f, a)) :
    p.path = testPath i (f ++ indexPath a) ∧ '[' ∉ f.toList := by
  cases p with
  | screen | description | tests => cases h
  | name | hint | priority =>
    cases h
    exact ⟨rfl, by decide⟩
  | listing i l =>
    cases h
    exact ⟨by simp [path, indexPath], by cases l <;> decide⟩
  | entry i l j =>
    cases h
    exact ⟨by simp [path, testPath, indexPath, String.append_assoc], by cases l <;> decide⟩

theorem eq_of_spot? {p q : Place} {x : Nat × String × Option Nat} (hp : p.spot? = some x)
    (hq : q.spot? = some x) : p = q := by
  have hlist (l : Listing) : "name" ≠ l.field ∧ "templateHint" ≠ l.field ∧ "priority" ≠ l.field := by
    cases l <;> decide
  cases p with
  | screen | description | tests => cases hp
  | name | hint | priority =>
    cases hp
    cases q with
    | listing k m => simp [spot?, Ne.symm (hlist m).1, Ne.symm (hlist m).2.1, Ne.symm (hlist m).2.2] at hq
    | _ => simp_all [spot?]
  | listing i l =>
    cases hp
    cases q with
    | listing k m =>
      obtain ⟨rfl, hf⟩ : k = i ∧ m.field = l.field := by simpa [spot?] using hq
      rw [Listing.field_injective hf]
    | screen | description | tests => cases hq
    | name | entry | hint | priority => simp [spot?, hlist] at hq
  | entry i l j =>
    cases hp
    cases q with
    | entry k m n =>
      obtain ⟨rfl, hf, rfl⟩ : k = i ∧ m.field = l.field ∧ n = j := by simpa [spot?] using hq
      rw [Listing.field_injective hf]
    | screen | description | tests => cases hq
    | name | listing | hint | priority => simp [spot?] at hq

theorem path_ne_testPath {p : Place} (h : p.spot? = none) (i : Nat) (f : String) : p.path ≠ testPath i f := by
  intro he
  have hhead := congrArg (fun s : String => s.toList.take 6) he
  cases p <;> simp [path, testPath, spot?] at hhead h

theorem eq_of_path_outside {p q : Place} (hp : p.spot? = none) (hq : q.spot? = none) (h : p.path = q.path) :
    p = q := by
  have houtside {r : Place} (hr : r.spot? = none) : r = screen ∨ r = description ∨ r = tests := by
    cases r <;> simp [spot?] at hr ⊢
  rcases houtside hp with rfl | rfl | rfl <;> rcases houtside hq with rfl | rfl | rfl <;>
    first | rfl | exact absurd h (by decide)

/-- **No two places have the same path.** -/
theorem path_injective {p q : Place} (h : p.path = q.path) : p = q := by
  cases hp : p.spot? with
  | none =>
    cases hq : q.spot? with
    | none => exact eq_of_path_outside hp hq h
    | some y => exact absurd (h.trans (path_of_spot? hq).1) (path_ne_testPath hp _ _)
  | some x =>
    obtain ⟨hpath, hf⟩ := path_of_spot? hp
    cases hq : q.spot? with
    | none => exact absurd (h.symm.trans hpath) (path_ne_testPath hq _ _)
    | some y =>
      obtain ⟨hpath', hg⟩ := path_of_spot? hq
      obtain ⟨hi, hfield⟩ := testPath_injective (hpath.symm.trans (h.trans hpath'))
      obtain ⟨hfg, ha⟩ := indexPath_injective hf hg hfield
      exact eq_of_spot? hp (hq.trans (congrArg some (Prod.ext hi.symm (Prod.ext hfg.symm ha.symm))))

end Place

end Screenplay
