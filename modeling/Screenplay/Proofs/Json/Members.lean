/-
Putting the members of an object in order does not change what the names mean:
the last member of a name is the one that is kept (`member?_orderMembers`).
-/
import Screenplay.Proofs.Template.Environment
import Screenplay.Proofs.Text.Ordering

namespace Screenplay.Json

open Screenplay.Text (precedes Ascending)
open Screenplay.Template (member?_append member?_singleton)

theorem member?_cons (n : String) (v : Json) (l : List (String × Json)) (name : String) :
    member? ((n, v) :: l) name = (member? l name).or (if n == name then some v else none) := by
  rw [← List.singleton_append, member?_append, member?_singleton]

theorem member?_eq_none {l : List (String × Json)} {name : String} (h : ∀ n ∈ l.map (·.1), n ≠ name) :
    member? l name = none := by
  rw [member?, List.find?_eq_none.2, Option.map_none]
  intro p hp
  simpa using h p.1 (List.mem_map_of_mem (List.mem_reverse.1 hp))

/-! ## One member -/

theorem mem_setMember {name : String} {value : Json} {l : List (String × Json)} {n : String}
    (h : n ∈ (setMember name value l).map (·.1)) : n = name ∨ n ∈ l.map (·.1) := by
  induction l with
  | nil => simpa [setMember] using h
  | cons p l ih =>
    obtain ⟨k, v⟩ := p
    rw [setMember] at h
    split at h
    · simpa using h
    · split at h
      · simp only [List.map_cons, List.mem_cons] at h ⊢
        exact h.imp_right .inr
      · simp only [List.map_cons, List.mem_cons] at h ⊢
        rcases h with rfl | h
        · exact .inr (.inl rfl)
        · exact (ih h).imp_right .inr

/-- Setting a member keeps the order, and gives its name the value and no other name another. -/
theorem setMember_spec (name : String) (value : Json) {l : List (String × Json)}
    (h : Ascending (l.map (·.1))) :
    Ascending ((setMember name value l).map (·.1)) ∧
      ∀ n, member? (setMember name value l) n = if name == n then some value else member? l n := by
  induction l with
  | nil => exact ⟨List.pairwise_singleton _ _, fun n => member?_singleton name value n⟩
  | cons p l ih =>
    obtain ⟨k, v⟩ := p
    rw [List.map_cons] at h
    obtain ⟨hk, hl⟩ := List.pairwise_cons.1 h
    rw [setMember]
    split
    · next hpre =>
      have hbefore : ∀ n ∈ ((k, v) :: l).map (·.1), precedes name n = true := by
        intro n hn
        rcases List.mem_cons.1 hn with rfl | hn
        · exact hpre
        · exact Text.precedes_trans hpre (hk n hn)
      refine ⟨List.pairwise_cons.2 ⟨hbefore, h⟩, fun n => ?_⟩
      rw [member?_cons name]
      by_cases hn : name = n
      · subst hn
        rw [member?_eq_none fun m hm => (Text.ne_of_precedes (hbefore m hm)).symm]
        simp
      · have hb : (name == n) = false := by simpa using hn
        simp only [hb, Bool.false_eq_true, if_false, Option.or_none]
    · split
      · next hnk =>
        rw [beq_iff_eq] at hnk
        subst hnk
        refine ⟨h, fun n => ?_⟩
        rw [member?_cons, member?_cons]
        by_cases hn : name = n
        · subst hn
          rw [member?_eq_none fun m hm => (Text.ne_of_precedes (hk m hm)).symm]
          simp
        · have hb : (name == n) = false := by simpa using hn
          simp only [hb, Bool.false_eq_true, if_false]
      · next hpre hnk =>
        obtain ⟨ha, hm⟩ := ih hl
        refine ⟨List.pairwise_cons.2 ⟨fun n hn => ?_, ha⟩, fun n => ?_⟩
        · rcases mem_setMember hn with rfl | hn
          · exact Text.precedes_of_ne (by simpa using hnk) (by simpa using hpre)
          · exact hk n hn
        · rw [member?_cons, hm, member?_cons]
          by_cases hn : name = n
          · subst hn
            simp
          · have hb : (name == n) = false := by simpa using hn
            simp only [hb, Bool.false_eq_true, if_false]

/-! ## All members -/

theorem foldl_setMember (members : List (String × Json)) {done : List (String × Json)}
    (h : Ascending (done.map (·.1))) (name : String) :
    member? (members.foldl (fun done (n, v) => setMember n v done) done) name =
      (member? members name).or (member? done name) := by
  induction members generalizing done with
  | nil => rfl
  | cons p members ih =>
    obtain ⟨n, v⟩ := p
    obtain ⟨ha, hm⟩ := setMember_spec n v h
    rw [List.foldl_cons, ih ha, hm, member?_cons, Option.or_assoc]
    congr 1
    split <;> rfl

/-- **Ordered members mean the same.** -/
theorem member?_orderMembers (members : List (String × Json)) (name : String) :
    member? (orderMembers members) name = member? members name := by
  have h := @foldl_setMember members [] List.Pairwise.nil name
  rw [orderMembers, h]
  exact Option.or_none

end Screenplay.Json
