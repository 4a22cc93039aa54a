/-
How the tier follows a case and the policy. A case is sent to the capable tier for its length or for
a keyword in the text of its description and its steps. Steps that come behind the others leave that
text at the beginning of the longer one, so a keyword that was found stays found, also one that runs
from a text into the next. So a case that grows and a policy that gets stricter never lower the tier
(`capable_of_grown`).
-/
import Screenplay.Generation.Cost
import Screenplay.Proofs.Text.Search

namespace Screenplay

open Screenplay.Text

/-- The case with more steps behind its own, and more assertions anywhere among its own. -/
structure Case.Grown (c d : Case) : Prop where
  description : d.description = c.description
  steps : c.steps <+: d.steps
  assertions : c.assertions.Sublist d.assertions

/-- The policy with lower limits, and more keywords anywhere among its own. -/
structure TierPolicy.Stricter (p q : TierPolicy) : Prop where
  steps : q.maxFastSteps ≤ p.maxFastSteps
  assertions : q.maxFastAssertions ≤ p.maxFastAssertions
  keywords : p.complexityKeywords.Sublist q.complexityKeywords

theorem TierPolicy.tier_eq_capable_iff {p : TierPolicy} {c : Case} :
    p.tier c = .capable ↔
      (p.maxFastSteps < c.steps.length ∨ p.maxFastAssertions < c.assertions.length) ∨
        ∃ keyword ∈ p.complexityKeywords, contains c.complexityText (lower keyword) = true := by
  have hkeywords := List.any_eq_true (l := p.complexityKeywords) (p := fun k => contains c.complexityText (lower k))
  rw [tier, ← hkeywords]
  split
  · next hlong => exact iff_of_true rfl (.inl (by simpa using hlong))
  · next hshort =>
    split
    · next hkeyword => exact iff_of_true rfl (.inr hkeyword)
    · next hnone => exact iff_of_false nofun (not_or.2 ⟨by simpa using hshort, hnone⟩)

theorem TierPolicy.tier_eq_fast_iff {p : TierPolicy} {c : Case} : p.tier c = .fast ↔ p.tier c ≠ .capable := by
  cases p.tier c <;> decide

/-! ## What grows -/

section

variable {c d : Case}

theorem Case.Grown.complexityText (h : c.Grown d) : c.complexityText.toList <+: d.complexityText.toList := by
  obtain ⟨more, hmore⟩ := h.steps
  rw [Case.complexityText, Case.complexityText, h.description, ← hmore, List.map_append, ← List.cons_append,
    join, join, String.toList_intercalate, String.toList_intercalate, List.map_append]
  exact prefix_intercalate _ _ _

theorem Case.Grown.contains (h : c.Grown d) {keyword : String}
    (hfound : Text.contains c.complexityText keyword = true) : Text.contains d.complexityText keyword = true := by
  rw [contains_iff] at hfound ⊢
  exact hfound.trans h.complexityText.isInfix

end

/-- **The tier never drops.** When a case goes to the capable tier, then so does the case with more steps behind its own
and more assertions anywhere, by the policy with lower limits and more keywords anywhere. So where the fast tier does
for the larger case, it does for the smaller one. -/
theorem TierPolicy.capable_of_grown {c d : Case} {p q : TierPolicy} (hcase : c.Grown d) (hpolicy : p.Stricter q) :
    (p.tier c = .capable → q.tier d = .capable) ∧ (q.tier d = .fast → p.tier c = .fast) := by
  have hcapable : p.tier c = .capable → q.tier d = .capable := by
    rw [tier_eq_capable_iff, tier_eq_capable_iff]
    rintro ((hsteps | hassertions) | ⟨keyword, hkeyword, hfound⟩)
    · exact .inl (.inl (hpolicy.steps.trans_lt (hsteps.trans_le hcase.steps.length_le)))
    · exact .inl (.inr (hpolicy.assertions.trans_lt (hassertions.trans_le hcase.assertions.length_le)))
    · exact .inr ⟨keyword, hpolicy.keywords.subset hkeyword, hcase.contains hfound⟩
  exact ⟨hcapable, fun hfast => tier_eq_fast_iff.2 (mt hcapable (tier_eq_fast_iff.1 hfast))⟩

/-- The keyword runs from the description into the first step. -/
theorem TierPolicy.capable_of_grown_seam :
    let c : Case := ⟨"rows", "Keeps the State", ["Management opens"], ["it is there"], none, none, false⟩
    let d : Case := { c with steps := c.steps ++ ["reload"], assertions := "no error" :: c.assertions }
    let p : TierPolicy := ⟨3, 3, ["loop", "state management"]⟩
    let q : TierPolicy := ⟨2, 3, ["loop", "retry", "state management"]⟩
    c.Grown d ∧ p.Stricter q ∧ p.tier c = .capable ∧ q.tier d = .capable := by
  intro c d p q
  have hcase : c.Grown d := ⟨rfl, List.prefix_append _ _, List.sublist_cons_self _ _⟩
  have hpolicy : p.Stricter q := ⟨by decide, by decide, by decide⟩
  have hcapable : p.tier c = .capable := by decide +kernel
  exact ⟨hcase, hpolicy, hcapable, (capable_of_grown hcase hpolicy).1 hcapable⟩

end Screenplay
