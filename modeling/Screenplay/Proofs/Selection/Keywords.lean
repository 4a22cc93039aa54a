/-
Which keywords are found in a case. Keywords and texts are put in lower case apart from each other,
and a keyword is found if its lower case is a part of that of the texts. So a keyword that stands in
a text is found, in whatever case, as long as its own lower case is what it has in the text. That
fails for capital sigmas at the ends of keywords: just the steady keywords are found wherever they
stand (`found_iff_steady`, `sigma_missed`).
-/
import Screenplay.Generation.Cost
import Screenplay.Proofs.Text.Lowering
import Screenplay.Selection.Match

namespace Screenplay

open Screenplay.Text

/-! ## Searching a case -/

theorem Case.searchText_eq (c : Case) : c.searchText = join " " (c.texts.map lower) := by
  rw [searchText, lower_join]

theorem Case.complexityText_eq (c : Case) :
    c.complexityText = join " " ((c.description :: c.steps).map lower) := rfl

/-- A steady term that stands in one of several texts is found in all of them joined, in lower case. -/
theorem contains_join_lower {term : String} (hsteady : Steady term.toList) {texts : List String}
    (h : ∃ text ∈ texts, term.toList <:+: text.toList) : contains (join " " (texts.map lower)) (lower term) = true := by
  obtain ⟨text, htext, hterm⟩ := h
  have hlower : (lower term).toList <:+: (lower text).toList := by
    rw [lower, lower, String.toList_ofList, String.toList_ofList]
    exact lowered_part hsteady hterm
  rw [contains_iff, join, String.toList_intercalate]
  exact hlower.trans (infix_intercalate _ (List.mem_map_of_mem (List.mem_map_of_mem htext)))

theorem Catalog.mem_matched {W : Type} [Measure W] {c : Catalog W} {p : Pattern W} {text term : String} :
    term ∈ (c.score text p).matched ↔ term ∈ p.keywords.map (·.term) ∧ contains text term = true := by
  simp only [score, Pattern.found, List.mem_map, List.mem_filter]
  constructor
  · rintro ⟨k, ⟨hk, hfound⟩, rfl⟩
    exact ⟨⟨k, hk, rfl⟩, hfound⟩
  · rintro ⟨⟨k, hk, rfl⟩, hfound⟩
    exact ⟨k, ⟨hk, hfound⟩, rfl⟩

theorem Pattern.lower_mem_ofTerms {W : Type} [Measure W] {flow : Flow} {terms : List (String × W)}
    {threshold : Option W} {term : String} (h : term ∈ terms.map (·.1)) :
    lower term ∈ (ofTerms flow terms threshold).keywords.map (·.term) := by
  obtain ⟨entry, hentry, rfl⟩ := List.mem_map.1 h
  rw [ofTerms, List.map_map]
  exact List.mem_map_of_mem (f := fun e : String × W => lower e.1) hentry

theorem TierPolicy.tier_of_keyword {p : TierPolicy} {c : Case} {keyword : String}
    (hmem : keyword ∈ p.complexityKeywords) (h : contains c.complexityText (lower keyword) = true) :
    p.tier c = .capable := by
  have hany : (p.complexityKeywords.any fun k => contains c.complexityText (lower k)) = true :=
    List.any_eq_true.2 ⟨keyword, hmem, h⟩
  rw [tier, if_pos hany, ite_self]

/-! ## Keywords that are missed -/

/-- A case with one text to search. -/
def Case.saying (text : String) : Case := ⟨"-", text, ["-"], ["-"], none, none, false⟩

theorem lowered_dash : lowered ['-'] = ['-'] := by decide +kernel

theorem Case.searchText_saying (text : String) :
    (saying text).searchText.toList = "- ".toList ++ lowered text.toList ++ " - -".toList := by
  have htexts : (saying text).texts = ["-", text, "-", "-"] := rfl
  rw [searchText_eq, htexts, join, String.toList_intercalate]
  simp [lower, lowered_dash]

theorem Case.complexityText_saying (text : String) :
    (saying text).complexityText.toList = lowered text.toList ++ " -".toList := by
  have htexts : (saying text).description :: (saying text).steps = [text, "-"] := rfl
  rw [complexityText_eq, htexts, join, String.toList_intercalate]
  simp [lower, lowered_dash]

/-- For a term that is not steady there is a case in which it stands, and in whose texts it is not found. -/
theorem exists_saying {term : String} (h : ¬ Steady term.toList) :
    ∃ text : String, term.toList <:+: text.toList ∧ contains (Case.saying text).searchText (lower term) = false ∧
      contains (Case.saying text).complexityText (lower term) = false := by
  obtain ⟨s, hs, c, hc, hcount⟩ := exists_missed h
  have hmissed {text : String} (he : text.toList.count c = (lowered s).count c) : contains text (lower term) = false := by
    refine Bool.eq_false_iff.2 fun hfound => ?_
    have hle := (contains_iff.1 hfound).count_le c
    rw [he, lower, String.toList_ofList] at hle
    omega
  have hframe : "- ".toList.count c = 0 ∧ " - -".toList.count c = 0 ∧ " -".toList.count c = 0 := by
    rcases hc with rfl | rfl <;> decide
  obtain ⟨hfront, hback, hstep⟩ := hframe
  have htext : (String.ofList s).toList = s := String.toList_ofList
  refine ⟨.ofList s, by rwa [htext], hmissed ?_, hmissed ?_⟩
  · rw [Case.searchText_saying, htext, List.count_append, List.count_append, hfront, hback, Nat.zero_add, Nat.add_zero]
  · rw [Case.complexityText_saying, htext, List.count_append, hstep, Nat.add_zero]

/-- **Just the steady terms are found wherever they stand.** If a term is steady, then a pattern made of terms with
this one lists it for every case that has it in its name, its description, a step or an assertion, and as a keyword of
complexity it sends every case that has it in its description or a step to the capable tier. For any other term there
are cases where it is missed. -/
theorem found_iff_steady {W : Type} [Measure W] (term : String) :
    (Steady term.toList ↔
      ∀ (c : Catalog W) (flow : Flow) (terms : List (String × W)) (threshold : Option W) (test : Case),
        term ∈ terms.map (·.1) → (∃ text ∈ test.texts, term.toList <:+: text.toList) →
          lower term ∈ (c.score test.searchText (.ofTerms flow terms threshold)).matched) ∧
    (Steady term.toList ↔
      ∀ (p : TierPolicy) (test : Case), term ∈ p.complexityKeywords →
        (∃ text ∈ test.description :: test.steps, term.toList <:+: text.toList) → p.tier test = .capable) := by
  refine ⟨⟨fun hsteady c flow terms threshold test hterm htext => ?_, fun hfound => ?_⟩,
    ⟨fun hsteady p test hterm htext => ?_, fun hfound => ?_⟩⟩
  · refine Catalog.mem_matched.2 ⟨Pattern.lower_mem_ofTerms hterm, ?_⟩
    rw [Case.searchText_eq]
    exact contains_join_lower hsteady htext
  · by_contra h
    obtain ⟨text, hterm, hmissed, -⟩ := exists_saying h
    have hlisted := hfound ⟨[], Measure.zero⟩ .navigation [(term, Measure.one)] none (.saying text) (by simp)
      ⟨text, by simp [Case.texts, Case.saying], hterm⟩
    rw [(Catalog.mem_matched.1 hlisted).2] at hmissed
    cases hmissed
  · refine TierPolicy.tier_of_keyword hterm ?_
    rw [Case.complexityText_eq]
    exact contains_join_lower hsteady htext
  · by_contra h
    obtain ⟨text, hterm, -, hmissed⟩ := exists_saying h
    have hcapable := hfound ⟨1, 1, [term]⟩ (.saying text) (by simp) ⟨text, by simp [Case.saying], hterm⟩
    rw [TierPolicy.tier, if_neg (by simp [Case.saying])] at hcapable
    simp [hmissed] at hcapable

/-- The keyword stands in the name and in the description, where another letter follows it. By itself it ends in the
sigma of the ends of words. -/
theorem sigma_missed :
    let test : Case := ⟨"ΦΙΛΟΣΟΦΟΣ", "ΦΙΛΟΣΟΦΟΣ", ["open it"], ["it is there"], none, none, false⟩
    let pattern : Pattern Float := .ofTerms .navigation [("ΦΙΛΟΣ", 1.0)] none
    let policy : TierPolicy := ⟨3, 3, ["ΦΙΛΟΣ"]⟩
    "ΦΙΛΟΣ".toList <:+: test.name.toList ∧ "ΦΙΛΟΣ".toList <:+: test.description.toList ∧
      ((Catalog.mk [pattern] 0.7).score test.searchText pattern).matched = [] ∧ policy.tier test = .fast := by
  decide +kernel

end Screenplay
