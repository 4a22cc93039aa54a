/-
What scores are worth. With weights read as the fractions that they are, and sums and quotients taken
exactly, a score is the weight of the keywords found as a part of all the weight. No weight of a
pattern made from terms is below zero, so every score is between zero and one, it is one just when
nothing of any weight is missed, and it is no lower where more keywords are found (`scores_exact`).
-/
import Mathlib.Algebra.Order.BigOperators.Group.List
import Screenplay.Proofs.Selection.Ranking

namespace Screenplay

/-! ## Exact weights -/

/-- The exact arithmetic of fractions. -/
instance : Measure ℚ where
  zero := 0
  one := 1
  add := (· + ·)
  div := (· / ·)
  lt a b := a < b
  le a b := a ≤ b

namespace Number

open Float.Model (UnpackedFloat)

/-- The fraction that an unpacked float is, if it is finite. -/
def rationalOf : UnpackedFloat → ℚ
  | .finite s m e _ => direction s * m * 2 ^ e
  | _ => 0

/-- The fraction that a finite float is. -/
def rational (x : Float) : ℚ := rationalOf x.toModel.unpack

theorem zero_lt_iff_rational {x : Float} (hx : x.isFinite = true) : 0.0 < x ↔ 0 < rational x := by
  have hfinite : x.toModel.unpack.isFinite = true := hx
  have hzero : (0.0 : Float).toModel.unpack = .zero .positive := rfl
  rw [lt_iff_unpack, rational, hzero]
  generalize x.toModel.unpack = u at hfinite
  cases u with
  | notANumber => cases hfinite
  | infinity s => cases hfinite
  | zero s => exact iff_of_false (by rintro ⟨⟩) (lt_irrefl 0)
  | finite s m e hm =>
    have hpos : (0 : ℚ) < m * 2 ^ e := by positivity
    cases s with
    | positive =>
      refine iff_of_true rfl ?_
      rwa [rationalOf, direction, Int.cast_one, one_mul]
    | negative =>
      refine iff_of_false (by rintro ⟨⟩) ?_
      rw [rationalOf, direction, Int.cast_neg, Int.cast_one, neg_one_mul, neg_mul]
      exact (neg_neg_of_pos hpos).not_gt

theorem rational_clamped {x : Float} (hx : x.isFinite = true) :
    rational (Measure.clamped x) = Measure.clamped (rational x) := by
  have hlt : Measure.lt Measure.zero x = Measure.lt Measure.zero (rational x) :=
    decide_eq_decide.2 (zero_lt_iff_rational hx)
  rw [Measure.clamped, Measure.clamped, ← hlt]
  split
  · rfl
  · rfl

end Number

/-- The pattern with other weights. -/
def Pattern.map {V W : Type} (f : V → W) (p : Pattern V) : Pattern W where
  flow := p.flow
  keywords := p.keywords.map fun k => ⟨k.term, f k.weight⟩
  threshold := p.threshold.map f

/-- The catalog with other weights. -/
def Catalog.map {V W : Type} (f : V → W) (c : Catalog V) : Catalog W where
  patterns := c.patterns.map (Pattern.map f)
  defaultThreshold := f c.defaultThreshold

/-- Weights and thresholds as the fractions that they are. -/
def Pattern.exact (p : Pattern Float) : Pattern ℚ := p.map Number.rational

def Catalog.exact (c : Catalog Float) : Catalog ℚ := c.map Number.rational

namespace Pattern

theorem found_map {V W : Type} (f : V → W) (p : Pattern V) (text : String) :
    (p.map f).found text = (p.found text).map fun k => ⟨k.term, f k.weight⟩ := by
  rw [found, found, map, List.filter_map]
  rfl

/-- Weights below zero may be clamped before they are read exactly, or after. -/
theorem exact_ofTerms {flow : Flow} {terms : List (String × Float)} {threshold : Option Float}
    (hfinite : ∀ t ∈ terms, t.2.isFinite = true) :
    (ofTerms flow terms threshold).exact =
      ofTerms flow (terms.map fun t => (t.1, Number.rational t.2)) (threshold.map Number.rational) := by
  have hkeywords : (terms.map fun t => (⟨Text.lower t.1, Number.rational (Measure.clamped t.2)⟩ : Keyword ℚ)) =
      terms.map fun t => ⟨Text.lower t.1, Measure.clamped (Number.rational t.2)⟩ :=
    List.map_congr_left fun t ht => by rw [Number.rational_clamped (hfinite t ht)]
  simp only [exact, map, ofTerms, List.map_map]
  exact congrArg (fun keywords => Pattern.mk flow keywords _) hkeywords

end Pattern

/-! ## Sums of weights -/

theorem Measure.sum_eq (l : List ℚ) : Measure.sum l = l.sum := (List.sum_eq_foldl ..).symm

theorem Measure.clamped_nonneg (w : ℚ) : 0 ≤ Measure.clamped w := by
  unfold clamped
  split
  · next h => exact (decide_eq_true_iff.1 h).le
  · exact le_rfl

section

variable {α : Type} {l : List α} {weight : α → ℚ} {a b : α → Bool}

theorem sum_filter_le (hl : ∀ k ∈ l, 0 ≤ weight k) (hab : ∀ k ∈ l, a k = true → b k = true) :
    ((l.filter a).map weight).sum ≤ ((l.filter b).map weight).sum := by
  induction l with
  | nil => exact le_rfl
  | cons k l ih =>
    obtain ⟨hk, hl⟩ := List.forall_mem_cons.1 hl
    obtain ⟨hkab, hab⟩ := List.forall_mem_cons.1 hab
    have hrest := ih hl hab
    rw [List.filter_cons, List.filter_cons]
    cases ha : a k with
    | true =>
      rw [hkab ha, if_pos rfl, if_pos rfl, List.map_cons, List.map_cons, List.sum_cons, List.sum_cons]
      exact add_le_add_right hrest (weight k)
    | false =>
      rw [if_neg Bool.false_ne_true]
      cases b k with
      | true =>
        rw [if_pos rfl, List.map_cons, List.sum_cons]
        exact hrest.trans (le_add_of_nonneg_left hk)
      | false => rwa [if_neg Bool.false_ne_true]

theorem sum_filter_le_sum (hl : ∀ k ∈ l, 0 ≤ weight k) : ((l.filter a).map weight).sum ≤ (l.map weight).sum := by
  have hall := sum_filter_le (a := a) (b := fun _ => true) hl fun _ _ _ => rfl
  rwa [List.filter_true] at hall

/-- What is counted makes up the whole sum just when nothing else has any weight. -/
theorem sum_filter_eq_iff (hl : ∀ k ∈ l, 0 ≤ weight k) :
    ((l.filter a).map weight).sum = (l.map weight).sum ↔ ∀ k ∈ l, 0 < weight k → a k = true := by
  induction l with
  | nil => exact iff_of_true rfl fun k hk => nomatch hk
  | cons k l ih =>
    obtain ⟨hk, hl⟩ := List.forall_mem_cons.1 hl
    have hrest := ih hl
    have hle := sum_filter_le_sum (a := a) hl
    rw [List.forall_mem_cons, List.filter_cons, List.map_cons, List.sum_cons, ← hrest]
    cases a k with
    | true =>
      rw [if_pos rfl, List.map_cons, List.sum_cons, add_right_inj]
      exact (and_iff_right fun _ => rfl).symm
    | false =>
      rw [if_neg Bool.false_ne_true]
      constructor
      · intro h
        exact ⟨fun hpos => absurd h (by linarith), by linarith⟩
      · rintro ⟨hnone, h⟩
        have hzero : weight k = 0 := le_antisymm (not_lt.1 fun hpos => Bool.false_ne_true (hnone hpos)) hk
        rw [hzero, zero_add, h]

end

/-! ## Scores -/

namespace Pattern

section

variable {p : Pattern ℚ} {text other : String}

theorem totalWeight_eq (p : Pattern ℚ) : p.totalWeight = (p.keywords.map (·.weight)).sum := Measure.sum_eq _

theorem value_of_pos (h : 0 < p.totalWeight) :
    p.value text = ((p.found text).map (·.weight)).sum / p.totalWeight := by
  rw [value, Measure.sum_eq]
  exact if_pos (decide_eq_true h)

theorem value_of_not_pos (h : ¬ 0 < p.totalWeight) : p.value text = 0 :=
  if_neg fun hpos => h (decide_eq_true_iff.1 hpos)

variable (hweights : ∀ k ∈ p.keywords, 0 ≤ k.weight)
include hweights

theorem value_mono (h : ∀ k ∈ p.keywords, Text.contains other k.term = true → Text.contains text k.term = true) :
    p.value other ≤ p.value text := by
  by_cases hpos : 0 < p.totalWeight
  · rw [value_of_pos hpos, value_of_pos hpos]
    exact div_le_div_of_nonneg_right (sum_filter_le hweights h) hpos.le
  · rw [value_of_not_pos hpos, value_of_not_pos hpos]

theorem value_nonneg : 0 ≤ p.value text := by
  by_cases hpos : 0 < p.totalWeight
  · rw [value_of_pos hpos]
    have hfound : ∀ w ∈ (p.found text).map (·.weight), 0 ≤ w :=
      List.forall_mem_map.2 fun k hk => hweights k (List.mem_of_mem_filter hk)
    exact div_nonneg (List.sum_nonneg hfound) hpos.le
  · exact (value_of_not_pos hpos).ge

theorem value_le_one : p.value text ≤ 1 := by
  by_cases hpos : 0 < p.totalWeight
  · rw [value_of_pos hpos, div_le_one hpos, totalWeight_eq]
    exact sum_filter_le_sum hweights
  · rw [value_of_not_pos hpos]
    exact zero_le_one

theorem value_eq_one_iff : p.value text = 1 ↔
    0 < p.totalWeight ∧ ∀ k ∈ p.keywords, 0 < k.weight → Text.contains text k.term = true := by
  by_cases hpos : 0 < p.totalWeight
  · rw [value_of_pos hpos, div_eq_one_iff_eq hpos.ne', and_iff_right hpos, totalWeight_eq]
    exact sum_filter_eq_iff hweights
  · rw [value_of_not_pos hpos]
    exact iff_of_false zero_ne_one fun h => hpos h.1

end

/-- The pattern was made of terms with finite weights. -/
def OfFinite (p : Pattern Float) : Prop :=
  ∃ flow terms threshold, p = .ofTerms flow terms threshold ∧ ∀ t ∈ terms, t.2.isFinite = true

theorem OfFinite.weight_nonneg {p : Pattern Float} (h : p.OfFinite) : ∀ k ∈ p.exact.keywords, 0 ≤ k.weight := by
  obtain ⟨flow, terms, threshold, rfl, hfinite⟩ := h
  rw [exact_ofTerms hfinite, ofTerms]
  exact List.forall_mem_map.2 fun t _ => Measure.clamped_nonneg t.2

end Pattern

namespace Catalog

theorem mem_scores {c : Catalog ℚ} {test : Case} {s : Score ℚ} :
    s ∈ c.scores test ↔ ∃ p ∈ c.patterns, c.score test.searchText p = s := by
  have horders : Score.Orders (fun _ : ℚ => True) id := fun _ _ _ _ => decide_eq_true_iff
  have hnumbers : ∀ s ∈ c.patterns.map (c.score test.searchText), True := fun _ _ => trivial
  obtain ⟨order, hperm, hranked, -⟩ := Score.exists_ranking horders hnumbers
  have hscores := hperm.map Prod.fst
  rw [List.zipIdx_map_fst] at hscores
  rw [scores, hranked, hscores.mem_iff, List.mem_map]

/-- The score of the choice is that of a pattern, or follows from the hint alone. -/
theorem select_score (c : Catalog ℚ) (test : Case) :
    (c.select test).score ∈ c.scores test ∨ (c.select test).score.value = 1 ∨ (c.select test).score.value = 0 := by
  rw [select]
  split
  · exact .inr (.inl rfl)
  · exact .inr (.inr rfl)
  · rw [best]
    split
    · next h => exact .inl (by rw [h]; exact List.mem_cons_self)
    · exact .inr (.inr rfl)

theorem matched_exact {c : Catalog Float} {p : Pattern Float} {text : String} :
    (c.exact.score text p.exact).matched = (c.score text p).matched := by
  rw [score, score, Pattern.exact, Pattern.found_map, List.map_map]
  rfl

/-- **Scores are exact parts of the whole.** For patterns made of terms with finite weights, with exact sums and
quotients, every score is between zero and one, also that of the choice. It is one just when there is some weight and
no keyword of any weight is missed, and zero when there is no weight. When a case has all the keywords of a pattern that
another case has, its score is no lower. Reading the weights exactly changes nothing about which keywords are found. -/
theorem scores_exact (c : Catalog Float) (hc : ∀ p ∈ c.patterns, p.OfFinite) (test : Case) :
    (∀ s ∈ c.exact.scores test, 0 ≤ s.value ∧ s.value ≤ 1) ∧
    (0 ≤ (c.exact.select test).score.value ∧ (c.exact.select test).score.value ≤ 1) ∧
    ∀ p ∈ c.patterns,
      c.exact.score test.searchText p.exact ∈ c.exact.scores test ∧
      (c.exact.score test.searchText p.exact).matched = (c.score test.searchText p).matched ∧
      (p.exact.value test.searchText = 1 ↔ 0 < p.exact.totalWeight ∧
        ∀ k ∈ p.exact.keywords, 0 < k.weight → Text.contains test.searchText k.term = true) ∧
      (p.exact.totalWeight = 0 → p.exact.value test.searchText = 0) ∧
      ∀ other : Case, (∀ k ∈ p.keywords, Text.contains other.searchText k.term = true →
          Text.contains test.searchText k.term = true) →
        p.exact.value other.searchText ≤ p.exact.value test.searchText := by
  have hrange : ∀ s ∈ c.exact.scores test, 0 ≤ s.value ∧ s.value ≤ 1 := by
    intro s hs
    obtain ⟨q, hq, rfl⟩ := mem_scores.1 hs
    obtain ⟨p, hp, rfl⟩ := List.mem_map.1 hq
    exact ⟨Pattern.value_nonneg (hc p hp).weight_nonneg, Pattern.value_le_one (hc p hp).weight_nonneg⟩
  refine ⟨hrange, ?_, fun p hp => ⟨mem_scores.2 ⟨p.exact, List.mem_map_of_mem hp, rfl⟩, matched_exact,
    Pattern.value_eq_one_iff (hc p hp).weight_nonneg, fun hzero => Pattern.value_of_not_pos hzero.not_gt,
    fun other hmore => Pattern.value_mono (hc p hp).weight_nonneg (List.forall_mem_map.2 hmore)⟩⟩
  rcases select_score c.exact test with hmem | hone | hzero
  · exact hrange _ hmem
  · rw [hone]
    exact ⟨zero_le_one, le_rfl⟩
  · rw [hzero]
    exact ⟨le_rfl, zero_le_one⟩

/-- A term that is listed twice, and one with a negative weight that no case has. -/
theorem scores_exact_repeated :
    let p : Pattern Float := .ofTerms .listFilter [("Row", 1.0), ("row", 0.1), ("table", -2.5), ("sort", 0.3)] none
    let c : Catalog Float := ⟨[p], 0.7⟩
    let test : Case := ⟨"Rows", "", ["sort them"], ["they are in order"], none, none, false⟩
    let other : Case := ⟨"Sort", "", ["open it"], ["it is there"], none, none, false⟩
    (∀ q ∈ c.patterns, q.OfFinite) ∧
      (∀ k ∈ p.keywords, Text.contains other.searchText k.term = true → Text.contains test.searchText k.term = true) ∧
      p.exact.value test.searchText = 1 ∧ p.exact.value other.searchText ≤ p.exact.value test.searchText := by
  intro p c test other
  have hfinite : ∀ q ∈ c.patterns, q.OfFinite := by
    intro q hq
    obtain rfl := List.mem_singleton.1 hq
    exact ⟨_, _, _, rfl, by decide +kernel⟩
  have hmore : ∀ k ∈ p.keywords, Text.contains other.searchText k.term = true →
      Text.contains test.searchText k.term = true := by decide +kernel
  obtain ⟨-, -, hp⟩ := scores_exact c hfinite test
  obtain ⟨-, -, hone, -, hmono⟩ := hp p (List.mem_singleton_self p)
  exact ⟨hfinite, hmore, hone.2 ⟨by decide +kernel, by decide +kernel⟩, hmono other hmore⟩

end Catalog

end Screenplay
