/-
Which pattern is chosen. Scores are put in order one by one, each behind those that are as high
and came before it, so the ranking is the scores of the catalog, the highest first and those alike
in the order of the catalog (`exists_ranking`). At its head is the first of the highest scores
(`exists_first_best`), and that is the choice for a case without a hint (`select_best`).

All this needs of the values is that they are in a line, which floats are when none of them is NaN.
-/
import Screenplay.Proofs.Number.Order
import Screenplay.Selection.Match

namespace Screenplay

namespace Score

section

variable {W K : Type} [Measure W] [LinearOrder K] {IsNumber : W → Prop} {key : W → K}

/-- A score comes before another in the ranking: it is higher, or as high and earlier in the catalog. Each score
has its number in the catalog with it. -/
def Precedes (key : W → K) (a b : Score W × ℕ) : Prop :=
  key b.1.value < key a.1.value ∨ key b.1.value = key a.1.value ∧ a.2 < b.2

/-- On numbers, the measure compares as their keys do. -/
def Orders (IsNumber : W → Prop) (key : W → K) : Prop :=
  ∀ v w, IsNumber v → IsNumber w → (Measure.lt v w = true ↔ key v < key w)

/-- A score that is later in the catalog than all of a list is put in its place among them. The list has the lowest
scores first. -/
theorem exists_place (horders : Orders IsNumber key) {s : Score W × ℕ} {l : List (Score W × ℕ)}
    (hs : IsNumber s.1.value) (hl : ∀ t ∈ l, IsNumber t.1.value) (hlater : ∀ t ∈ l, t.2 < s.2)
    (hsorted : l.Pairwise fun a b => Precedes key b a) :
    ∃ placed : List (Score W × ℕ), s.1.place (l.map (·.1)) = placed.map (·.1) ∧ placed.Perm (s :: l) ∧
      placed.Pairwise fun a b => Precedes key b a := by
  induction l with
  | nil => exact ⟨[s], rfl, .refl _, List.pairwise_singleton _ _⟩
  | cons t ts ih =>
    obtain ⟨ht, hts⟩ := List.pairwise_cons.1 hsorted
    have hlt := horders t.1.value s.1.value (hl t (by simp)) hs
    rw [List.map_cons, place]
    split
    · next h =>
      obtain ⟨placed, hplace, hperm, hplaced⟩ :=
        ih (fun u hu => hl u (by simp [hu])) (fun u hu => hlater u (by simp [hu])) hts
      refine ⟨t :: placed, by rw [hplace, List.map_cons], (hperm.cons t).trans (.swap s t ts), ?_⟩
      refine List.pairwise_cons.2 ⟨fun u hu => ?_, hplaced⟩
      rcases List.mem_cons.1 (hperm.mem_iff.1 hu) with rfl | hu
      · exact .inl (hlt.1 h)
      · exact ht u hu
    · next h =>
      refine ⟨s :: t :: ts, rfl, .refl _, List.pairwise_cons.2 ⟨fun u hu => ?_, hsorted⟩⟩
      have hst : key s.1.value ≤ key t.1.value := not_lt.1 fun h' => h (hlt.2 h')
      have htu : key t.1.value ≤ key u.1.value := by
        rcases List.mem_cons.1 hu with rfl | hu
        · exact le_rfl
        · exact (ht u hu).elim le_of_lt fun he => he.1.le
      rcases (hst.trans htu).lt_or_eq with hlt | heq
      · exact .inl hlt
      · exact .inr ⟨heq, hlater u hu⟩

theorem exists_foldl_place (horders : Orders IsNumber key) {scores : List (Score W)} {n : ℕ} {l : List (Score W × ℕ)}
    (hscores : ∀ s ∈ scores, IsNumber s.value) (hl : ∀ t ∈ l, IsNumber t.1.value) (hearlier : ∀ t ∈ l, t.2 < n)
    (hsorted : l.Pairwise fun a b => Precedes key b a) :
    ∃ placed : List (Score W × ℕ), scores.foldl (fun placed s => s.place placed) (l.map (·.1)) = placed.map (·.1) ∧
      placed.Perm (l ++ scores.zipIdx n) ∧ placed.Pairwise fun a b => Precedes key b a := by
  induction scores generalizing n l with
  | nil => exact ⟨l, rfl, by simp, hsorted⟩
  | cons s scores ih =>
    obtain ⟨placed, hplace, hperm, hplaced⟩ :=
      exists_place horders (s := (s, n)) (hscores s (by simp)) hl hearlier hsorted
    have hmem : ∀ t ∈ placed, t = (s, n) ∨ t ∈ l := fun t ht => List.mem_cons.1 (hperm.mem_iff.1 ht)
    have hnumbers : ∀ t ∈ placed, IsNumber t.1.value := by
      intro t ht
      rcases hmem t ht with rfl | ht
      · exact hscores s (by simp)
      · exact hl t ht
    have hnext : ∀ t ∈ placed, t.2 < n + 1 := by
      intro t ht
      rcases hmem t ht with rfl | ht
      · exact Nat.lt_succ_self n
      · exact Nat.lt_succ_of_lt (hearlier t ht)
    obtain ⟨all, hall, hperm', hsorted'⟩ := ih (fun u hu => hscores u (by simp [hu])) hnumbers hnext hplaced
    refine ⟨all, by rw [List.foldl_cons, hplace, hall], hperm'.trans ?_, hsorted'⟩
    rw [List.zipIdx_cons]
    exact (hperm.append_right _).trans List.perm_middle.symm

/-- **The ranking is the scores in order**, the highest first and those alike as they were. -/
theorem exists_ranking (horders : Orders IsNumber key) {scores : List (Score W)}
    (hscores : ∀ s ∈ scores, IsNumber s.value) :
    ∃ order : List (Score W × ℕ), order.Perm scores.zipIdx ∧ ranked scores = order.map (·.1) ∧
      order.Pairwise (Precedes key) := by
  obtain ⟨placed, hplaced, hperm, hsorted⟩ := exists_foldl_place (n := 0) (l := []) horders hscores
    (fun t ht => nomatch ht) (fun t ht => nomatch ht) .nil
  refine ⟨placed.reverse, (List.reverse_perm placed).trans hperm, ?_, List.pairwise_reverse.2 hsorted⟩
  rw [ranked, List.map_reverse]
  exact congrArg List.reverse hplaced

/-- **At the head of the ranking is the first of the highest scores.** -/
theorem exists_first_best (horders : Orders IsNumber key) {scores : List (Score W)}
    (hscores : ∀ s ∈ scores, IsNumber s.value) {s : Score W} {rest : List (Score W)} (h : ranked scores = s :: rest) :
    ∃ before after, scores = before ++ s :: after ∧ (∀ t ∈ before, key t.value < key s.value) ∧
      ∀ t ∈ after, key t.value ≤ key s.value := by
  obtain ⟨order, hperm, hranked, hsorted⟩ := exists_ranking horders hscores
  obtain ⟨a, tail, rfl, rfl, rfl⟩ : ∃ (a : Score W × ℕ) (tail : List (Score W × ℕ)),
      order = a :: tail ∧ s = a.1 ∧ rest = tail.map (·.1) := by
    rw [hranked] at h
    cases order with
    | nil => cases h
    | cons a tail =>
      obtain ⟨rfl, rfl⟩ := List.cons.inj h
      exact ⟨a, tail, rfl, rfl, rfl⟩
  have hfirst := (List.pairwise_cons.1 hsorted).1
  have hplace : scores[a.2]? = some a.1 := List.mem_zipIdx_iff_getElem?.1 (hperm.mem_iff.1 List.mem_cons_self)
  -- Every other score stands behind the head, with its number.
  have hother : ∀ t j, scores[j]? = some t → j ≠ a.2 → Precedes key a (t, j) := by
    intro t j hj hne
    have hmem : (t, j) ∈ scores.zipIdx := List.mem_zipIdx_iff_getElem?.2 hj
    rcases List.mem_cons.1 (hperm.mem_iff.2 hmem) with rfl | htail
    · exact absurd rfl hne
    · exact hfirst _ htail
  obtain ⟨hlen, hget⟩ := List.getElem?_eq_some_iff.1 hplace
  refine ⟨scores.take a.2, scores.drop (a.2 + 1), ?_, fun t ht => ?_, fun t ht => ?_⟩
  · rw [← hget, ← List.drop_eq_getElem_cons hlen, List.take_append_drop]
  · obtain ⟨j, hj⟩ := List.mem_iff_getElem?.1 ht
    rw [List.getElem?_take] at hj
    split at hj
    · next hlt => exact (hother t j hj hlt.ne).resolve_right fun he => absurd he.2 hlt.not_gt
    · cases hj
  · obtain ⟨j, hj⟩ := List.mem_iff_getElem?.1 ht
    rw [List.getElem?_drop] at hj
    exact (hother t _ hj (by omega)).elim le_of_lt fun he => he.1.le

end

theorem orders_float : Orders (fun x : Float => x.isNaN = false) Number.place := by
  intro x y hx hy
  rw [← Number.lt_iff_place hx hy]
  exact decide_eq_true_iff

end Score

/-! ## The choice -/

theorem Measure.le_float {x y : Float} : Measure.le x y = true ↔ x ≤ y := decide_eq_true_iff

namespace Catalog

section

variable {W K : Type} [Measure W] [LinearOrder K] {IsNumber : W → Prop} {key : W → K} {c : Catalog W} {test : Case}

theorem exists_first_pattern (horders : Score.Orders IsNumber key)
    (hnumbers : ∀ p ∈ c.patterns, IsNumber (p.value test.searchText)) (hne : c.patterns ≠ []) :
    ∃ before p after rest, c.patterns = before ++ p :: after ∧
      (∀ q ∈ before, key (q.value test.searchText) < key (p.value test.searchText)) ∧
      (∀ q ∈ after, key (q.value test.searchText) ≤ key (p.value test.searchText)) ∧
      c.scores test = c.score test.searchText p :: rest := by
  have hscores : ∀ s ∈ c.patterns.map (c.score test.searchText), IsNumber s.value :=
    List.forall_mem_map.2 hnumbers
  have hranked : c.scores test ≠ [] := by
    obtain ⟨order, hperm, hranked, -⟩ := Score.exists_ranking horders hscores
    have hlen := hperm.length_eq
    rw [List.length_zipIdx, List.length_map] at hlen
    rw [scores, hranked, ne_eq, List.map_eq_nil_iff, ← List.length_eq_zero_iff, hlen, List.length_eq_zero_iff]
    exact hne
  obtain ⟨s, rest, hhead⟩ := List.exists_cons_of_ne_nil hranked
  obtain ⟨scoresBefore, scoresAfter, hsplit, hlower, hnotHigher⟩ := Score.exists_first_best horders hscores hhead
  obtain ⟨before, others, hpatterns, rfl, hothers⟩ := List.map_eq_append_iff.1 hsplit
  obtain ⟨p, after, rfl, rfl, rfl⟩ := List.map_eq_cons_iff.1 hothers
  exact ⟨before, p, after, rest, hpatterns, List.forall_mem_map.1 hlower, List.forall_mem_map.1 hnotHigher, hhead⟩

theorem select_of_scores (hhint : test.hint = none) {s : Score W} {rest : List (Score W)}
    (h : c.scores test = s :: rest) : c.select test = ⟨s, Measure.le s.threshold s.value, .scored⟩ := by
  rw [select, hhint]
  show c.best test = _
  rw [best, h]

theorem select_of_empty (hhint : test.hint = none) (h : c.patterns = []) :
    c.select test = ⟨⟨.formSubmission, Measure.zero, [], c.defaultThreshold⟩, false, .scored⟩ := by
  have hscores : c.scores test = [] := by
    rw [scores, h]
    rfl
  rw [select, hhint]
  show c.best test = _
  rw [best, hscores]

end

/-- **The first of the best patterns is chosen.** If no score is NaN, the ranking is the scores of the catalog, the
highest first and those alike in its order. For a case without a hint the choice is the head of the ranking, the score
of the first pattern that no other exceeds. Its template is used when the score reaches the threshold of that very
pattern. An empty catalog has nothing to choose from. -/
theorem select_best (c : Catalog Float) (test : Case) (hhint : test.hint = none)
    (hnumbers : ∀ p ∈ c.patterns, (p.value test.searchText).isNaN = false) :
    (∃ order : List (Score Float × ℕ), order.Perm (c.patterns.map (c.score test.searchText)).zipIdx ∧
      c.scores test = order.map (·.1) ∧
      order.Pairwise fun a b => b.1.value < a.1.value ∨ (b.1.value == a.1.value) = true ∧ a.2 < b.2) ∧
    (c.patterns ≠ [] → ∃ (before : List (Pattern Float)) (p : Pattern Float) (after : List (Pattern Float)),
      c.patterns = before ++ p :: after ∧
      (∀ q ∈ before, q.value test.searchText < p.value test.searchText) ∧
      (∀ q ∈ after, q.value test.searchText ≤ p.value test.searchText) ∧
      (c.select test).score = ⟨p.flow, p.value test.searchText, (p.found test.searchText).map (·.term),
        p.threshold.getD c.defaultThreshold⟩ ∧
      ((c.select test).usesTemplate = true ↔ p.threshold.getD c.defaultThreshold ≤ p.value test.searchText) ∧
      (c.select test).source = .scored ∧ (c.scores test).head? = some (c.select test).score) ∧
    (c.patterns = [] → c.select test = ⟨⟨.formSubmission, 0.0, [], c.defaultThreshold⟩, false, .scored⟩) := by
  refine ⟨?_, fun hne => ?_, select_of_empty hhint⟩
  · have hscores : ∀ s ∈ c.patterns.map (c.score test.searchText), s.value.isNaN = false :=
      List.forall_mem_map.2 hnumbers
    obtain ⟨order, hperm, hranked, hsorted⟩ := Score.exists_ranking Score.orders_float hscores
    refine ⟨order, hperm, hranked, hsorted.imp_of_mem fun {a b} ha hb hab => ?_⟩
    have hnumber : ∀ s ∈ order, s.1.value.isNaN = false := by
      intro s hs
      obtain ⟨hlen, -, hget⟩ := List.mem_zipIdx (hperm.mem_iff.1 hs)
      exact hscores _ (hget ▸ List.getElem_mem _)
    rwa [Number.lt_iff_place (hnumber b hb) (hnumber a ha), Number.beq_iff_place (hnumber b hb) (hnumber a ha)]
  · obtain ⟨before, p, after, rest, hpatterns, hlower, hnotHigher, hhead⟩ :=
      exists_first_pattern Score.orders_float hnumbers hne
    have hselect := select_of_scores hhint hhead
    have hp : (p.value test.searchText).isNaN = false := hnumbers p (by simp [hpatterns])
    refine ⟨before, p, after, hpatterns, fun q hq => ?_, fun q hq => ?_, by rw [hselect]; rfl, ?_, by rw [hselect],
      by rw [hhead, hselect]; rfl⟩
    · rw [Number.lt_iff_place (hnumbers q (by simp [hpatterns, hq])) hp]
      exact hlower q hq
    · rw [Number.le_iff_place (hnumbers q (by simp [hpatterns, hq])) hp]
      exact hnotHigher q hq
    · rw [hselect]
      exact Measure.le_float

/-- The second and the third pattern fit alike, and the third one is for the flow of the first. -/
theorem select_best_tied :
    let c : Catalog Float := ⟨[
      .ofTerms .listFilter [("table", 1.0), ("row", 1.0)] none,
      .ofTerms .navigation [("VIEW", 5.0)] (some 0.9),
      .ofTerms .listFilter [("table", 3.0)] none], 0.7⟩
    let test : Case := ⟨"Table view", "", ["open it"], ["it is there"], none, none, false⟩
    test.hint = none ∧ (∀ p ∈ c.patterns, (p.value test.searchText).isNaN = false) ∧
      (c.scores test).map (·.flow) = [.navigation, .listFilter, .listFilter] ∧
      (c.select test).flow = .navigation ∧ (c.select test).score.matched = ["view"] ∧
      (c.select test).usesTemplate = true ∧ (c.scores test).head? = some (c.select test).score := by
  intro c test
  have hnumbers : ∀ p ∈ c.patterns, (p.value test.searchText).isNaN = false := by decide +kernel
  obtain ⟨-, hbest, -⟩ := select_best c test rfl hnumbers
  obtain ⟨before, p, after, -, -, -, -, -, -, hhead⟩ := hbest (List.cons_ne_nil _ _)
  exact ⟨rfl, hnumbers, by decide +kernel, by decide +kernel, by decide +kernel, by decide +kernel, hhead⟩

end Catalog

end Screenplay
