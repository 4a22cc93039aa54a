/-
What `validate` finds wrong with a draft. `Draft.Defective` says, place by place,
what is a defect there, and `Draft.Keeps` what a screen has of its draft. The
violations are just the defects, each reported once and in the order of the
places; a draft without defects gives a screen that keeps all it says
(`validate_reports`).
-/
import Mathlib.Data.List.Forall2
import Mathlib.Data.List.Lex
import Screenplay.Proofs.Spec.Places

namespace Screenplay

/-! ## Names that are known -/

/-- A parser that takes the names of its values and nothing else. -/
structure Knows {β : Type} (parse : String → Except UnknownName β) (name : β → String)
    (unknown : String → UnknownName) : Prop where
  parse_name : ∀ b, parse (name b) = .ok b
  parse_other : ∀ s, (∀ b, name b ≠ s) → parse s = .error (unknown s)

def Hint.unknown (s : String) : UnknownName :=
  ⟨"template hint", s, "form-submission, navigation, modal-dialog, list-filter, auth-flow, generative"⟩

def Priority.unknown (s : String) : UnknownName := ⟨"priority", s, "low, medium, high, critical"⟩

theorem Hint.knows : Knows Hint.parse Hint.name Hint.unknown where
  parse_name h := by
    cases h with
    | generative => decide
    | flow f => cases f <;> decide
  parse_other s h := by
    have hg : (s == generativeName) = false := beq_eq_false_iff_ne.2 fun hs => h .generative hs.symm
    have hf : Flow.named? s = none := by
      rw [Flow.named?, List.find?_eq_none]
      exact fun f _ hs => h (.flow f) (beq_iff_eq.1 hs)
    have he : Flow.expected ++ ", " ++ generativeName =
        "form-submission, navigation, modal-dialog, list-filter, auth-flow, generative" := by decide
    rw [parse, hg, hf, if_neg (by decide), he, unknown]

theorem Priority.knows : Knows Priority.parse Priority.name Priority.unknown where
  parse_name p := by cases p <;> decide
  parse_other s h := by
    have hn : named? s = none := by
      rw [named?, List.find?_eq_none]
      exact fun p _ hs => h p (beq_iff_eq.1 hs)
    have he : Text.join ", " (all.map name) = "low, medium, high, critical" := by decide
    rw [parse, hn, he, unknown]

/-! ## Defects -/

/-- What is wrong with a text that has to be there. -/
inductive TextDefect : Option String → Defect → Prop
  | missing : TextDefect none .missing
  | blank {s : String} : Text.isVacant s = true → TextDefect (some s) .blank

/-- One of the two lists of a test case. -/
def CaseDraft.listed (c : CaseDraft) : Listing → Option (List String)
  | .steps => c.steps
  | .assertions => c.assertions

/-- What is wrong with the test of this number, and at which place. -/
inductive CaseDraft.Defective (c : CaseDraft) (i : Nat) : Place → Defect → Prop
  | name {defect : Defect} : TextDefect c.name defect → Defective c i (.name i) defect
  | noEntries {l : Listing} : c.listed l = none ∨ c.listed l = some [] → Defective c i (.listing i l) (.noEntries l)
  | blankEntry {l : Listing} {entries : List String} {j : Nat} {s : String} :
      c.listed l = some entries → entries[j]? = some s → Text.isVacant s = true →
        Defective c i (.entry i l j) (.blankEntry l)
  | hint {s : String} : c.hint = some s → (∀ h : Hint, h.name ≠ foldName s) →
      Defective c i (.hint i) (.unknown (Hint.unknown (foldName s)))
  | priority {s : String} : c.priority = some s → (∀ p : Priority, p.name ≠ foldName s) →
      Defective c i (.priority i) (.unknown (Priority.unknown (foldName s)))

/-- What is wrong with a draft, and at which place. -/
inductive Draft.Defective (d : Draft) : Place → Defect → Prop
  | screen {defect : Defect} : TextDefect d.screen defect → Defective d .screen defect
  | description {defect : Defect} : TextDefect d.description defect → Defective d .description defect
  | missingTests : d.tests = none → Defective d .tests .missing
  | noTests : d.tests = some [] → Defective d .tests .noTests
  | test {cases : List CaseDraft} {i : Nat} {c : CaseDraft} {place : Place} {defect : Defect} :
      d.tests = some cases → cases[i]? = some c → c.Defective i place defect → Defective d place defect

/-! ## Every defect is found, and nothing else -/

theorem mem_textDefects {place : Place} {s : Option String} {v : Violation} :
    v ∈ textDefects place s ↔ v.place = place ∧ TextDefect s v.defect := by
  obtain ⟨p, e⟩ := v
  cases s with
  | none =>
    rw [textDefects, List.mem_singleton, Violation.mk.injEq]
    refine and_congr_right fun _ => ⟨fun h => h ▸ .missing, fun h => ?_⟩
    cases h
    rfl
  | some s =>
    rw [textDefects, List.mem_ite_nil_right, Text.trim_eq_empty_iff, List.mem_singleton, Violation.mk.injEq]
    constructor
    · rintro ⟨hs, rfl, rfl⟩
      exact ⟨rfl, .blank hs⟩
    · rintro ⟨rfl, h⟩
      cases h with
      | blank hs => exact ⟨hs, rfl, rfl⟩

theorem mem_entryDefects {i j : Nat} {l : Listing} {entries : List String} {v : Violation} :
    v ∈ entryDefects i l j entries ↔
      ∃ k s, entries[k]? = some s ∧ Text.isVacant s = true ∧ v = ⟨.entry i l (j + k), .blankEntry l⟩ := by
  induction entries generalizing j with
  | nil => simp [entryDefects]
  | cons s rest ih =>
    rw [entryDefects, List.mem_append, ih, List.mem_ite_nil_right, Text.trim_eq_empty_iff, List.mem_singleton]
    constructor
    · rintro (⟨hs, rfl⟩ | ⟨k, t, hk, ht, rfl⟩)
      · exact ⟨0, s, rfl, hs, rfl⟩
      · exact ⟨k + 1, t, hk, ht, by rw [Nat.add_right_comm, Nat.add_assoc]⟩
    · rintro ⟨k, t, hk, ht, rfl⟩
      cases k with
      | zero =>
        cases hk
        exact .inl ⟨ht, rfl⟩
      | succ k => exact .inr ⟨k, t, hk, ht, by rw [Nat.add_right_comm, Nat.add_assoc]⟩

theorem mem_listingDefects {i : Nat} {l : Listing} {entries : Option (List String)} {v : Violation} :
    v ∈ listingDefects i l entries ↔
      (entries = none ∨ entries = some []) ∧ v = ⟨.listing i l, .noEntries l⟩ ∨
      ∃ es j s, entries = some es ∧ es[j]? = some s ∧ Text.isVacant s = true ∧
        v = ⟨.entry i l j, .blankEntry l⟩ := by
  match entries with
  | none => simp [listingDefects]
  | some [] => simp [listingDefects]
  | some (s :: rest) =>
    rw [listingDefects, mem_entryDefects]
    simp
    nofun

theorem mem_nameDefects {β : Type} {parse : String → Except UnknownName β} {name : β → String}
    {unknown : String → UnknownName} (hknows : Knows parse name unknown) {place : Place} {s : Option String}
    {v : Violation} :
    v ∈ nameDefects place parse s ↔
      ∃ t, s = some t ∧ (∀ b, name b ≠ foldName t) ∧ v = ⟨place, .unknown (unknown (foldName t))⟩ := by
  cases s with
  | none => simp [nameDefects]
  | some t =>
    rw [nameDefects]
    by_cases hex : ∃ b, name b = foldName t
    · obtain ⟨b, hb⟩ := hex
      rw [← hb, hknows.parse_name b]
      simp only [List.not_mem_nil, Option.some.injEq, false_iff, not_exists, not_and]
      rintro t' rfl hne
      exact absurd hb (hne b)
    · have hne : ∀ b, name b ≠ foldName t := fun b hb => hex ⟨b, hb⟩
      rw [hknows.parse_other _ hne]
      simp [hne]

theorem CaseDraft.mem_defects {c : CaseDraft} {i : Nat} {v : Violation} :
    v ∈ c.defects i ↔ c.Defective i v.place v.defect := by
  obtain ⟨place, defect⟩ := v
  simp only [defects, List.mem_append, mem_textDefects, mem_listingDefects, mem_nameDefects Hint.knows,
    mem_nameDefects Priority.knows, Violation.mk.injEq]
  constructor
  · rintro ((((⟨rfl, h⟩ | h) | h) | ⟨s, hs, hne, rfl, rfl⟩) | ⟨s, hs, hne, rfl, rfl⟩)
    · exact .name h
    · rcases h with ⟨h, rfl, rfl⟩ | ⟨entries, j, s, he, hj, hs, rfl, rfl⟩
      · exact .noEntries (l := .steps) h
      · exact .blankEntry (l := .steps) he hj hs
    · rcases h with ⟨h, rfl, rfl⟩ | ⟨entries, j, s, he, hj, hs, rfl, rfl⟩
      · exact .noEntries (l := .assertions) h
      · exact .blankEntry (l := .assertions) he hj hs
    · exact .hint hs hne
    · exact .priority hs hne
  · intro h
    cases h with
    | name h => exact .inl (.inl (.inl (.inl ⟨rfl, h⟩)))
    | @noEntries l h =>
      cases l with
      | steps => exact .inl (.inl (.inl (.inr (.inl ⟨h, rfl, rfl⟩))))
      | assertions => exact .inl (.inl (.inr (.inl ⟨h, rfl, rfl⟩)))
    | @blankEntry l entries j s he hj hs =>
      cases l with
      | steps => exact .inl (.inl (.inl (.inr (.inr ⟨entries, j, s, he, hj, hs, rfl, rfl⟩))))
      | assertions => exact .inl (.inl (.inr (.inr ⟨entries, j, s, he, hj, hs, rfl, rfl⟩)))
    | hint hs hne => exact .inl (.inr ⟨_, hs, hne, rfl, rfl⟩)
    | priority hs hne => exact .inr ⟨_, hs, hne, rfl, rfl⟩

theorem mem_caseDefects {i : Nat} {cases : List CaseDraft} {v : Violation} :
    v ∈ caseDefects i cases ↔
      ∃ (k : Nat) (c : CaseDraft), cases[k]? = some c ∧ c.Defective (i + k) v.place v.defect := by
  induction cases generalizing i with
  | nil => simp [caseDefects]
  | cons c rest ih =>
    rw [caseDefects, List.mem_append, ih, CaseDraft.mem_defects]
    constructor
    · rintro (h | ⟨k, c, hk, h⟩)
      · exact ⟨0, c, rfl, h⟩
      · exact ⟨k + 1, c, hk, by rwa [Nat.add_right_comm, Nat.add_assoc] at h⟩
    · rintro ⟨k, c', hk, h⟩
      cases k with
      | zero =>
        cases hk
        exact .inl h
      | succ k => exact .inr ⟨k, c', hk, by rwa [Nat.add_right_comm, Nat.add_assoc]⟩

/-- **The violations are the defects.** -/
theorem Draft.mem_defects {d : Draft} {v : Violation} : v ∈ d.defects ↔ d.Defective v.place v.defect := by
  obtain ⟨place, defect⟩ := v
  rw [defects, List.mem_append, List.mem_append, mem_textDefects, mem_textDefects]
  constructor
  · rintro ((⟨rfl, h⟩ | ⟨rfl, h⟩) | h)
    · exact .screen h
    · exact .description h
    · match ht : d.tests with
      | none =>
        rw [ht, testsDefects, List.mem_singleton, Violation.mk.injEq] at h
        obtain ⟨rfl, rfl⟩ := h
        exact .missingTests ht
      | some [] =>
        rw [ht, testsDefects, List.mem_singleton, Violation.mk.injEq] at h
        obtain ⟨rfl, rfl⟩ := h
        exact .noTests ht
      | some (c :: rest) =>
        rw [ht, testsDefects, mem_caseDefects] at h
        obtain ⟨k, c', hk, h⟩ := h
        rw [Nat.zero_add] at h
        exact .test ht hk h
        nofun
  · intro h
    cases h with
    | screen h => exact .inl (.inl ⟨rfl, h⟩)
    | description h => exact .inl (.inr ⟨rfl, h⟩)
    | missingTests ht => exact .inr (by rw [ht, testsDefects]; exact List.mem_singleton_self _)
    | noTests ht => exact .inr (by rw [ht, testsDefects]; exact List.mem_singleton_self _)
    | @test cases i c place defect ht hi h =>
      refine .inr ?_
      cases cases with
      | nil => cases hi
      | cons c' rest =>
        rw [ht, testsDefects, mem_caseDefects]
        · exact ⟨i, c, hi, by rwa [Nat.zero_add]⟩
        · nofun

/-! ## The order of the defects -/

/-- Violations in the order of their places, all of them from one rank on and before another. -/
structure Located (lo hi : List Nat) (vs : List Violation) : Prop where
  ascending : vs.Pairwise fun v w => v.place.rank < w.place.rank
  within : ∀ v ∈ vs, lo ≤ v.place.rank ∧ v.place.rank < hi

namespace Located

theorem nil {lo hi : List Nat} : Located lo hi [] := ⟨.nil, nofun⟩

theorem singleton {lo hi : List Nat} {v : Violation} (hlo : lo ≤ v.place.rank) (hhi : v.place.rank < hi) :
    Located lo hi [v] :=
  ⟨List.pairwise_singleton _ _, fun w hw => by rw [List.mem_singleton.1 hw]; exact ⟨hlo, hhi⟩⟩

theorem append {lo mid hi : List Nat} {vs ws : List Violation} (hv : Located lo mid vs) (hw : Located mid hi ws)
    (hlo : lo ≤ mid) (hhi : mid ≤ hi) : Located lo hi (vs ++ ws) := by
  refine ⟨List.pairwise_append.2 ⟨hv.ascending, hw.ascending, fun v hmv w hmw => ?_⟩, fun v hm => ?_⟩
  · exact lt_of_lt_of_le (hv.within v hmv).2 (hw.within w hmw).1
  · rcases List.mem_append.1 hm with hm | hm
    · exact ⟨(hv.within v hm).1, lt_of_lt_of_le (hv.within v hm).2 hhi⟩
    · exact ⟨le_trans hlo (hw.within v hm).1, (hw.within v hm).2⟩

theorem mono {lo lo' hi hi' : List Nat} {vs : List Violation} (h : Located lo hi vs) (hlo : lo' ≤ lo)
    (hhi : hi ≤ hi') : Located lo' hi' vs :=
  ⟨h.ascending, fun v hm => ⟨le_trans hlo (h.within v hm).1, lt_of_lt_of_le (h.within v hm).2 hhi⟩⟩

end Located

theorem located_textDefects (place : Place) {hi : List Nat} (s : Option String) (h : place.rank < hi) :
    Located place.rank hi (textDefects place s) := by
  cases s with
  | none => exact .singleton (le_refl _) h
  | some s =>
    rw [textDefects]
    split
    · exact .singleton (le_refl _) h
    · exact .nil

theorem located_nameDefects {β : Type} {parse : String → Except UnknownName β} (place : Place) {hi : List Nat}
    (s : Option String) (h : place.rank < hi) : Located place.rank hi (nameDefects place parse s) := by
  cases s with
  | none => exact .nil
  | some s =>
    rw [nameDefects]
    cases parse (foldName s) with
    | ok b => exact .nil
    | error e => exact .singleton (le_refl _) h

theorem located_entryDefects (i : Nat) (l : Listing) (j : Nat) (entries : List String) :
    Located [2, i, l.column, j] [2, i, l.column, j + entries.length] (entryDefects i l j entries) := by
  induction entries generalizing j with
  | nil => exact .nil
  | cons s rest ih =>
    have hhere : Located [2, i, l.column, j] [2, i, l.column, j + 1]
        (if Text.trim s = "" then [⟨.entry i l j, .blankEntry l⟩] else []) := by
      split
      · exact .singleton (le_refl _) (by simp [Place.rank, List.cons_lt_cons_iff])
      · exact .nil
    have hrest := ih (j + 1)
    rw [Nat.add_right_comm, Nat.add_assoc] at hrest
    exact hhere.append hrest (by simp [le_iff_eq_or_lt, List.cons_lt_cons_iff])
      (by simp [le_iff_eq_or_lt, List.cons_lt_cons_iff, Nat.pos_iff_ne_zero, eq_or_ne])

theorem located_listingDefects (i : Nat) (l : Listing) (entries : Option (List String)) :
    Located [2, i, l.column] [2, i, l.column + 1] (listingDefects i l entries) := by
  have hhi : (Place.listing i l).rank < [2, i, l.column + 1] := by simp [Place.rank, List.cons_lt_cons_iff]
  match entries with
  | none => exact .singleton (le_refl _) hhi
  | some [] => exact .singleton (le_refl _) hhi
  | some (s :: rest) =>
    exact (located_entryDefects i l 0 (s :: rest)).mono (by simp [le_iff_eq_or_lt])
      (by simp [le_iff_eq_or_lt, List.cons_lt_cons_iff])

theorem CaseDraft.located_defects (c : CaseDraft) (i : Nat) : Located [2, i, 0] [2, i, 5] (c.defects i) := by
  have hname : Located [2, i, 0] [2, i, 1] (textDefects (.name i) c.name) :=
    located_textDefects (.name i) c.name (by simp [Place.rank, List.cons_lt_cons_iff])
  have hsteps : Located [2, i, 1] [2, i, 2] (listingDefects i .steps c.steps) :=
    located_listingDefects i .steps c.steps
  have hassertions : Located [2, i, 2] [2, i, 3] (listingDefects i .assertions c.assertions) :=
    located_listingDefects i .assertions c.assertions
  have hhint : Located [2, i, 3] [2, i, 4] (nameDefects (.hint i) Hint.parse c.hint) :=
    located_nameDefects (.hint i) c.hint (by simp [Place.rank, List.cons_lt_cons_iff])
  have hpriority : Located [2, i, 4] [2, i, 5] (nameDefects (.priority i) Priority.parse c.priority) :=
    located_nameDefects (.priority i) c.priority (by simp [Place.rank, List.cons_lt_cons_iff])
  have hle {a b : Nat} (h : a ≤ b) : [2, i, a] ≤ [2, i, b] := by
    rcases Nat.le_iff_lt_or_eq.1 h with h | rfl
    · exact le_of_lt (by simp [List.cons_lt_cons_iff, h])
    · exact le_refl _
  exact (((hname.append hsteps (hle (by decide)) (hle (by decide))).append hassertions (hle (by decide))
    (hle (by decide))).append hhint (hle (by decide)) (hle (by decide))).append hpriority (hle (by decide))
    (hle (by decide))

theorem located_caseDefects (i : Nat) (cases : List CaseDraft) :
    Located [2, i] [2, i + cases.length] (caseDefects i cases) := by
  induction cases generalizing i with
  | nil => exact .nil
  | cons c rest ih =>
    have hhere : Located [2, i] [2, i + 1] (c.defects i) :=
      (c.located_defects i).mono (by simp [le_iff_eq_or_lt])
        (by simp [le_iff_eq_or_lt, List.cons_lt_cons_iff])
    have hrest := ih (i + 1)
    rw [Nat.add_right_comm, Nat.add_assoc] at hrest
    exact hhere.append hrest (by simp [le_iff_eq_or_lt, List.cons_lt_cons_iff])
      (by simp [le_iff_eq_or_lt, List.cons_lt_cons_iff, Nat.pos_iff_ne_zero, eq_or_ne])

/-- The violations of a draft are in the order of their places. -/
theorem Draft.located_defects (d : Draft) : Located [0] [3] d.defects := by
  have hscreen : Located [0] [1] (textDefects .screen d.screen) := located_textDefects .screen d.screen (by decide)
  have hdescription : Located [1] [2] (textDefects .description d.description) :=
    located_textDefects .description d.description (by decide)
  have htests : Located [2] [3] (testsDefects d.tests) := by
    match d.tests with
    | none => exact .singleton (le_refl _) (by decide)
    | some [] => exact .singleton (le_refl _) (by decide)
    | some (c :: rest) =>
      exact (located_caseDefects 0 (c :: rest)).mono (by simp [le_iff_eq_or_lt])
        (by simp [le_iff_eq_or_lt, List.cons_lt_cons_iff])
  exact (hscreen.append hdescription (by decide) (by decide)).append htests (by decide) (by decide)

/-- **No two violations are at one place.** -/
theorem Draft.nodup_paths (d : Draft) : (d.defects.map (·.place.path)).Nodup := by
  refine List.pairwise_map.2 (d.located_defects.ascending.imp fun {v w} hlt he => ?_)
  rw [Place.path_injective he] at hlt
  exact lt_irrefl _ hlt

/-! ## What a screen has of its draft -/

/-- A case has what its draft says, with the texts trimmed. -/
structure CaseDraft.Keeps (d : CaseDraft) (c : Case) : Prop where
  name : d.name.map Text.trim = some c.name
  description : c.description = (d.description.map Text.trim).getD ""
  steps : d.steps.map (·.map Text.trim) = some c.steps
  assertions : d.assertions.map (·.map Text.trim) = some c.assertions
  hint : c.hint.map Hint.name = d.hint.map foldName
  priority : c.priority.map Priority.name = d.priority.map foldName
  skipIfEmpty : c.skipIfEmpty = d.skipIfEmpty.getD false

/-- A screen has what its draft says, with the texts trimmed and a blank route left out. -/
structure Draft.Keeps (d : Draft) (s : Screen) : Prop where
  name : d.screen.map Text.trim = some s.name
  description : d.description.map Text.trim = some s.description
  route_eq_none_iff : s.route = none ↔ ∀ r, d.route = some r → Text.isVacant r = true
  route_eq_some : ∀ r, s.route = some r → d.route.map Text.trim = some r
  cases : ∃ drafts, d.tests = some drafts ∧ List.Forall₂ CaseDraft.Keeps drafts s.cases

theorem map_trim_of_sound {s : Option String} (h : ∀ e, ¬ TextDefect s e) :
    s.map Text.trim = some (trimmedText s) := by
  cases s with
  | none => exact absurd .missing (h _)
  | some s => rfl

theorem CaseDraft.map_trim_listed {c : CaseDraft} {i : Nat} (h : ∀ p e, ¬ c.Defective i p e) (l : Listing) :
    (c.listed l).map (·.map Text.trim) = some (trimmedEntries (c.listed l)) := by
  cases hl : c.listed l with
  | none => exact absurd (.noEntries (.inl hl)) (h _ _)
  | some entries => rfl

theorem map_name_of_known {β : Type} {parse : String → Except UnknownName β} {name : β → String}
    {unknown : String → UnknownName} (hknows : Knows parse name unknown) {s : Option String}
    (h : ∀ t, s = some t → ¬ ∀ b, name b ≠ foldName t) :
    (s.bind fun t => (parse (foldName t)).toOption).map name = s.map foldName := by
  cases s with
  | none => rfl
  | some t =>
    obtain ⟨b, hb⟩ : ∃ b, name b = foldName t := by
      by_contra hno
      exact h t rfl fun b hb => hno ⟨b, hb⟩
    rw [Option.bind_some, Option.map_some, ← hb, hknows.parse_name b]
    rfl

theorem CaseDraft.keeps_normal {c : CaseDraft} {i : Nat} (h : ∀ p e, ¬ c.Defective i p e) : c.Keeps c.normal where
  name := map_trim_of_sound fun _ he => h _ _ (.name he)
  description := rfl
  steps := map_trim_listed h .steps
  assertions := map_trim_listed h .assertions
  hint := map_name_of_known Hint.knows fun _ hs hne => h _ _ (.hint hs hne)
  priority := map_name_of_known Priority.knows fun _ hs hne => h _ _ (.priority hs hne)
  skipIfEmpty := rfl

theorem Draft.keeps_normal {d : Draft} (h : ∀ p e, ¬ d.Defective p e) : d.Keeps d.normal where
  name := map_trim_of_sound fun _ he => h _ _ (.screen he)
  description := map_trim_of_sound fun _ he => h _ _ (.description he)
  route_eq_none_iff := by
    cases hr : d.route with
    | none => simp [normal, hr]
    | some r => simp [normal, hr, Text.trim_eq_empty_iff]
  route_eq_some r hr := (Option.filter_eq_some_iff.1 hr).1
  cases := by
    cases ht : d.tests with
    | none => exact absurd (.missingTests ht) (h _ _)
    | some drafts =>
      refine ⟨drafts, rfl, ?_⟩
      rw [normal, ht, Option.getD_some, List.forall₂_map_right_iff, List.forall₂_same]
      intro c hc
      obtain ⟨i, hi⟩ := List.getElem?_of_mem hc
      exact CaseDraft.keeps_normal fun p e he => h p e (.test ht hi he)

/-- **Validation reports every defect and nothing else.** A draft with defects is turned down with one
violation for each, in the order of the places and each at a path of its own; a draft without defects is
taken, and the screen has what the draft says. -/
theorem validate_reports (d : Draft) :
    match validate d with
    | .error vs =>
      vs ≠ [] ∧ (∀ v, v ∈ vs ↔ d.Defective v.place v.defect) ∧ (vs.map (·.place.path)).Nodup ∧
        vs.Pairwise fun v w => v.place.rank < w.place.rank
    | .ok s => (∀ place defect, ¬ d.Defective place defect) ∧ d.Keeps s := by
  rw [validate]
  by_cases hd : d.defects = []
  · have hsound : ∀ place defect, ¬ d.Defective place defect := fun place defect h => by
      have hmem : ⟨place, defect⟩ ∈ d.defects := Draft.mem_defects.2 h
      rw [hd] at hmem
      cases hmem
    rw [if_pos hd]
    exact ⟨hsound, Draft.keeps_normal hsound⟩
  · rw [if_neg hd]
    exact ⟨hd, fun v => Draft.mem_defects, d.nodup_paths, d.located_defects.ascending⟩

/-- Defects of every kind in one draft. -/
example :
    let test (steps assertions : List String) (hint priority : Option String) : CaseDraft :=
      ⟨some "submits form", none, some steps, some assertions, hint, priority, none⟩
    let d : Draft := ⟨none, some "   ", none, some [
      test [] ["x"] none none, test ["open page", "   "] [] none none, test ["a"] ["b"] (some "wizard") (some "urgent")]⟩
    (match validate d with
      | .error vs => vs.map (·.place.path)
      | .ok _ => []) =
      ["screen", "description", "tests[0].steps", "tests[1].steps[1]", "tests[1].assertions",
        "tests[2].templateHint", "tests[2].priority"] := by
  decide +kernel

end Screenplay
