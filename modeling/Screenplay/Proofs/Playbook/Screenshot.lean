/-
The names of screenshots. A template puts its names in kebab case after they are quoted, a report
takes them as they are written. Quotes and backslashes end a word either way, but quoting makes a
letter of a line break and leaves out carriage returns, so the screenshot of a case is named like its
code just when both names keep their words in quotes (`screenshot_named`).
-/
import Screenplay.Proofs.Playbook.Lines
import Screenplay.Proofs.Report.FileNames
import Screenplay.Proofs.Template.Hyphens

namespace Screenplay.Playbook

open Screenplay.Text Screenplay.Template

/-! ## Words in quotes -/

def withoutReturns (s : List Char) : List Char := s.filter (· ≠ '\r')

/-- A text with the same words in quotes: it has no line breaks, and its words are not held apart by carriage
returns. -/
def KeepsWords (s : String) : Prop := '\n' ∉ s.toList ∧ wordsOf (withoutReturns s.toList) = wordsOf s.toList

instance (s : String) : Decidable (KeepsWords s) := inferInstanceAs (Decidable (_ ∧ _))

/-- A backslash or a quote, which quotes put a backslash before. -/
def Escapes (c : Char) : Prop := c = '\\' ∨ c = '\''

theorem Escapes.separates {c : Char} (h : Escapes c) :
    c ≠ '\r' ∧ isAlphanumeric c = false ∧ isLowercase c = isLowercase '\\' := by
  rcases h with rfl | rfl <;> decide +kernel

theorem isAlphanumeric_backslash : isAlphanumeric '\\' = false := by decide +kernel

theorem quoteChar_cases {c : Char} (h : c ≠ '\n') :
    c = '\r' ∧ quoteChar c = [] ∨ Escapes c ∧ quoteChar c = ['\\', c] ∨ c ≠ '\r' ∧ quoteChar c = [c] := by
  unfold quoteChar Escapes
  grind

/-- A text in quotes, beside the text itself. -/
inductive Quoted : List Char → List Char → Prop
  | nil : Quoted [] []
  | escaped {c : Char} {q s : List Char} (hc : Escapes c) (h : Quoted q s) : Quoted ('\\' :: c :: q) (c :: s)
  | same (c : Char) {q s : List Char} (h : Quoted q s) : Quoted (c :: q) (c :: s)

theorem quoted_quoteChars {s : List Char} (h : '\n' ∉ s) : Quoted (quoteChars s) (withoutReturns s) := by
  induction s with
  | nil => exact .nil
  | cons c r ih =>
    obtain ⟨hc, hr⟩ := List.ne_and_not_mem_of_not_mem_cons h
    rw [quoteChars, List.flatMap_cons, ← quoteChars, withoutReturns, List.filter_cons, ← withoutReturns]
    rcases quoteChar_cases hc.symm with ⟨rfl, hq⟩ | ⟨he, hq⟩ | ⟨hne, hq⟩
    · rw [hq, if_neg (by decide)]
      exact ih hr
    · rw [hq, if_pos (by simpa using he.separates.1)]
      exact .escaped he (ih hr)
    · rw [hq, if_pos (by simpa using hne)]
      exact .same c (ih hr)

theorem Quoted.head? {q s : List Char} (h : Quoted q s) : q.head?.any isLowercase = s.head?.any isLowercase := by
  cases h with
  | nil => rfl
  | escaped hc _ => simp [hc.separates.2.2]
  | same => rfl

theorem Quoted.breaksAfter {q s : List Char} (h : Quoted q s) (c : Char) : breaksAfter c q = breaksAfter c s := by
  cases h with
  | nil => rfl
  | escaped hc _ => simp [Template.breaksAfter, hc.separates.2.1, isAlphanumeric_backslash]
  | same n hrest => simp only [Template.breaksAfter, startsWord, hrest.head?]

theorem Quoted.leadIdentifier {q s : List Char} (h : Quoted q s) : leadIdentifier q = leadIdentifier s := by
  induction h with
  | nil => rfl
  | escaped hc _ ih =>
    rw [leadIdentifier_cons '\\', if_pos isAlphanumeric_backslash, leadIdentifier_cons, if_pos hc.separates.2.1,
      leadIdentifier_cons, if_pos hc.separates.2.1, ih]
    rfl
  | same c hrest ih => rw [leadIdentifier_cons, leadIdentifier_cons, hrest.breaksAfter, ih]

/-- But for line breaks, the words of a text in quotes are those without carriage returns. -/
theorem wordsOf_quoteChars {s : List Char} (h : '\n' ∉ s) : wordsOf (quoteChars s) = wordsOf (withoutReturns s) := by
  rw [wordsOf, wordsOf, (quoted_quoteChars h).leadIdentifier]

theorem width_quoteChar (c : Char) :
    (((quoteChar c).filter isAlphanumeric).map lowerWidth).sum =
      (([c].filter isAlphanumeric).map lowerWidth).sum + [c].count '\n' := by
  by_cases hc : c = '\n'
  · subst hc
    decide +kernel
  · rw [List.count_singleton, if_neg (by simpa using hc), Nat.add_zero]
    rcases quoteChar_cases hc with ⟨rfl, hq⟩ | ⟨he, hq⟩ | ⟨-, hq⟩
    · rw [hq]
      decide +kernel
    · rw [hq, List.filter_cons_of_neg (by simp [isAlphanumeric_backslash])]
    · rw [hq]

/-- In lower case the letters and numbers of a text grow in quotes by one character for each line break. -/
theorem width_quoteChars (s : List Char) :
    (((quoteChars s).filter isAlphanumeric).map lowerWidth).sum =
      ((s.filter isAlphanumeric).map lowerWidth).sum + s.count '\n' := by
  induction s with
  | nil => rfl
  | cons c r ih =>
    have hcount : (c :: r).count '\n' = [c].count '\n' + r.count '\n' := by
      rw [← List.count_append, List.singleton_append]
    have hfilter : (c :: r).filter isAlphanumeric = [c].filter isAlphanumeric ++ r.filter isAlphanumeric :=
      List.filter_append [c] r
    rw [quoteChars, List.flatMap_cons, ← quoteChars, List.filter_append, List.map_append, List.sum_append, ih,
      width_quoteChar, hcount, hfilter, List.map_append, List.sum_append]
    omega

theorem filter_withoutReturns (s : List Char) :
    (withoutReturns s).filter isAlphanumeric = s.filter isAlphanumeric := by
  rw [withoutReturns, List.filter_filter]
  refine List.filter_congr fun c _ => ?_
  by_cases hc : c = '\r'
  · subst hc
    decide +kernel
  · simp [hc]

theorem toList_kebabCase_quote (s : String) : (kebabCase (quote s)).toList = kebabChars (quoteChars s.toList) := by
  rw [toList_kebabCase, quote, String.toList_ofList]

theorem countP_kebabCase_quote (s : String) :
    (kebabCase (quote s)).toList.countP (· ≠ '-') =
      (kebabCase s).toList.countP (· ≠ '-') + s.toList.count '\n' := by
  rw [toList_kebabCase_quote, toList_kebabCase, countP_kebabChars, countP_kebabChars, width_quoteChars]

/-- The identifier of a text is the same in quotes just when its words are. -/
theorem kebabCase_quote_iff (s : String) : kebabCase (quote s) = kebabCase s ↔ KeepsWords s := by
  constructor
  · intro h
    have hcount := countP_kebabCase_quote s
    rw [h, Nat.left_eq_add, List.count_eq_zero] at hcount
    rw [← String.toList_inj, toList_kebabCase_quote, toList_kebabCase, kebabChars, wordsOf_quoteChars hcount,
      ← kebabChars, kebabChars_eq_iff (filter_withoutReturns _)] at h
    exact ⟨hcount, h⟩
  · rintro ⟨hbreak, hwords⟩
    rw [← String.toList_inj, toList_kebabCase_quote, toList_kebabCase, kebabChars, wordsOf_quoteChars hbreak, hwords,
      kebabChars]

example : KeepsWords "It's \r here" ∧ ¬ KeepsWords "a\nb" ∧ ¬ KeepsWords "a\rb" := by
  decide +kernel

/-! ## The screenshot of a case -/

theorem eq_nil_of_hyphens {s t : List Char} (hlast : (s ++ t).getLast? ≠ some '-')
    (hcount : (s ++ t).countP (· ≠ '-') = s.countP (· ≠ '-')) : t = [] := by
  refine Decidable.byContradiction fun hne => hlast ?_
  rw [List.countP_append, Nat.add_eq_left, List.countP_eq_zero] at hcount
  rw [List.getLast?_append_of_ne_nil _ hne, List.getLast?_eq_some_getLast hne, Option.some.injEq]
  simpa using hcount _ (List.getLast_mem hne)

/-- Two identifiers joined by a hyphen come apart where the first has all its letters. -/
theorem eq_of_joined {s s' t t' : List Char} (hs : s.getLast? ≠ some '-') (hs' : s'.getLast? ≠ some '-')
    (hcount : s.countP (· ≠ '-') = s'.countP (· ≠ '-')) (h : s ++ '-' :: t = s' ++ '-' :: t') : s = s' ∧ t = t' := by
  have hfirst : s = s' := by
    rcases List.append_eq_append_iff.1 h with ⟨u, rfl, -⟩ | ⟨u, rfl, -⟩
    · rw [eq_nil_of_hyphens hs' hcount.symm, List.append_nil]
    · rw [eq_nil_of_hyphens hs hcount, List.append_nil]
  subst hfirst
  exact ⟨rfl, (List.cons.inj (List.append_cancel_left h)).2⟩

theorem screenshotStem_eq_iff (screen : Screen) (case : Case) :
    screenshotStem screen case = fileStem screen.name case.name ↔ KeepsWords screen.name ∧ KeepsWords case.name := by
  rw [← kebabCase_quote_iff, ← kebabCase_quote_iff]
  refine ⟨fun h => ?_, fun ⟨hs, hc⟩ => by rw [screenshotStem, hs, hc, fileStem]⟩
  rw [screenshotStem, fileStem, ← String.toList_inj] at h
  simp only [String.toList_append, List.append_assoc] at h
  -- No line break can be made up for: both identifiers only grow.
  have hcount := congrArg (List.countP (· ≠ '-')) h
  have hscreen := countP_kebabCase_quote screen.name
  have hcase := countP_kebabCase_quote case.name
  simp only [List.countP_append, hscreen, hcase] at hcount
  have hlast : ∀ s : String, (kebabCase s).toList.getLast? ≠ some '-' := by
    intro s
    rw [toList_kebabCase]
    exact getLast?_kebabChars _
  obtain ⟨hs, hc⟩ := eq_of_joined (hlast _) (hlast _) (by omega) h
  exact ⟨String.toList_inj.1 hs, String.toList_inj.1 hc⟩

theorem exists_screenshot (flow : Flow) (screen : Screen) (case : Case) : ∃ before,
    linesOf (render flow screen case) =
      before ++ [screenshotLine (screenshotStem screen case), "  \x7d);", "\x7d);", ""] ∧
    ∀ line ∈ before, Unmarked ["    await page.screenshot("] line := by
  obtain ⟨opening, actions, checks, hlines, hcode⟩ := exists_lines screen case flow
  have hsub : ["    await page.screenshot("] ⊆ marks := by simp [marks]
  refine ⟨openingLines screen case ++ descriptionLines case ++ opening ++ numberedLines "Step" case.steps ++
    actions ++ numberedLines "Expect" case.assertions ++ checks ++ [""], ?_, ?_⟩
  · rw [hlines, closingLines]
    simp only [List.append_assoc, List.cons_append, List.nil_append]
  · simp only [List.mem_append, List.mem_singleton] at hcode ⊢
    rintro line (((((((h | h) | h) | h) | h) | h) | h) | rfl)
    · exact (unmarked_openingLines screen case line h).mono hsub
    · exact unmarked_descriptionLines case line h
    · exact (hcode line (.inl (.inl h))).mono hsub
    · exact unmarked_numberedLines (by decide) _ line h
    · exact (hcode line (.inl (.inr h))).mono hsub
    · exact unmarked_numberedLines (by decide) _ line h
    · exact (hcode line (.inr h)).mono hsub
    · exact unmarked_frame.2.1.mono hsub

/-- **A screenshot is named like the code of its case, if quotes keep the words of both names.** A script takes
one screenshot, named by the identifiers of the two names in quotes; that is the stem of the file with the code
unless a line break or a carriage return in one of the names changes its words. -/
theorem screenshot_named (flow : Flow) (screen : Screen) (case : Case) : ∃ stem before,
    linesOf (render flow screen case) = before ++ [screenshotLine stem, "  \x7d);", "\x7d);", ""] ∧
    (∀ line ∈ before, Unmarked ["    await page.screenshot("] line) ∧
    stem = kebabCase (quote screen.name) ++ "-" ++ kebabCase (quote case.name) ∧
    (stem = fileStem screen.name case.name ↔ KeepsWords screen.name ∧ KeepsWords case.name) := by
  obtain ⟨before, hlines, hbefore⟩ := exists_screenshot flow screen case
  exact ⟨screenshotStem screen case, before, hlines, hbefore, rfl, screenshotStem_eq_iff screen case⟩

/-- A line break in the name of a valid case: the screenshot has a letter more in its name than the code. -/
theorem screenshot_misnamed :
    let pages : CaseDraft := ⟨some "opens\nhelp", none, some ["open it"], some ["it opens"], none, none, none⟩
    let page : Draft := ⟨some "Help", some "Answers", none, some [pages]⟩
    validate page = .ok page.normal ∧ pages.normal ∈ page.normal.cases ∧
      fileStem page.normal.name pages.normal.name = "help-opens-help" ∧
      screenshotLine "help-opens-help" ∉ linesOf (render .navigation page.normal pages.normal) ∧
      screenshotLine "help-opens-nhelp" ∈ linesOf (render .navigation page.normal pages.normal) := by
  intro pages page
  have hstem : screenshotStem page.normal pages.normal = "help-opens-nhelp" := by decide +kernel
  obtain ⟨before, hlines, hbefore⟩ := exists_screenshot .navigation page.normal pages.normal
  rw [hstem] at hlines
  refine ⟨by decide +kernel, by decide +kernel, by decide +kernel, ?_, by rw [hlines]; simp⟩
  rw [hlines, List.mem_append]
  rintro (h | h)
  · have := (hbefore _ h).2
    revert this
    decide +kernel
  · revert h
    decide +kernel

end Screenplay.Playbook
