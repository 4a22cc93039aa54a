/-
A script line by line. Every part of a template puts out whole lines: what opens the page, one
comment for each step, the actions, one comment for each expectation, the checks and the screenshot.
No text of an author has a line break by the time it is put in, so splitting a script at its line
breaks gives these lines again (`exists_lines`), and none of the others looks like a numbered comment
(`lines_render`).
-/
import Screenplay.Proofs.Playbook.Context
import Screenplay.Proofs.Template.Casing
import Screenplay.Proofs.Template.Resolution
import Screenplay.Proofs.Text.Blanks

namespace Screenplay.Playbook

open Screenplay.Template (Node Scope holds textOf renderNode renderNodes joinTexts)

/-! ## Lines -/

/-- Lines as a text, each with its end. -/
def ended (lines : List String) : String := String.join (lines.map (· ++ "\n"))

@[simp] theorem ended_nil : ended [] = "" := by simp [ended]

@[simp] theorem ended_cons (line : String) (lines : List String) :
    ended (line :: lines) = line ++ "\n" ++ ended lines := by
  simp [ended]

@[simp] theorem ended_append (ls ms : List String) : ended (ls ++ ms) = ended ls ++ ended ms := by
  simp [ended]

/-- The pieces of a text between its line breaks. -/
def linesOf (s : String) : List String := (s.toList.splitOn '\n').map String.ofList

/-- Each text is split by itself; behind the last end there is an empty piece. -/
theorem linesOf_ended_eq (texts : List String) : linesOf (ended texts) = texts.flatMap linesOf ++ [""] := by
  induction texts with
  | nil => simp [linesOf]
  | cons text texts ih =>
    have hend : (ended (text :: texts)).toList = text.toList ++ '\n' :: (ended texts).toList := by simp
    rw [linesOf] at ih
    rw [linesOf, hend, List.splitOn_append_cons_self, List.map_append, ih, List.flatMap_cons, List.append_assoc, linesOf]

/-- Lines without line breaks are split again as they were. -/
theorem linesOf_ended {lines : List String} (h : ∀ line ∈ lines, '\n' ∉ line.toList) :
    linesOf (ended lines) = lines ++ [""] := by
  have hlines : lines.flatMap linesOf = lines.flatMap fun line => [line] :=
    List.flatMap_congr fun line hline => by simp [linesOf, List.splitOn_eq_singleton (h line hline)]
  rw [linesOf_ended_eq, hlines, List.flatMap_singleton']

/-! ## What the parts put out -/

theorem renderNodes_append (s : Scope) (ns ms : List Node) :
    renderNodes s (ns ++ ms) = renderNodes s ns ++ renderNodes s ms := by
  simp only [Template.renderNodes_eq_join, List.map_append, String.join_append]

theorem renderNodes_joinTexts (s : Scope) (ns : List Node) : renderNodes s (joinTexts ns) = renderNodes s ns := by
  induction ns with
  | nil => rfl
  | cons n ns ih =>
    cases n with
    | text t =>
      rw [joinTexts]
      split
      · next u others h =>
        rw [h] at ih
        rw [renderNodes, renderNode, renderNodes, renderNode, ← ih, renderNodes, renderNode, String.append_assoc]
      · rw [renderNodes, renderNodes, ih]
    | _ => simp only [joinTexts, renderNodes, ih]

theorem renderNode_code (s : Scope) (lines : List String) : renderNode s (code lines) = ended lines := by
  rw [code, renderNode, ended]

/-- The comments that number the items of a list, each with the words of its item one space apart. -/
def numberedLines (label : String) (items : List String) : List String :=
  items.zipIdx.map fun (text, i) => "    // " ++ label ++ " " ++ toString (i + 1) ++ ": " ++ Text.squeezed text

theorem renderNode_numbered {s : Scope} {list label : String} {items : List String}
    (h : s.lookup? list = some (numberedItems items)) :
    renderNode s (numbered list label) = ended (numberedLines label items) := by
  rw [numbered, renderNode, h, numberedItems]
  simp only [ended, numberedLines, List.map_map]
  congr 1
  refine List.map_congr_left fun (text, i) _ => ?_
  have hnumber : (s.enter (.object [("number", .nat (i + 1)), ("text", .string (comment text))])).lookup? "number" =
      some (.nat (i + 1)) := lookup?_enter (by decide) s rfl
  have htext : (s.enter (.object [("number", .nat (i + 1)), ("text", .string (comment text))])).lookup? "text" =
      some (.string (comment text)) := lookup?_enter (by decide) s rfl
  simp only [Function.comp_apply, renderNodes, renderNode, hnumber, htext, Option.elim_some, textOf]
  simp only [String.append_assoc, String.append_empty]
  rfl

example : numberedLines "Step" ["open\n the page ", "save"] =
    ["    // Step 1: open the page", "    // Step 2: save"] := rfl

/-! ## Lines of their own kind -/

/-- How the lines of a script begin that stand for a step, for an expectation and for the screenshot. -/
def marks : List String := ["    // Step ", "    // Expect ", "    await page.screenshot("]

/-- One line that does not begin in any of these ways. -/
def Unmarked (starts : List String) (line : String) : Prop :=
  '\n' ∉ line.toList ∧ ∀ start ∈ starts, Text.startsWith line start = false

instance (starts : List String) (line : String) : Decidable (Unmarked starts line) :=
  inferInstanceAs (Decidable (_ ∧ _))

theorem Unmarked.mono {starts starts' : List String} {line : String} (h : Unmarked starts line)
    (hsub : starts' ⊆ starts) : Unmarked starts' line := ⟨h.1, fun start hs => h.2 start (hsub hs)⟩

/-- Two texts of which neither begins the other. -/
def Apart (s t : String) : Prop := t.toList.isPrefixOf s.toList = false ∧ s.toList.isPrefixOf t.toList = false

theorem unmarked_append {starts : List String} {front rest : String} (hrest : '\n' ∉ rest.toList)
    (hfront : '\n' ∉ front.toList ∧ ∀ start ∈ starts, Apart front start) : Unmarked starts (front ++ rest) := by
  refine ⟨?_, fun start hs => ?_⟩
  · rw [String.toList_append, List.mem_append, not_or]
    exact ⟨hfront.1, hrest⟩
  · obtain ⟨hno, hlong⟩ := hfront.2 start hs
    rw [Bool.eq_false_iff, ne_eq, List.isPrefixOf_iff_prefix] at hno hlong
    rw [Text.startsWith, Bool.eq_false_iff, ne_eq, List.isPrefixOf_iff_prefix, String.toList_append]
    intro hp
    exact (List.prefix_or_prefix_of_prefix hp (List.prefix_append _ _)).elim hno hlong

/-- How the lines begin that hold text of an author, whatever it is. -/
theorem unmarked_fronts {rest : String} (h : '\n' ∉ rest.toList) :
    Unmarked marks ("    await page.goto('" ++ rest) ∧ Unmarked marks ("test.describe('" ++ rest) ∧
      Unmarked marks ("  test('" ++ rest) ∧ Unmarked ["    await page.screenshot("] ("    // " ++ rest) ∧
      Unmarked ["    // Step ", "    // Expect "] ("    await page.screenshot(\x7b path: 'test-results/" ++ rest) := by
  refine ⟨unmarked_append h ?_, unmarked_append h ?_, unmarked_append h ?_, unmarked_append h ?_,
    unmarked_append h ?_⟩
  all_goals
    simp only [List.forall_mem_cons, List.not_mem_nil, false_implies, implies_true, and_true, Apart, marks]
    repeat rw [String.toList_ofList]
    decide

/-- The lines around a test that are the same in every script. -/
theorem unmarked_frame :
    Unmarked marks "import \x7b test, expect \x7d from '@playwright/test';" ∧ Unmarked marks "" ∧
      Unmarked marks "  \x7d);" ∧ Unmarked marks "\x7d);" := by
  simp only [List.forall_mem_cons, List.not_mem_nil, false_implies, implies_true, and_true, Unmarked, marks,
    Text.startsWith]
  repeat rw [String.toList_ofList]
  decide

/-- Nodes that put out lines of code. -/
def PutsCode (s : Scope) (ns : List Node) : Prop :=
  ∃ lines, (∀ line ∈ lines, Unmarked marks line) ∧ renderNodes s ns = ended lines

theorem PutsCode.append {s : Scope} {ns ms : List Node} (h : PutsCode s ns) (h' : PutsCode s ms) :
    PutsCode s (ns ++ ms) := by
  obtain ⟨ls, hl, he⟩ := h
  obtain ⟨ms, hm, he'⟩ := h'
  exact ⟨ls ++ ms, fun line h => (List.mem_append.1 h).elim (hl line) (hm line), by
    rw [renderNodes_append, he, he', ended_append]⟩

theorem putsCode_code (s : Scope) {lines : List String} (h : ∀ line ∈ lines, Unmarked marks line) :
    PutsCode s [code lines] :=
  ⟨lines, h, by rw [renderNodes, renderNode_code, renderNodes, String.append_empty]⟩

theorem PutsCode.cons {s : Scope} {n : Node} {ns : List Node} (h : PutsCode s [n]) (h' : PutsCode s ns) :
    PutsCode s (n :: ns) := h.append h'

theorem PutsCode.optional {s : Scope} {n : Node} {body : List Node} (h : PutsCode s body)
    (hn : renderNode s n = renderNodes s body ∨ renderNode s n = "") : PutsCode s [n] := by
  rcases hn with hn | hn
  · obtain ⟨lines, hl, he⟩ := h
    exact ⟨lines, hl, by rw [renderNodes, hn, he, renderNodes, String.append_empty]⟩
  · exact ⟨[], by simp, by rw [renderNodes, hn, renderNodes, ended_nil, String.append_empty]⟩

theorem putsCode_whenGiven {s : Scope} {name : String} {body : List Node} (h : PutsCode s body) :
    PutsCode s [whenGiven name body] := by
  refine h.optional ?_
  rw [whenGiven, renderNode, renderNodes_joinTexts]
  split
  · exact .inl rfl
  · exact .inr rfl

theorem putsCode_whenMissing {s : Scope} {name : String} {body : List Node} (h : PutsCode s body) :
    PutsCode s [whenMissing name body] := by
  refine h.optional ?_
  rw [whenMissing, renderNode, renderNodes_joinTexts]
  split
  · exact .inr rfl
  · exact .inl rfl

/-! ## Text of an author in a line -/

theorem break_not_mem_quote (s : String) : '\n' ∉ (quote s).toList := by
  intro h
  rw [quote, String.toList_ofList, quoteChars] at h
  obtain ⟨c, -, hc⟩ := List.mem_flatMap.1 h
  unfold quoteChar at hc
  grind

theorem break_not_mem_comment (s : String) : '\n' ∉ (comment s).toList := by
  intro h
  rcases Text.mem_squeezed h with h | h <;> revert h <;> decide

theorem break_not_mem_kebabCase (s : String) : '\n' ∉ (Template.kebabCase s).toList :=
  fun h => absurd (Template.shows_kebabCase h) (by decide)

/-! ## Scripts -/

/-- The comment of the description, if there is one. -/
def descriptionLines (case : Case) : List String :=
  if comment case.description = "" then [] else ["    // " ++ comment case.description]

/-- The line that takes the screenshot. -/
def screenshotLine (stem : String) : String :=
  "    await page.screenshot(\x7b path: 'test-results/" ++ stem ++ ".png' \x7d);"

section

variable (screen : Screen) (case : Case)

/-- What a screenshot is called, without its ending. -/
def screenshotStem : String :=
  Template.kebabCase (quote screen.name) ++ "-" ++ Template.kebabCase (quote case.name)

theorem putsCode_openRoute : PutsCode ⟨[], context screen case⟩ [openRoute] := by
  refine putsCode_whenGiven ⟨["    await page.goto('" ++ (screen.route.elim "" quote ++ "');")], ?_, ?_⟩
  · refine List.forall_mem_singleton.2 (unmarked_fronts ?_).1
    rw [String.toList_append, List.mem_append, not_or]
    refine ⟨?_, by decide⟩
    cases screen.route with
    | none => simp
    | some r => exact break_not_mem_quote r
  · have hroute : (Scope.lookup? ⟨[], context screen case⟩ "route").elim "" textOf = screen.route.elim "" quote := by
      rw [lookup?_root (by decide), get?_route]
      cases screen.route <;> rfl
    simp only [renderNodes, renderNode, renderNode_code, hroute, ended_cons, ended_nil, String.append_assoc,
      String.append_empty]

/-- The lines before the description of a test. -/
def openingLines : List String :=
  ["import \x7b test, expect \x7d from '@playwright/test';", "",
    "test.describe('" ++ (quote screen.name ++ "', () => \x7b"),
    "  test('" ++
      (quote case.name ++ (case.priority.elim "" (" @" ++ ·.name) ++ "', async (\x7b page \x7d) => \x7b"))]

/-- The last lines of a test. -/
def closingLines : List String := ["", screenshotLine (screenshotStem screen case), "  \x7d);", "\x7d);"]

theorem unmarked_openingLines : ∀ line ∈ openingLines screen case, Unmarked marks line := by
  have htag : '\n' ∉ (case.priority.elim "" (" @" ++ ·.name)).toList := by
    cases case.priority with
    | none => simp
    | some p => cases p <;> decide
  obtain ⟨himport, hempty, -, -⟩ := unmarked_frame
  unfold openingLines
  simp only [List.forall_mem_cons, List.not_mem_nil, false_implies, implies_true, and_true]
  refine ⟨himport, hempty, (unmarked_fronts ?_).2.1, (unmarked_fronts ?_).2.2.1⟩
  · rw [String.toList_append, List.mem_append, not_or]
    exact ⟨break_not_mem_quote _, by decide⟩
  · simp only [String.toList_append, List.mem_append, not_or]
    exact ⟨break_not_mem_quote _, htag, by decide⟩

theorem unmarked_closingLines :
    ∀ line ∈ closingLines screen case, Unmarked ["    // Step ", "    // Expect "] line := by
  have hsub : ["    // Step ", "    // Expect "] ⊆ marks := by simp [marks]
  obtain ⟨-, hempty, hcase, hscreen⟩ := unmarked_frame
  unfold closingLines screenshotLine
  simp only [List.forall_mem_cons, List.not_mem_nil, false_implies, implies_true, and_true]
  refine ⟨hempty.mono hsub, ?_, hcase.mono hsub, hscreen.mono hsub⟩
  rw [String.append_assoc]
  refine (unmarked_fronts ?_).2.2.2.2
  simp only [screenshotStem, String.toList_append, List.mem_append, not_or]
  exact ⟨⟨⟨break_not_mem_kebabCase _, by decide⟩, break_not_mem_kebabCase _⟩, by decide⟩

theorem renderNode_tag :
    renderNode ⟨[], context screen case⟩ (.block .whenTrue "tag" [.text " ", .variable "tag"]) =
      case.priority.elim "" (" @" ++ ·.name) := by
  have htag : Scope.lookup? ⟨[], context screen case⟩ "tag" =
      case.priority.map fun p => .string ("@" ++ p.name) := by
    rw [lookup?_root (by decide), get?_tag]
  rw [renderNode, htag]
  cases hp : case.priority with
  | none => rfl
  | some p =>
    have hholds : holds (some (.string ("@" ++ p.name))) = true := by cases p <;> rfl
    rw [Option.map_some, if_pos hholds]
    simp only [renderNodes, renderNode, htag, hp, Option.map_some, Option.elim_some, textOf, String.append_empty]
    rw [← String.append_assoc]
    rfl

theorem renderNode_description :
    renderNode ⟨[], context screen case⟩
        (.block .whenTrue "description" [.text "    // ", .variable "description", .text "\n"]) =
      ended (descriptionLines case) := by
  have hdescription : Scope.lookup? ⟨[], context screen case⟩ "description" =
      some (.string (comment case.description)) := by
    rw [lookup?_root (by decide), get?_description]
  rw [renderNode, hdescription, descriptionLines]
  by_cases he : comment case.description = ""
  · simp [holds, he]
  · have hholds : holds (some (.string (comment case.description))) = true := by simpa [holds] using he
    rw [if_pos hholds, if_neg he]
    simp only [renderNodes, renderNode, hdescription, Option.elim_some, textOf, ended_cons, ended_nil,
      String.append_assoc, String.append_empty]

/-- A test is the lines of its body between its opening and its closing ones. -/
theorem renderNodes_playwrightTest {body : List Node} {lines : List String}
    (h : renderNodes ⟨[], context screen case⟩ body = ended lines) :
    renderNodes ⟨[], context screen case⟩ (playwrightTest body) =
      ended (openingLines screen case ++ descriptionLines case ++ lines ++ closingLines screen case) := by
  have hscreen : Scope.lookup? ⟨[], context screen case⟩ "screen" = some (.string (quote screen.name)) := by
    rw [lookup?_root (by decide), get?_screen]
  have htest : Scope.lookup? ⟨[], context screen case⟩ "testName" = some (.string (quote case.name)) := by
    rw [lookup?_root (by decide), get?_testName]
  rw [playwrightTest, renderNodes_joinTexts, renderNodes_append, renderNodes_append, h]
  simp only [renderNodes, renderNode_code]
  rw [renderNode_tag, renderNode_description]
  simp only [renderNode, hscreen, htest, Option.elim_some, textOf, Template.Helper.apply]
  unfold openingLines closingLines screenshotLine screenshotStem
  simp only [ended_append, ended_cons, ended_nil, String.append_assoc, String.append_empty]

theorem putsCode_openInstead {page : String} (h : '\n' ∉ page.toList) :
    PutsCode ⟨[], context screen case⟩ [openInstead page] := by
  refine putsCode_whenMissing (putsCode_code _ (List.forall_mem_singleton.2 ?_))
  rw [String.append_assoc]
  refine (unmarked_fronts ?_).1
  rw [String.toList_append, List.mem_append, not_or]
  exact ⟨h, by decide⟩

/-- In every flow the steps and the expectations stand in this order among parts of code. -/
theorem script_parts (flow : Flow) : ∃ before between after,
    script flow = playwrightTest (before ++ steps :: (between ++ expectations :: after)) ∧
      PutsCode ⟨[], context screen case⟩ before ∧ PutsCode ⟨[], context screen case⟩ between ∧
      PutsCode ⟨[], context screen case⟩ after := by
  have hopen := putsCode_openRoute screen case
  cases flow
  case' formSubmission =>
    refine ⟨[openRoute, code _], [code _], [code _], rfl, hopen.cons (putsCode_code _ ?_), putsCode_code _ ?_,
      putsCode_code _ ?_⟩
  case' navigation =>
    refine ⟨[openRoute, openInstead "/", code _], [code _], [code _], rfl,
      hopen.cons ((putsCode_openInstead screen case (by decide)).cons (putsCode_code _ ?_)),
      putsCode_code _ ?_, putsCode_code _ ?_⟩
  case' modalDialog =>
    refine ⟨[openRoute, code _], [code _], [code _], rfl, hopen.cons (putsCode_code _ ?_), putsCode_code _ ?_,
      putsCode_code _ ?_⟩
  case' listFilter =>
    refine ⟨[openRoute, code _, whenGiven "skipIfEmpty" [code _], code _], [code _], [code _], rfl,
      hopen.cons ((putsCode_code _ ?_).cons ((putsCode_whenGiven (putsCode_code _ ?_)).cons (putsCode_code _ ?_))),
      putsCode_code _ ?_, putsCode_code _ ?_⟩
  case' authFlow =>
    refine ⟨[openRoute, openInstead "/login", code _], [code _], [code _], rfl,
      hopen.cons ((putsCode_openInstead screen case (by decide)).cons (putsCode_code _ ?_)),
      putsCode_code _ ?_, putsCode_code _ ?_⟩
  -- What is left are the fixed lines of the templates.
  all_goals
    simp only [List.forall_mem_cons, List.not_mem_nil, false_implies, implies_true, and_true, Unmarked, marks,
      Text.startsWith]
    repeat rw [String.toList_ofList]
    decide

theorem renderNode_steps :
    renderNode ⟨[], context screen case⟩ steps = ended (numberedLines "Step" case.steps) :=
  renderNode_numbered (by rw [lookup?_root (by decide), get?_steps])

theorem renderNode_expectations :
    renderNode ⟨[], context screen case⟩ expectations = ended (numberedLines "Expect" case.assertions) :=
  renderNode_numbered (by rw [lookup?_root (by decide), get?_assertions])

theorem unmarked_numberedLines {label : String} (hlabel : '\n' ∉ label.toList) (items : List String) :
    ∀ line ∈ numberedLines label items, Unmarked ["    await page.screenshot("] line := by
  intro line hline
  obtain ⟨⟨text, i⟩, -, rfl⟩ := List.mem_map.1 hline
  simp only [String.append_assoc]
  refine (unmarked_fronts ?_).2.2.2.1
  simp only [String.toList_append, List.mem_append, not_or]
  exact ⟨hlabel, by decide, not_mem_toString (by decide) _, by decide, break_not_mem_comment text⟩

theorem unmarked_descriptionLines :
    ∀ line ∈ descriptionLines case, Unmarked ["    await page.screenshot("] line := by
  unfold descriptionLines
  split
  · simp
  · exact List.forall_mem_singleton.2 (unmarked_fronts (break_not_mem_comment _)).2.2.2.1

/-- The lines of a script. Of the lines of code it is only told how they do not begin. -/
theorem exists_lines (flow : Flow) : ∃ opening actions checks,
    linesOf (render flow screen case) =
      openingLines screen case ++ descriptionLines case ++ opening ++ numberedLines "Step" case.steps ++ actions ++
        numberedLines "Expect" case.assertions ++ checks ++ closingLines screen case ++ [""] ∧
      ∀ line ∈ opening ++ actions ++ checks, Unmarked marks line := by
  obtain ⟨before, between, after, hscript, ⟨opening, hopening, hbefore⟩, ⟨actions, hactions, hbetween⟩,
    ⟨checks, hchecks, hafter⟩⟩ := script_parts screen case flow
  refine ⟨opening, actions, checks, ?_, ?_⟩
  · have hbody : renderNodes ⟨[], context screen case⟩ (before ++ steps :: (between ++ expectations :: after)) =
        ended (opening ++ numberedLines "Step" case.steps ++ actions ++ numberedLines "Expect" case.assertions ++
          checks) := by
      rw [renderNodes_append, renderNodes, renderNodes_append, renderNodes, hbefore, hbetween, hafter,
        renderNode_steps, renderNode_expectations]
      simp only [ended_append, String.append_assoc]
    rw [render, Template.render, hscript, renderNodes_playwrightTest screen case hbody, linesOf_ended]
    · simp only [List.append_assoc]
    · simp only [List.mem_append]
      rintro line (((h | h) | ((((h | h) | h) | h) | h)) | h)
      · exact (unmarked_openingLines screen case line h).1
      · exact (unmarked_descriptionLines case line h).1
      · exact (hopening line h).1
      · exact (unmarked_numberedLines (by decide) _ line h).1
      · exact (hactions line h).1
      · exact (unmarked_numberedLines (by decide) _ line h).1
      · exact (hchecks line h).1
      · exact (unmarked_closingLines screen case line h).1
  · simp only [List.mem_append]
    rintro line ((h | h) | h)
    · exact hopening line h
    · exact hactions line h
    · exact hchecks line h

/-- **The steps and the expectations stand on lines of their own.** Split at its line breaks, a script has
one comment for each step, numbered from one, then one for each expectation, each with the words of its text. No
other line begins like one of them but possibly that of the description. -/
theorem lines_render (flow : Flow) : ∃ before opening actions after,
    linesOf (render flow screen case) =
      before ++ descriptionLines case ++ opening ++ numberedLines "Step" case.steps ++ actions ++
        numberedLines "Expect" case.assertions ++ after ∧
      ∀ line ∈ before ++ opening ++ actions ++ after, Unmarked ["    // Step ", "    // Expect "] line := by
  obtain ⟨opening, actions, checks, hlines, hcode⟩ := exists_lines screen case flow
  refine ⟨openingLines screen case, opening, actions, checks ++ closingLines screen case ++ [""], ?_, ?_⟩
  · rw [hlines]
    simp only [List.append_assoc]
  · have hsub : ["    // Step ", "    // Expect "] ⊆ marks := by simp [marks]
    simp only [List.mem_append, List.mem_singleton] at hcode ⊢
    rintro line (((h | h) | h) | ((h | h) | rfl))
    · exact (unmarked_openingLines screen case line h).mono hsub
    · exact (hcode line (.inl (.inl h))).mono hsub
    · exact (hcode line (.inl (.inr h))).mono hsub
    · exact (hcode line (.inr h)).mono hsub
    · exact unmarked_closingLines screen case line h
    · exact unmarked_frame.2.1.mono hsub

end

end Screenplay.Playbook
