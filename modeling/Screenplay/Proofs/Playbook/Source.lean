/-
The templates of the flows are kept as trees, and shown to the user as text. The
text compiles to the tree (`compile_source`): what is rendered for a case is what the
text that is shown would render, and what holds of one holds of the other.
-/
import Screenplay.Playbook.Script
import Screenplay.Proofs.Template.Legible

namespace Screenplay.Playbook

open Screenplay.Template (Node Legible LegibleAll Clear Apart isName compile)

/-! ## Parts -/

theorem toList_lines (lines : List String) :
    (String.join (lines.map (· ++ "\n"))).toList = lines.flatMap fun line => line.toList ++ ['\n'] := by
  simp [List.flatMap_map]

/-- Every line has its end, so a brace at the end of a line does no harm. -/
theorem legible_code {line : String} {lines : List String} :
    Legible (code (line :: lines)) ↔
      Clear '\x7b' ((line :: lines).flatMap fun line => line.toList ++ ['\n']) := by
  rw [code, Legible, toList_lines]
  simp

theorem legible_whenGiven {name : String} {body : List Node} (hname : isName name.toList = true)
    (h : LegibleAll body) : Legible (whenGiven name body) :=
  ⟨hname, Template.apart_joinTexts body, Template.legibleAll_joinTexts h⟩

theorem legible_whenMissing {name : String} {body : List Node} (hname : isName name.toList = true)
    (h : LegibleAll body) : Legible (whenMissing name body) :=
  ⟨hname, Template.apart_joinTexts body, Template.legibleAll_joinTexts h⟩

theorem legible_openRoute : Legible openRoute := by
  refine legible_whenGiven (by decide +kernel) ?_
  simp only [LegibleAll, Legible, legible_code, List.flatMap_cons, List.flatMap_nil]
  repeat rw [String.toList_ofList]
  decide +kernel

theorem legible_openInstead {page : String} (h : '\x7b' ∉ page.toList) : Legible (openInstead page) := by
  refine legible_whenMissing (by decide +kernel) ⟨legible_code.2 (Template.clear_of_not_mem ?_), trivial⟩
  simp [h]

theorem legible_numbered {list label : String} (hlist : isName list.toList = true)
    (hlabel : '\x7b' ∉ label.toList) : Legible (numbered list label) := by
  refine ⟨hlist, by simp [Apart, Node.isText], ⟨by simp, Template.clear_of_not_mem ?_⟩, ?_⟩
  · simp [hlabel]
  · simp only [LegibleAll, Legible]
    repeat rw [String.toList_ofList]
    decide +kernel

theorem legible_playwrightTest {body : List Node} (h : LegibleAll body) : LegibleAll (playwrightTest body) := by
  refine Template.legibleAll_joinTexts ?_
  simp only [Template.legibleAll_append, h, LegibleAll, Legible, legible_code, List.flatMap_cons,
    List.flatMap_nil, Apart]
  repeat rw [String.toList_ofList]
  decide +kernel

/-! ## Flows -/

theorem legible_script (flow : Flow) : LegibleAll (script flow) := by
  have hsteps : Legible steps := legible_numbered (by decide +kernel) (by decide +kernel)
  have hexpectations : Legible expectations := legible_numbered (by decide +kernel) (by decide +kernel)
  have hhome : Legible (openInstead "/") := legible_openInstead (by decide +kernel)
  have hlogin : Legible (openInstead "/login") := legible_openInstead (by decide +kernel)
  have hskip : Legible (whenGiven "skipIfEmpty"
      [code ["    test.skip((await items.count()) === 0, 'No items to filter');"]]) := by
    refine legible_whenGiven (by decide +kernel) ?_
    simp only [LegibleAll, legible_code, List.flatMap_cons, List.flatMap_nil]
    repeat rw [String.toList_ofList]
    decide +kernel
  cases flow <;> refine legible_playwrightTest ?_
  -- What is left are the lines of code; their literals are turned into characters, which the kernel reads.
  all_goals
    simp only [formSubmission, navigation, modalDialog, listFilter, authFlow, LegibleAll, legible_openRoute,
      hsteps, hexpectations, hhome, hlogin, hskip, legible_code, List.flatMap_cons, List.flatMap_nil,
      String.toList_append]
    repeat rw [String.toList_ofList]
    decide +kernel

/-- **The text of a template compiles to its tree.** -/
theorem compile_source (flow : Flow) : compile (source flow) = .ok ⟨script flow⟩ := by
  refine Template.compile_of_legible (legible_script flow) ?_
  cases flow <;> exact Template.apart_joinTexts _

end Screenplay.Playbook
