/-
What the names of a template mean for a case of a screen. The context of the
case is looked up here name by name, once; proofs about scripts use these facts
and do not look into the context again.
-/
import Screenplay.Playbook.Script
import Screenplay.Proofs.Json.Members
import Screenplay.Proofs.Text.Blanks

namespace Screenplay.Playbook

open Screenplay.Template (Scope currentItem parts)

/-! ## Names without dots -/

/-- A name of one part, other than that of the current item. -/
def Simple (name : String) : Prop := '.' ∉ name.toList ∧ name ≠ currentItem

instance (name : String) : Decidable (Simple name) := inferInstanceAs (Decidable (_ ∧ _))

theorem Simple.lookup? {name : String} (h : Simple name) (s : Scope) : s.lookup? name = s.find? name := by
  have hparts : parts name = [name] := by simp [parts, List.splitOn_eq_singleton h.1]
  rw [Scope.lookup?, hparts]
  show (s.find? name).bind (Template.follow? · []) = s.find? name
  cases s.find? name <;> rfl

/-- Outside of all items a name means what it means in the context. -/
theorem lookup?_root {name : String} (h : Simple name) (c : Context) :
    Scope.lookup? ⟨[], c⟩ name = c.get? name := by
  have hb : (name == currentItem) = false := by simpa using h.2
  rw [h.lookup?]
  simp [Scope.find?, hb]

theorem lookup?_enter {name : String} (h : Simple name) (s : Scope) {item v : Json}
    (hv : item.get? name = some v) : (s.enter item).lookup? name = some v := by
  have hb : (name == currentItem) = false := by simpa using h.2
  rw [h.lookup?]
  simp [Scope.find?, Scope.enter, hb, hv]

/-! ## The context of a case -/

section

variable (screen : Screen) (case : Case)

/-- The members of the context, before they are put in order. -/
theorem get?_context (name : String) : (context screen case).get? name = Json.member? (
    [("screen", .string (quote screen.name)),
      ("screenDescription", .string (comment screen.description)),
      ("testName", .string (quote case.name)),
      ("description", .string (comment case.description)),
      ("steps", numberedItems case.steps),
      ("assertions", numberedItems case.assertions),
      ("stepCount", .nat case.steps.length),
      ("assertionCount", .nat case.assertions.length),
      ("skipIfEmpty", .bool case.skipIfEmpty)] ++
    (screen.route.map fun route => ("route", .string (quote route))).toList ++
    (case.priority.elim [] fun p =>
      [("priority", .string p.name), ("tag", .string ("@" ++ p.name))])) name := by
  rw [Context.get?, context, Json.member?_orderMembers]

@[simp] theorem get?_screen : (context screen case).get? "screen" = some (.string (quote screen.name)) := by
  rw [get?_context]
  cases screen.route <;> cases case.priority <;> rfl

@[simp] theorem get?_testName : (context screen case).get? "testName" = some (.string (quote case.name)) := by
  rw [get?_context]
  cases screen.route <;> cases case.priority <;> rfl

@[simp] theorem get?_description :
    (context screen case).get? "description" = some (.string (comment case.description)) := by
  rw [get?_context]
  cases screen.route <;> cases case.priority <;> rfl

@[simp] theorem get?_steps : (context screen case).get? "steps" = some (numberedItems case.steps) := by
  rw [get?_context]
  cases screen.route <;> cases case.priority <;> rfl

@[simp] theorem get?_assertions :
    (context screen case).get? "assertions" = some (numberedItems case.assertions) := by
  rw [get?_context]
  cases screen.route <;> cases case.priority <;> rfl

@[simp] theorem get?_skipIfEmpty : (context screen case).get? "skipIfEmpty" = some (.bool case.skipIfEmpty) := by
  rw [get?_context]
  cases screen.route <;> cases case.priority <;> rfl

@[simp] theorem get?_route :
    (context screen case).get? "route" = screen.route.map fun route => .string (quote route) := by
  rw [get?_context]
  cases screen.route <;> cases case.priority <;> rfl

@[simp] theorem get?_tag :
    (context screen case).get? "tag" = case.priority.map fun p => .string ("@" ++ p.name) := by
  rw [get?_context]
  cases screen.route <;> cases case.priority <;> rfl

end

end Screenplay.Playbook
