/-
Specifications of screens. A draft is what an author wrote, every field
possibly missing. A screen is a draft that was found valid: texts trimmed,
names known, at least one step and one assertion in every case.
-/
import Screenplay.Spec.Names
import Screenplay.Document

namespace Screenplay

/-- A test case as it is written. -/
structure CaseDraft where
  name : Option String
  description : Option String
  steps : Option (List String)
  assertions : Option (List String)
  hint : Option String
  priority : Option String
  skipIfEmpty : Option Bool
  deriving Repr, DecidableEq

/-- A screen as it is written. -/
structure Draft where
  screen : Option String
  description : Option String
  route : Option String
  tests : Option (List CaseDraft)
  deriving Repr, DecidableEq

/-- A valid test case. -/
structure Case where
  name : String
  description : String
  steps : List String
  assertions : List String
  hint : Option Hint
  priority : Option Priority
  skipIfEmpty : Bool
  deriving Repr, DecidableEq

/-- A valid screen. -/
structure Screen where
  name : String
  description : String
  route : Option String
  cases : List Case
  deriving Repr, DecidableEq

/-! ## Reading -/

open Document

def caseFields : List String :=
  ["name", "description", "steps", "assertions", "templateHint", "priority", "skipIfEmpty"]

def CaseDraft.read? {α : Type} [Document α] (v : α) : Option CaseDraft := do
  match ← record? caseFields v with
  | [name, description, steps, assertions, hint, priority, skip] =>
    return {
      name := ← optional text? name
      description := ← optional text? description
      steps := ← optional (listOf text?) steps
      assertions := ← optional (listOf text?) assertions
      hint := ← optional text? hint
      priority := ← optional text? priority
      skipIfEmpty := ← optional flag? skip }
  | _ => none

def Draft.read? {α : Type} [Document α] (v : α) : Option Draft := do
  match ← record? ["screen", "description", "route", "tests"] v with
  | [screen, description, route, tests] =>
    return {
      screen := ← optional text? screen
      description := ← optional text? description
      route := ← optional text? route
      tests := ← optional (listOf CaseDraft.read?) tests }
  | _ => none

/-- The name of an enumeration, which JSON may also write as the only member of
an object, with the value null. -/
def enumName? (v : Json) : Option String :=
  match v with
  | .string s => some s
  | .object [(name, .null)] => some name
  | _ => none

/-- A test case that was found valid before it was written. -/
def Case.read? (v : Json) : Option Case := do
  match ← record? caseFields v with
  | [name, description, steps, assertions, hint, priority, skip] =>
    return {
      name := ← required text? name
      description := ← defaulting text? "" description
      steps := ← required (listOf text?) steps
      assertions := ← required (listOf text?) assertions
      hint := ← optional (fun v => text? v >>= fun s => (Hint.parse s).toOption) hint
      priority := ← optional (fun v => enumName? v >>= Priority.named?) priority
      skipIfEmpty := ← defaulting flag? false skip }
  | _ => none

/-! ## Writing -/

def CaseDraft.toJson (c : CaseDraft) : Json :=
  .object [
    ("name", .optional (c.name.map .string)),
    ("description", .optional (c.description.map .string)),
    ("steps", .optional (c.steps.map .ofStrings)),
    ("assertions", .optional (c.assertions.map .ofStrings)),
    ("templateHint", .optional (c.hint.map .string)),
    ("priority", .optional (c.priority.map .string)),
    ("skipIfEmpty", .optional (c.skipIfEmpty.map .bool))]

def Draft.toJson (d : Draft) : Json :=
  .object [
    ("screen", .optional (d.screen.map .string)),
    ("description", .optional (d.description.map .string)),
    ("route", .optional (d.route.map .string)),
    ("tests", .optional (d.tests.map fun tests => .array (tests.map CaseDraft.toJson)))]

def Case.toJson (c : Case) : Json :=
  .objectOf [
    ("name", some (.string c.name)),
    ("description", some (.string c.description)),
    ("steps", some (.ofStrings c.steps)),
    ("assertions", some (.ofStrings c.assertions)),
    ("templateHint", c.hint.map (.string ·.name)),
    ("priority", c.priority.map (.string ·.name)),
    ("skipIfEmpty", some (.bool c.skipIfEmpty))]

def Screen.toJson (s : Screen) : Json :=
  .objectOf [
    ("screen", some (.string s.name)),
    ("description", some (.string s.description)),
    ("route", s.route.map .string),
    ("tests", some (.array (s.cases.map Case.toJson)))]

end Screenplay
