/-
What becomes of a screen. For each case a template is chosen or the service is
called, never both; the report has one entry for each case, in the order of the
cases, with the sum of what was billed.

A report says what follows from the draft, the settings and the replies. What the
program reads off a clock is left out: how long each case and all of them took
(`duration_ms`), and when the report was made (`generated_at`).
-/
import Screenplay.Generation.Refine
import Screenplay.Playbook.Script
import Screenplay.Selection.Match
import Screenplay.Spec.Validate

namespace Screenplay

/-- How a case got its code, or why it has none. -/
inductive Resolution
  | template (flow : Flow) (code : String)
  | generated (code : Generated)
  | failed (failure : Failure)
  deriving Repr

namespace Resolution

def ofGeneration : Generation → Resolution
  | .ok code => generated code
  | .error failure => failed failure

def code? : Resolution → Option String
  | template _ code => some code
  | generated g => some g.code
  | failed _ => none

/-- What was billed, also for an answer that could not be used. -/
def cost : Resolution → Float
  | template _ _ => 0.0
  | generated g => g.usage.cost
  | failed f => f.cost

def isTemplate : Resolution → Bool
  | template _ _ => true
  | _ => false

def isGenerated : Resolution → Bool
  | generated _ => true
  | _ => false

def isFailed : Resolution → Bool
  | failed _ => true
  | _ => false

end Resolution

structure CaseReport where
  name : String
  choice : Match Float
  resolution : Resolution
  deriving Repr

structure Report where
  screen : String
  route : Option String
  cases : List CaseReport
  deriving Repr

namespace Report

/-- How many cases were resolved in a certain way. -/
def count (r : Report) (way : Resolution → Bool) : Nat :=
  r.cases.countP fun c => way c.resolution

def totalCost (r : Report) : Float :=
  r.cases.foldl (fun sum c => sum + c.resolution.cost) 0.0

end Report

/-! ## Making a report -/

/-- The keys of the callers; without keys there is no service. -/
abbrev Keys := Option (String → Option String)

namespace Config

/-- The catalog that the settings ask for. -/
def catalog (config : Config) : Catalog Float := .builtin config.threshold

/-- The dialogue that resolves a case for which no template is used. -/
def generate (config : Config) (keys : Keys) (caller : String) (c : Case) : Dialogue Resolution :=
  match keys with
  | some key => (config.refine (key caller) caller c).map .ofGeneration
  | none => .done (.failed .noService)

/-- The dialogue that resolves a case with a given choice. -/
def resolve (config : Config) (keys : Keys) (caller : String) (screen : Screen) (c : Case)
    (choice : Match Float) : Dialogue Resolution :=
  if choice.usesTemplate then .done (.template choice.flow (Playbook.render choice.flow screen c))
  else config.generate keys caller c

/-- The dialogue that makes the report of a case. -/
def reportCase (config : Config) (keys : Keys) (caller : String) (screen : Screen) (c : Case) :
    Dialogue CaseReport :=
  let choice := config.catalog.select c
  (config.resolve keys caller screen c choice).map fun resolution => ⟨c.name, choice, resolution⟩

/-- The dialogues of all cases, in order. -/
def dialogues (config : Config) (keys : Keys) (caller : String) (screen : Screen) :
    List (Dialogue CaseReport) :=
  screen.cases.map (config.reportCase keys caller screen)

/-- What happens in each case, with a service for each of them. -/
def transcripts (config : Config) (keys : Keys) (caller : String) (services : Nat → Service)
    (screen : Screen) : List (Transcript CaseReport) :=
  (config.dialogues keys caller screen).zipIdx.map fun (dialogue, i) => dialogue.run 0 (services i)

end Config

/-- The report of a screen from what happened in each of its cases. -/
def Report.ofTranscripts (screen : Screen) (transcripts : List (Transcript CaseReport)) : Report :=
  ⟨screen.name, screen.route, transcripts.map (·.result)⟩

/-! ## Writing -/

def Resolution.toJson : Resolution → Json
  | template flow code =>
    .object [("path", .string "template"), ("template", .string flow.id), ("code", .string code)]
  | generated g => .objectOf (("path", some (.string "generated")) :: g.members)
  | failed f => .objectOf (("path", some (.string "failed")) :: f.members)

def CaseReport.toJson (c : CaseReport) : Json :=
  .object [
    ("name", .string c.name),
    ("decision", c.choice.toJson),
    ("resolution", c.resolution.toJson)]

def Report.toJson (r : Report) : Json :=
  .object [
    ("screen", .string r.screen),
    ("route", .optional (r.route.map .string)),
    ("cases", .array (r.cases.map CaseReport.toJson)),
    ("summary", .object [
      ("total", .nat r.cases.length),
      ("templated", .nat (r.count Resolution.isTemplate)),
      ("generated", .nat (r.count Resolution.isGenerated)),
      ("failed", .nat (r.count Resolution.isFailed)),
      ("total_cost_usd", .float r.totalCost)])]

end Screenplay
