/-
What generation would cost, without any call: a row for each test case that no
template handles, or for every one.
-/
import Screenplay.Command.Results
import Screenplay.Command.SpecFile
import Screenplay.Report.Basic

namespace Screenplay

/-- The expected cost of a test case. -/
structure CaseEstimate where
  screen : String
  test : String
  usage : Usage
  deriving Repr

namespace CaseEstimate

instance : Listed CaseEstimate where
  headers := ["Screen", "Test", "Tier", "Model", "Input", "Output", "Cost"]
  cells e := [e.screen, e.test, e.usage.tier.name, e.usage.model, toString e.usage.inputTokens,
    toString e.usage.outputTokens, Number.dollars e.usage.cost]
  toJson e := .object [
    ("screen", .string e.screen),
    ("test", .string e.test),
    ("tier", .string e.usage.tier.name),
    ("model", .string e.usage.model),
    ("input_tokens", .nat e.usage.inputTokens),
    ("output_tokens", .nat e.usage.outputTokens),
    ("cost_usd", .float e.usage.cost)]

end CaseEstimate

namespace Config

/-- The cases of a screen that are priced. -/
def priced (config : Config) (all : Bool) (screen : Screen) : List Case :=
  screen.cases.filter fun c => all || !(config.catalog.select c).usesTemplate

/-- The estimates of the priced cases of some screens, in order. -/
def estimates (config : Config) (all : Bool) (screens : List Screen) : List CaseEstimate :=
  screens.flatMap fun screen =>
    (config.priced all screen).map fun c => ⟨screen.name, c.name, config.estimate c⟩

end Config

/-- The sum of some costs, added from first to last; that of none is a negative
zero. -/
def sumOfCosts (costs : List Float) : Float := costs.foldl (· + ·) (-0.0)

def totalLine (format : Format) (rows : List CaseEstimate) : String :=
  let total := Number.dollars (sumOfCosts (rows.map (·.usage.cost)))
  format.message
    ("Estimated total: " ++ total ++ " for " ++ toString rows.length ++ " case(s)") ++ "\n"

/-- The estimates for the screens of all specifications that some inputs stand for. -/
def Config.quote (config : Config) (tree : Tree) (inputs : List Path) (all : Bool) :
    Except Trouble (List CaseEstimate) := do
  let screens ← (← SpecFile.loadAll tree inputs).mapM SpecFile.screen
  return config.estimates all screens

def runEstimate (config : Config) (tree : Tree) (format : Format) (inputs : List Path)
    (all : Bool) : Except Trouble String := do
  let rows ← config.quote tree inputs all
  return Results.text format rows ++ "\n" ++ if format.isHuman then totalLine format rows else ""

end Screenplay
