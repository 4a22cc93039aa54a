/-
Showing which template each test case would use: the best one, or all of them by
their scores, and on demand the reason in words.
-/
import Screenplay.Command.Results
import Screenplay.Command.SpecFile
import Screenplay.Report.Basic

namespace Screenplay

/-- A template for a test case. -/
structure Selection where
  screen : String
  test : String
  score : Score Float
  usesTemplate : Bool
  deriving Repr

namespace Selection

instance : Listed Selection where
  headers := ["Screen", "Test", "Template", "Score", "Threshold", "Matched", "Decision"]
  cells s := [s.screen, s.test, s.score.flow.id, Number.percent s.score.value,
    Number.percent s.score.threshold, Text.join ", " s.score.matched,
    if s.usesTemplate then "template" else "generative"]
  toJson s := .object [
    ("screen", .string s.screen),
    ("test", .string s.test),
    ("template", .string s.score.flow.id),
    ("score", .float s.score.value),
    ("threshold", .float s.score.threshold),
    ("matched_keywords", .ofStrings s.score.matched),
    ("use_template", .bool s.usesTemplate)]

/-- The template that is chosen for a case. -/
def chosen (catalog : Catalog Float) (screen : Screen) (c : Case) : Selection :=
  let choice := catalog.select c
  ⟨screen.name, c.name, choice.score, choice.usesTemplate⟩

/-- All templates for a case, each as if it were the only one. -/
def scored (catalog : Catalog Float) (screen : Screen) (c : Case) : List Selection :=
  (catalog.scores c).map fun s => ⟨screen.name, c.name, s, s.threshold <= s.value⟩

def ofCase (catalog : Catalog Float) (all : Bool) (screen : Screen) (c : Case) : List Selection :=
  if all then scored catalog screen c else [chosen catalog screen c]

/-- The reason for a choice, on a line. -/
def explanation (catalog : Catalog Float) (screen : Screen) (c : Case) : String :=
  screen.name ++ " / " ++ c.name ++ ": " ++ (catalog.select c).explain ++ "\n"

end Selection

/-- A value for each case of the screens, in order. -/
def forCases {α : Type} (screens : List Screen) (f : Screen → Case → α) : List α :=
  screens.flatMap fun screen => screen.cases.map (f screen)

def runSelect (config : Config) (tree : Tree) (format : Format) (inputs : List Path)
    (all explain : Bool) : Except Trouble String := do
  let screens ← (← SpecFile.loadAll tree inputs).mapM SpecFile.screen
  let rows := (forCases screens (Selection.ofCase config.catalog all)).flatten
  let reasons := if explain then forCases screens (Selection.explanation config.catalog) else []
  return Results.text format rows ++ "\n" ++ String.join reasons

end Screenplay
