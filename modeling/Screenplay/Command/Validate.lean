/-
Checking specifications: a row for each, and for people each violation.
-/
import Screenplay.Command.Results
import Screenplay.Command.SpecFile

namespace Screenplay

/-- What was found about one specification. -/
structure SpecStatus where
  file : Path
  screen : String
  tests : Nat
  violations : List Violation
  deriving Repr

namespace SpecStatus

def of (file : SpecFile) : SpecStatus where
  file := file.path
  screen := file.draft.screen.getD ""
  tests := (file.draft.tests.getD []).length
  violations := file.draft.defects

def isValid (s : SpecStatus) : Bool := s.violations.isEmpty

instance : Listed SpecStatus where
  headers := ["File", "Screen", "Tests", "Status"]
  cells s := [s.file, s.screen, toString s.tests,
    if s.isValid then "valid" else toString s.violations.length ++ " violation(s)"]
  toJson s := .object [
    ("file", .string s.file),
    ("screen", .string s.screen),
    ("tests", .nat s.tests),
    ("valid", .bool s.isValid),
    ("violations", .ofStrings (s.violations.map Violation.text))]

/-- A line for each violation. -/
def notices (s : SpecStatus) : String :=
  String.join (s.violations.map fun v => failureLine (s.file ++ ": " ++ v.text))

end SpecStatus

/-- The trouble of specifications of which some are not valid. -/
def invalidSpecs? (statuses : List SpecStatus) : Option Trouble :=
  let invalid := statuses.countP (!·.isValid)
  if invalid = 0 then none
  else some (.said (toString invalid ++ " of " ++ toString statuses.length ++
    " spec(s) failed validation"))

def runValidate (tree : Tree) (format : Format) (inputs : List Path) : Outcome :=
  match SpecFile.loadAll tree inputs with
  | .error trouble => ⟨"", "", tree, some trouble⟩
  | .ok files =>
    let statuses := files.map SpecStatus.of
    { output := Results.text format statuses ++ "\n"
      notices := if format.isHuman then String.join (statuses.map SpecStatus.notices) else ""
      tree := tree
      trouble := invalidSpecs? statuses }

end Screenplay
