/-
Lists of results. A result has a cell under each header for people, and a JSON
value for programs; the format decides which of the two is shown, and how.
-/
import Screenplay.Command.Format
import Screenplay.Command.Grid
import Screenplay.Yaml.Writer

namespace Screenplay

/-- Results of one kind. -/
class Listed (α : Type) where
  headers : List String
  cells : α → List String
  toJson : α → Json

namespace Results

/-- The text without the blanks at its end. -/
def trimEnd (s : String) : String := .ofList (Text.dropLastBlanks s.toList)

/-- A line for each header. -/
def record (headers cells : List String) : String :=
  Text.joinLines ((headers.zip cells).map fun (header, cell) => header ++ ": " ++ cell)

variable {α : Type} [Listed α]

/-- The list for people. -/
def forPeople (shape : List String → List (List String) → String) (results : List α) : String :=
  if results.isEmpty then "No results."
  else shape (Listed.headers α) (results.map Listed.cells)

def records (headers : List String) (rows : List (List String)) : String :=
  Text.join "\n---\n" (rows.map (record headers))

/-- The text of a list of results. -/
def text (format : Format) (results : List α) : String :=
  let value := Json.array (results.map Listed.toJson)
  match format with
  | .json => value.pretty
  | .yaml => trimEnd (Yaml.print value)
  | .table => forPeople Grid.draw results
  | .plain => forPeople records results

end Results

/-- The text of a value, for programs. -/
def Format.value (f : Format) (j : Json) : String :=
  match f with
  | .yaml => Yaml.print j
  | _ => j.pretty ++ "\n"

end Screenplay
