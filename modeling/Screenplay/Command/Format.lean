/-
The formats of a command's output.
-/
import Screenplay.Json.Writer

namespace Screenplay

inductive Format
  | table
  | json
  | yaml
  | plain
  deriving Repr, DecidableEq

namespace Format

def all : List Format := [table, json, yaml, plain]

def name : Format → String
  | table => "table"
  | json => "json"
  | yaml => "yaml"
  | plain => "plain"

def named? (s : String) : Option Format := all.find? (·.name == s)

/-- Whether a person is to read the output. -/
def isHuman : Format → Bool
  | table | plain => true
  | json | yaml => false

/-- A note, which JSON has as an object. -/
def message (f : Format) (text : String) : String :=
  match f with
  | json => (Json.object [("message", .string text)]).compact
  | _ => text

end Format

end Screenplay
