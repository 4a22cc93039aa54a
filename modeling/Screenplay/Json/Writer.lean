/-
Writing JSON, on one line (`compact`) or indented by two spaces (`pretty`).
-/
import Screenplay.Json.Basic
import Screenplay.Number.Format

namespace Screenplay.Json

open Screenplay.Text (repeated join)

def Number.text : Number → String
  | .int n => toString n
  | .float x => Screenplay.Number.literal x

def hexDigit (n : Nat) : Char := (Nat.digitChar (n % 16))

/-- A character inside a quoted text. -/
def escapeChar (c : Char) : List Char :=
  match c with
  | '"' => ['\\', '"']
  | '\\' => ['\\', '\\']
  | '\x08' => ['\\', 'b']
  | '\x0c' => ['\\', 'f']
  | '\n' => ['\\', 'n']
  | '\r' => ['\\', 'r']
  | '\t' => ['\\', 't']
  | c =>
    if c < ' ' then ['\\', 'u', '0', '0', hexDigit (c.toNat / 16), hexDigit c.toNat] else [c]

def quoted (s : String) : String := "\"" ++ .ofList (s.toList.flatMap escapeChar) ++ "\""

def numberText : Number → String
  | .float x =>
    match Screenplay.Number.special? x with
    | some _ => "null"
    | none => Screenplay.Number.literal x
  | n => n.text

mutual

def compact : Json → String
  | .null | .unusable => "null"
  | .bool b => if b then "true" else "false"
  | .number n => numberText n
  | .string s => quoted s
  | .array items => "[" ++ join "," (compactItems items) ++ "]"
  | .object members => "\x7b" ++ join "," (compactMembers members) ++ "\x7d"

def compactItems : List Json → List String
  | [] => []
  | j :: js => compact j :: compactItems js

def compactMembers : List (String × Json) → List String
  | [] => []
  | (name, j) :: rest => (quoted name ++ ":" ++ compact j) :: compactMembers rest

end

def indentBy (level : Nat) : String := repeated ' ' (2 * level)

/-- The parts of an array or object, one a line. -/
def block (level : Nat) (opening closing : String) (parts : List String) : String :=
  if parts.isEmpty then opening ++ closing
  else
    let inner := "\n" ++ indentBy (level + 1)
    opening ++ inner ++ join ("," ++ inner) parts ++ "\n" ++ indentBy level ++ closing

mutual

def prettyAt (level : Nat) : Json → String
  | .array items => block level "[" "]" (prettyItems (level + 1) items)
  | .object members => block level "\x7b" "\x7d" (prettyMembers (level + 1) members)
  | j => compact j

def prettyItems (level : Nat) : List Json → List String
  | [] => []
  | j :: js => prettyAt level j :: prettyItems level js

def prettyMembers (level : Nat) : List (String × Json) → List String
  | [] => []
  | (name, j) :: rest => (quoted name ++ ": " ++ prettyAt level j) :: prettyMembers level rest

end

def pretty (j : Json) : String := prettyAt 0 j

end Screenplay.Json
