/-
Writing TOML documents. A table writes its plain members first, under a header
if it has any, and then the tables in it, with an empty line between two
tables. Arrays have one item a line. A text is written in the plainest form
that can hold it.
-/
import Screenplay.Number.Format
import Screenplay.Toml.Basic

namespace Screenplay.Toml

/-! ## Texts -/

/-- The length of the longest run of a character. -/
def longestRun (c : Char) (s : List Char) : Nat :=
  (s.foldl (fun (longest, current) d =>
    if d = c then (max longest (current + 1), current + 1) else (longest, 0)) (0, 0)).1

/-- A control character that cannot stand in a text as it is. -/
def needsCode (c : Char) : Bool := (c < ' ' && c ≠ '\t' && c ≠ '\n') || c = '\x7f'

def hexDigits (n : Nat) : List Char :=
  let d := Nat.toDigits 16 n
  (List.replicate (4 - d.length) '0' ++ d).map Char.toUpper

/-- A character of a quoted text, quotes and line breaks apart. -/
def escaped (c : Char) : List Char :=
  match c with
  | '\\' => ['\\', '\\']
  | '\x08' => ['\\', 'b']
  | '\t' => ['\\', 't']
  | '\n' => ['\\', 'n']
  | '\x0c' => ['\\', 'f']
  | '\r' => ['\\', 'r']
  | c => if needsCode c then ['\\', 'u'] ++ hexDigits c.toNat else [c]

/-- The characters of a quoted text. So many quotes in a row may stand as they
are, and in a text of many lines every line break. -/
def quotedChars (isBlock : Bool) (most : Nat) : Nat → List Char → List Char
  | _, [] => []
  | run, '"' :: r =>
    if run < most then '"' :: quotedChars isBlock most (run + 1) r
    else '\\' :: '"' :: quotedChars isBlock most 0 r
  | _, c :: r =>
    (if c = '\n' && isBlock then [c] else escaped c) ++ quotedChars isBlock most 0 r

/-- The forms of a text. -/
inductive Form
  | basic
  | literal
  | basicBlock
  | literalBlock

/-- The plainest form of a text. -/
def formOf (s : List Char) : Form :=
  let coded := s.any needsCode
  let backslash := s.contains '\\'
  let broken := s.contains '\n'
  let double := longestRun '"' s
  let single := longestRun '\'' s
  if !coded && !backslash && double = 0 && !broken then .basic
  else if !coded && single = 0 && !broken then .literal
  else if !coded && !backslash && double ≤ 2 then .basicBlock
  else if !coded && single ≤ 2 then .literalBlock
  else if broken then .basicBlock
  else .basic

/-- A text in its form. A block with line breaks starts on a new line. -/
def quotedText (text : String) : String :=
  let s := text.toList
  let start := if s.contains '\n' then "\n" else ""
  match formOf s with
  | .basic => "\"" ++ .ofList (quotedChars false 0 0 s) ++ "\""
  | .literal => "'" ++ text ++ "'"
  | .basicBlock => "\"\"\"" ++ start ++ .ofList (quotedChars true 2 0 s) ++ "\"\"\""
  | .literalBlock => "'''" ++ start ++ text ++ "'''"

/-! ## Values -/

def floatText (x : Float) : String :=
  if x.isNaN then "nan"
  else
    let text := Number.decimalText x
    if x.isInf || text.contains '.' then text else text ++ ".0"

/-- An integer of at most 63 bits and a sign. -/
def integerText? (n : Int) : Option String :=
  if -(Nat.pow 2 63 : Nat) ≤ n ∧ n < (Nat.pow 2 63 : Nat) then some (toString n) else none

def arrayText (items : List String) : String :=
  if items.isEmpty then "[]"
  else "[\n" ++ String.join (items.map fun item => "    " ++ item ++ ",\n") ++ "]"

/-- A plain value: one that is not a table and holds none. -/
def plainText? : Toml → Option String
  | .string s => some (quotedText s)
  | .integer n => integerText? n
  | .float x => some (floatText x)
  | .boolean b => some (if b then "true" else "false")
  | _ => none

def valueText? : Toml → Option String
  | .array _ items => (items.mapM plainText?).map arrayText
  | v => plainText? v

/-! ## Tables -/

def isTable : Toml → Bool
  | .table _ _ => true
  | _ => false

/-- The members of a table that are not tables, a line each. -/
def memberLines? (members : List (String × Toml)) : Option String := do
  let lines ← (members.filter (!isTable ·.2)).mapM fun (key, value) => do
    return key ++ " = " ++ (← valueText? value) ++ "\n"
  return String.join lines

def headerLine (path : List String) : String :=
  if path.isEmpty then "" else "[" ++ Text.join "." path ++ "]\n"

mutual

/-- The sections of a table at a path; a table of tables has none of its own. -/
def sections? (path : List String) : Toml → Option (List String)
  | .table _ members => do
    let lines ← memberLines? members
    let inner ← innerSections? path members
    let own := if lines.isEmpty && !inner.isEmpty then [] else [headerLine path ++ lines]
    return own ++ inner
  | _ => some []

def innerSections? (path : List String) : List (String × Toml) → Option (List String)
  | [] => some []
  | (key, value) :: rest => do
    return (← sections? (path ++ [key]) value) ++ (← innerSections? path rest)

end

/-- The text of a document whose keys need no quotes. -/
def print? (table : Toml) : Option String := do
  return Text.join "\n" (← sections? [] table)

end Screenplay.Toml
