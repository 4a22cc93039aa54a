/-
Writing YAML, each value on lines of its own. A text is written plain where that
reads back as the same text; otherwise in single quotes, as a block of lines, or
with escapes in double quotes, the first of these that can hold it.
-/
import Screenplay.Json.Writer
import Screenplay.Yaml.Cursor
import Screenplay.Yaml.Plain

namespace Screenplay.Yaml

open Screenplay.Text (repeated join)

/-! ## Characters -/

def isSpace (c : Char) : Bool := c = ' '

def isGap (c : Char) : Bool := isSpacing c || isBreak c

/-- Characters that are written as they are; pictographs are not among them. -/
def isWritable (c : Char) : Bool :=
  c = '\n' || (' ' ≤ c && c ≤ '~') || ('\u00a0' ≤ c && c ≤ '\ufffd' && c ≠ '\ufeff')

/-- Whether some character with the first property stands right before one with
the second. -/
def adjacent (p q : Char → Bool) : List Char → Bool
  | c :: d :: rest => (p c && q d) || adjacent p q (d :: rest)
  | _ => false

/-! ## Styles -/

inductive TextStyle
  | plain
  | single
  | double
  | block
  deriving Repr, DecidableEq

/-- The marks that are never the start of a plain text. -/
def openingMarks : List Char :=
  ['#', ',', '[', ']', '\x7b', '\x7d', '&', '*', '!', '|', '>', '\'', '"', '%', '@', '\x60']

/-- Whether a text starts like something else than a text. -/
def startsMarked : List Char → Bool
  | '-' :: '-' :: '-' :: _ | '.' :: '.' :: '.' :: _ => true
  | c :: rest =>
    openingMarks.contains c || ((c = '?' || c = ':' || c = '-') && endsWord rest)
  | [] => false

/-- Whether a colon ends a word, or a hash starts one. -/
def isMarkedAfter (before : Char) : List Char → Bool
  | [] => false
  | c :: rest =>
    (c = ':' && endsWord rest) || (c = '#' && isGap before) || isMarkedAfter c rest

def isMarked (s : List Char) : Bool :=
  startsMarked s || match s with
    | c :: rest => isMarkedAfter c rest
    | [] => false

/-- Whether a plain text would stand for something else, or might be taken for a
number. -/
def isAmbiguous (s : String) : Bool :=
  Plain.isPaddedDigits s.toList || match Plain.ofString s with
    | .text => false
    | _ => true

/-- Whether only escapes can hold a text. -/
def needsEscapes (s : List Char) : Bool :=
  s.any (!isWritable ·) || adjacent isSpace isBreak s

def isEdge (c : Char) : Bool := isSpace c || isBreak c

def canBePlain (s : List Char) : Bool :=
  !(s.head?.any isEdge || s.getLast?.any isEdge || s.any isBreak || isMarked s)

def TextStyle.of (text : String) : TextStyle :=
  let s := text.toList
  if needsEscapes s then double
  else if s.contains '\n' then if s.getLast?.any isSpace then double else block
  else if !isAmbiguous text && canBePlain s then plain
  else if adjacent isBreak isSpace s then double
  else single

/-! ## Texts -/

/-- The text with so many spaces where a line starts; a line without text has
none. -/
def indented (columns : Nat) (atStart : Bool) : List Char → List Char
  | [] => []
  | c :: rest =>
    if isBreak c then c :: indented columns true rest
    else (if atStart then List.replicate columns ' ' else []) ++ c :: indented columns false rest

def hexDigits (places n : Nat) : List Char :=
  (List.range places).reverse.map fun k => (Nat.digitChar (n / Nat.pow 16 k % 16)).toUpper

def escaped (c : Char) : List Char :=
  match c with
  | '\x00' => ['\\', '0']
  | '\x07' => ['\\', 'a']
  | '\x08' => ['\\', 'b']
  | '\t' => ['\\', 't']
  | '\n' => ['\\', 'n']
  | '\x0b' => ['\\', 'v']
  | '\x0c' => ['\\', 'f']
  | '\r' => ['\\', 'r']
  | '\x1b' => ['\\', 'e']
  | '"' => ['\\', '"']
  | '\\' => ['\\', '\\']
  | '\x85' => ['\\', 'N']
  | '\u2028' => ['\\', 'L']
  | '\u2029' => ['\\', 'P']
  | c =>
    if isWritable c then [c]
    else if c.toNat ≤ 0xFF then '\\' :: 'x' :: hexDigits 2 c.toNat
    else if c.toNat ≤ 0xFFFF then '\\' :: 'u' :: hexDigits 4 c.toNat
    else '\\' :: 'U' :: hexDigits 8 c.toNat

def doubleQuoted (s : List Char) : String := "\"" ++ .ofList (s.flatMap escaped) ++ "\""

def singleQuoted (columns : Nat) (s : List Char) : String :=
  let doubled := s.flatMap fun c => if c = '\'' then ['\'', '\''] else [c]
  "'" ++ .ofList (indented columns false doubled) ++ "'"

/-- How a block says which breaks at its end belong to the text. -/
def endMark (s : List Char) : String :=
  match s.reverse with
  | c :: rest =>
    if !isBreak c then "-"
    else match rest with
      | [] => "+"
      | d :: _ => if isBreak d then "+" else ""
  | [] => "-"

/-- A block of lines; where the first of them starts with a space, the block says
how far it is indented. -/
def blockText (columns : Nat) (s : List Char) : String :=
  let start := if s.head?.any isEdge then "2" else ""
  let body := String.ofList (indented columns true s)
  "|" ++ start ++ endMark s ++ "\n" ++ body ++ if s.getLast?.any isBreak then "" else "\n"

/-- A text with the end of its line, in a part that is indented by so many
columns. -/
def textLine (columns : Nat) (text : String) : String :=
  let s := text.toList
  match TextStyle.of text with
  | .plain => text ++ "\n"
  | .single => singleQuoted (columns + 2) s ++ "\n"
  | .double => doubleQuoted s ++ "\n"
  | .block => blockText (columns + 2) s

/-- The name of a member, which is written on one line. -/
def nameText (name : String) : String :=
  match TextStyle.of name with
  | .plain => name
  | .single =>
    if name.toList.any isBreak then doubleQuoted name.toList else singleQuoted 0 name.toList
  | .double | .block => doubleQuoted name.toList

/-! ## Values -/

def floatText (x : Float) : String :=
  if x.isNaN then ".nan"
  else if x.isInf then if x < 0.0 then "-.inf" else ".inf"
  else Number.literalWith ⟨""⟩ x

/-- Parts that start at the same column, the first of them where the line is. -/
def aligned (columns : Nat) (parts : List String) : String := join (repeated ' ' columns) parts

/-- Parts that start at the same column, on lines of their own. -/
def below (columns : Nat) (parts : List String) : String :=
  "\n" ++ repeated ' ' columns ++ aligned columns parts

mutual

/-- What follows the name of a member. -/
def memberText (columns : Nat) : Json → String
  | .array (j :: js) => below columns (itemTexts columns (j :: js))
  | .object (m :: ms) => below (columns + 2) (memberTexts (columns + 2) (m :: ms))
  | j => " " ++ scalarText columns j

/-- What follows the dash of an item. -/
def itemText (columns : Nat) : Json → String
  | .array (j :: js) => " " ++ aligned (columns + 2) (itemTexts (columns + 2) (j :: js))
  | .object (m :: ms) => " " ++ aligned (columns + 2) (memberTexts (columns + 2) (m :: ms))
  | j => " " ++ scalarText columns j

def itemTexts (columns : Nat) : List Json → List String
  | [] => []
  | j :: js => ("-" ++ itemText columns j) :: itemTexts columns js

def memberTexts (columns : Nat) : List (String × Json) → List String
  | [] => []
  | (name, j) :: rest => (nameText name ++ ":" ++ memberText columns j) :: memberTexts columns rest

/-- A value that takes no lines for parts of its own. -/
def scalarText (columns : Nat) : Json → String
  | .null | .unusable => "null\n"
  | .bool b => if b then "true\n" else "false\n"
  | .number (.int n) => toString n ++ "\n"
  | .number (.float x) => floatText x ++ "\n"
  | .string s => textLine columns s
  | .array _ => "[]\n"
  | .object _ => "\x7b\x7d\n"

end

/-- The document of a value. -/
def print : Json → String
  | .array (j :: js) => aligned 0 (itemTexts 0 (j :: js))
  | .object (m :: ms) => aligned 0 (memberTexts 0 (m :: ms))
  | j => scalarText 0 j

end Screenplay.Yaml
