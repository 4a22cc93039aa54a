/-
A place in a YAML text: the characters that are left, and how far on, on which
line and in which column that is. Columns decide what is nested in what.
-/
import Screenplay.Text.Basic

namespace Screenplay.Yaml

/-! ## Characters -/

/-- A space or a tab. -/
def isSpacing (c : Char) : Bool := c = ' ' || c = '\t'

/-- A character that ends a line. -/
def isBreak (c : Char) : Bool :=
  c = '\n' || c = '\r' || c = '\u0085' || c = '\u2028' || c = '\u2029'

/-- A character of a name. -/
def isNameChar (c : Char) : Bool :=
  Text.isAsciiLetter c || Text.isDigit c || c = '_' || c = '-'

/-- A character that a text may hold at all. -/
def isAllowed (c : Char) : Bool :=
  let n := c.toNat
  n == 0x09 || n == 0x0A || n == 0x0D || (0x20 ≤ n && n ≤ 0x7E) || n == 0x85 ||
    (0xA0 ≤ n && n ≤ 0xFFFD) || 0x10000 ≤ n

/-- Whether a spacing, a line break or the end comes next. -/
def endsWord : List Char → Bool
  | [] => true
  | c :: _ => isSpacing c || isBreak c

/-- Whether a line break or the end comes next. -/
def endsLine : List Char → Bool
  | [] => true
  | c :: _ => isBreak c

/-! ## Places -/

structure Cursor where
  rest : List Char
  index : Nat
  line : Nat
  column : Nat
  deriving Repr

namespace Cursor

def start (text : List Char) : Cursor := ⟨text, 0, 0, 0⟩

/-- The place so many characters on, none of which is a line break. -/
def skip (c : Cursor) (n : Nat) : Cursor :=
  ⟨c.rest.drop n, c.index + n, c.line, c.column + n⟩

/-- The text of the line break that comes next; most of them count as one. -/
def breakText (c : Cursor) : List Char :=
  match c.rest with
  | '\u2028' :: _ => ['\u2028']
  | '\u2029' :: _ => ['\u2029']
  | b :: _ => if isBreak b then ['\n'] else []
  | [] => []

/-- The place after the line break that comes next. -/
def skipBreak (c : Cursor) : Cursor :=
  match c.rest with
  | '\r' :: '\n' :: r => ⟨r, c.index + 2, c.line + 1, 0⟩
  | b :: r => if isBreak b then ⟨r, c.index + 1, c.line + 1, 0⟩ else c
  | [] => c

/-- The place after the characters of a kind. -/
def skipWhile (c : Cursor) (p : Char → Bool) : Cursor := c.skip (c.rest.takeWhile p).length

def skipSpacing (c : Cursor) : Cursor := c.skipWhile isSpacing

/-- The place at the end of the line. -/
def skipLine (c : Cursor) : Cursor := c.skipWhile (!isBreak ·)

/-- The place at the end of the line if a comment comes next. -/
def skipComment (c : Cursor) : Cursor :=
  match c.rest with
  | '#' :: _ => c.skipLine
  | _ => c

/-- The place after spacing, a comment and a line break; nothing else may be left
on the line. -/
def finishLine? (c : Cursor) : Option Cursor :=
  let c := c.skipSpacing.skipComment
  if endsLine c.rest then some c.skipBreak else none

/-- Whether the line begins with three dashes or three dots. -/
def atDocumentMark (c : Cursor) : Bool :=
  c.column == 0 &&
    match c.rest with
    | '-' :: '-' :: '-' :: r | '.' :: '.' :: '.' :: r => endsWord r
    | _ => false

end Cursor

end Screenplay.Yaml
