/-
How many columns a text takes where it is shown with letters of one width: a
character of East Asia takes two, a mark none, any other one. Pictographs that
are joined are shown as one.
-/
import Screenplay.Text.Table.Width

namespace Screenplay.Text

/-- The columns of a character by itself. -/
def charWidth (c : Char) : Nat :=
  if c < '\x7f' then 1
  else if Run.search Table.zeroWidth c.toNat then 0
  else if Run.search Table.wide c.toNat then 2
  else 1

def isPictograph (c : Char) : Bool := Run.search Table.pictographic c.toNat

/-- Joins the pictographs beside it. -/
def isJoiner (c : Char) : Bool := c == '\u200d'

/-- Asks for the character before it to be shown as a picture. -/
def isPictureSelector (c : Char) : Bool := c == '\ufe0f'

/-- The five skin tones of a pictograph. -/
def isSkinTone (c : Char) : Bool := c.toNat - 0x1F3FB < 5 && 0x1F3FB ≤ c.toNat

/-- What the columns of a character depend on in the text before it. -/
inductive Before
  | other
  | pictograph (columns : Nat)
  /-- A joiner that follows a pictograph. -/
  | joiner

/-- The columns that a character adds, and what it is to the next one. -/
def addedWidth (before : Before) (c : Char) : Nat × Before :=
  match before with
  | .pictograph columns =>
    if isJoiner c then (0, .joiner)
    else if isSkinTone c then (0, before)
    else if isPictureSelector c then (2 - columns, .pictograph 2)
    else own
  | .joiner => if isPictograph c then (0, .pictograph 2) else own
  | .other => own
where
  own : Nat × Before :=
    let columns := charWidth c
    (columns, if isPictograph c then .pictograph columns else .other)

def widthFrom (before : Before) : List Char → Nat
  | [] => 0
  | c :: rest =>
    let (columns, before) := addedWidth before c
    columns + widthFrom before rest

def width (s : String) : Nat := widthFrom .other s.toList

end Screenplay.Text
