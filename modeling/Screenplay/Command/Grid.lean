/-
Grids of text with lines drawn around the cells. A column is as wide as its
widest line, with a space on both sides; a cell may have several lines.
-/
import Screenplay.Text.Width
import Screenplay.Text.Basic

namespace Screenplay.Grid

open Screenplay.Text (repeated join)

/-- The lines of a cell. -/
abbrev Cell := List String

def Cell.ofText (text : String) : Cell := (text.toList.splitOn '\n').map String.ofList

def Cell.width (c : Cell) : Nat := (c.map Text.width).foldl max 0

/-- The strokes of a line between rows. -/
structure Rule where
  left : String
  stroke : Char
  crossing : String
  right : String

def top : Rule := ⟨"┌", '─', "┬", "┐"⟩

def underHeader : Rule := ⟨"╞", '═', "╪", "╡"⟩

def between : Rule := ⟨"├", '╌', "┼", "┤"⟩

def bottom : Rule := ⟨"└", '─', "┴", "┘"⟩

def Rule.line (r : Rule) (widths : List Nat) : String :=
  r.left ++ join r.crossing (widths.map fun w => repeated r.stroke (w + 2)) ++ r.right

/-- A line of a cell, filled up to the width of its column. -/
def filled (w : Nat) (line : String) : String :=
  " " ++ line ++ repeated ' ' (w - Text.width line) ++ " "

/-- The lines of a row. -/
def rowLines (widths : List Nat) (row : List Cell) : List String :=
  let height := (row.map List.length).foldl max 0
  (List.range height).map fun k =>
    "│" ++ join "┆" ((widths.zip row).map fun (w, cell) => filled w (cell[k]?.getD "")) ++ "│"

/-- The widths of the columns of some rows. -/
def columnWidths (columns : Nat) (rows : List (List Cell)) : List Nat :=
  (List.range columns).map fun k =>
    (rows.map fun row => Cell.width (row[k]?.getD [])).foldl max 0

/-- A grid of rows under a header. -/
def draw (header : List String) (rows : List (List String)) : String :=
  let head := header.map Cell.ofText
  let body := rows.map (·.map Cell.ofText)
  let widths := columnWidths head.length (head :: body)
  let blocks := body.map (rowLines widths)
  Text.joinLines <|
    [top.line widths] ++ rowLines widths head ++ [underHeader.line widths] ++
      [between.line widths].intercalate blocks ++ [bottom.line widths]

end Screenplay.Grid
