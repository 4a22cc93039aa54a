/-
The tokens of a template. The text is first cut into pieces: literal text, and
tags between `{{` and the next `}}`. The pieces lose nothing, so the text is
their concatenation. A tag is then a variable, a pair of names, or the opening
or the close of a block; a tag that is none of these is literal text. No text
fails to be cut.
-/
import Screenplay.Text.Basic

namespace Screenplay.Template

open Screenplay.Text

/-- What a block does with its body. -/
inductive Construct
  /-- The body once for each item of a list. -/
  | each
  /-- The body if the value holds. -/
  | whenTrue
  /-- The body unless the value holds. -/
  | whenFalse
  deriving Repr, DecidableEq

namespace Construct

def all : List Construct := [each, whenTrue, whenFalse]

def keyword : Construct → String
  | each => "each"
  | whenTrue => "if"
  | whenFalse => "unless"

def named? (s : String) : Option Construct := all.find? (·.keyword == s)

end Construct

/-! ## Pieces -/

def tagOpen : List Char := ['\x7b', '\x7b']

def tagClose : List Char := ['\x7d', '\x7d']

/-- A stretch of the template: literal text, or what stands inside a tag. -/
inductive Piece
  | literal (text : List Char)
  | tag (inner : List Char)
  deriving Repr, DecidableEq

/-- The stretch itself. -/
def Piece.source : Piece → List Char
  | .literal text => text
  | .tag inner => tagOpen ++ inner ++ tagClose

def literalPiece (text : List Char) : List Piece :=
  if text.isEmpty then [] else [.literal text]

/-- Cuts a template at its tags. A tag that is never closed makes the rest of
the template literal. -/
def pieces (s : List Char) : List Piece :=
  match _h : cut tagOpen s with
  | none => literalPiece s
  | some (before, r) =>
    match _h' : cut tagClose r with
    | none => literalPiece s
    | some (inner, rest) => literalPiece before ++ .tag inner :: pieces rest
termination_by s.length
decreasing_by
  have := length_of_cut (by decide) _h
  have := length_of_cut (by decide) _h'
  omega

theorem source_literalPiece (s : List Char) : (literalPiece s).flatMap Piece.source = s := by
  unfold literalPiece
  split
  · rename_i h; simp [List.isEmpty_iff.1 h]
  · simp [Piece.source]

/-- The pieces of a template, put together, are the template. -/
theorem source_pieces (s : List Char) : (pieces s).flatMap Piece.source = s := by
  fun_induction pieces s with
  | case1 s h => exact source_literalPiece s
  | case2 s before r h h' => exact source_literalPiece s
  | case3 s before r h inner rest h' ih =>
    rw [List.flatMap_append, source_literalPiece, List.flatMap_cons, ih, eq_of_cut h, eq_of_cut h']
    simp [Piece.source]

/-! ## Tokens -/

inductive Token
  | text (raw : String)
  /-- `{{name}}` -/
  | variable (name : String)
  /-- `{{first second}}`, with the whole tag -/
  | pair (first second raw : String)
  /-- `{{#each name}}`; the name may be empty, the offset is in bytes -/
  | openBlock (construct : Construct) (name : String) (offset : Nat)
  /-- `{{/each}}` -/
  | closeBlock (construct : Construct) (offset : Nat)
  deriving Repr, DecidableEq

def isNameChar (c : Char) : Bool :=
  isAlphanumeric c || c == '_' || c == '-' || c == '$' || c == '@'

/-- Names are identifiers joined by dots. -/
def isName (s : List Char) : Bool :=
  (s.splitOn '.').all fun part => !part.isEmpty && part.all isNameChar

/-- The token of a tag that stands at this offset. -/
def classify (inner : List Char) (offset : Nat) : Token :=
  let raw : String := .ofList (Piece.tag inner).source
  match trimmed inner with
  | '#' :: rest =>
    let rest := trimmed rest
    let keyword := rest.takeWhile (!isBlank ·)
    let name := trimmed (rest.dropWhile (!isBlank ·))
    match Construct.named? (.ofList keyword) with
    | some construct =>
      if name.isEmpty || isName name then .openBlock construct (.ofList name) offset else .text raw
    | none => .text raw
  | '/' :: rest =>
    match Construct.named? (.ofList (trimmed rest)) with
    | some construct => .closeBlock construct offset
    | none => .text raw
  | words =>
    match blankWords words with
    | [name] => if isName name then .variable (.ofList name) else .text raw
    | [first, second] =>
      if isName first && isName second then .pair (.ofList first) (.ofList second) raw
      else .text raw
    | _ => .text raw

def Piece.token (offset : Nat) : Piece → Token
  | .literal text => .text (.ofList text)
  | .tag inner => classify inner offset

/-- The tokens of pieces that begin at this offset. -/
def tokensAt (offset : Nat) : List Piece → List Token
  | [] => []
  | p :: ps => p.token offset :: tokensAt (offset + byteLength p.source) ps

def tokens (source : String) : List Token := tokensAt 0 (pieces source.toList)

end Screenplay.Template
