/-
The tokens of a YAML text. Where a collection begins and ends follows from the
columns: `indents` are the columns of the collections that are open. A key is
seen to be one only at its colon, so the place of what may be a key is kept, and
the tokens that make it one are put there afterwards.
-/
import Screenplay.Yaml.Tag

namespace Screenplay.Yaml

/-- How a text is written. -/
inductive Style
  | plain
  | quoted
  | literal
  | folded
  deriving Repr, DecidableEq

inductive Token
  | directive (d : Directive)
  | documentStart
  | documentEnd
  | blockSequenceStart
  | blockMappingStart
  | blockEnd
  | flowSequenceStart
  | flowSequenceEnd
  | flowMappingStart
  | flowMappingEnd
  | blockEntry
  | flowEntry
  | key
  | value
  | alias (name : List Char)
  | anchor (name : List Char)
  | tag (t : TagText)
  | scalar (style : Style) (text : List Char)
  deriving Repr, DecidableEq

/-- Where a key may have begun. -/
structure KeyPlace where
  /-- The number of tokens before it. -/
  count : Nat
  /-- Nothing but a key may begin there. -/
  isRequired : Bool
  index : Nat
  line : Nat
  column : Nat
  deriving Repr

/-- How long a key may be. -/
def keyLimit : Nat := 1024

/-- Whether a key can no longer have begun at a place: it has to be on one line. -/
def KeyPlace.isStale (c : Cursor) (p : KeyPlace) : Bool :=
  p.line < c.line || p.index + keyLimit < c.index

/-- A text as far as it is read. -/
structure Scan where
  cursor : Cursor
  /-- The tokens so far, the last one first. -/
  tokens : List Token
  count : Nat
  /-- The columns of the open collections, the innermost first. -/
  indents : List Nat
  /-- Where a key may have begun, for each level of brackets, the innermost first. -/
  places : List (Option KeyPlace)
  /-- Whether a key may begin here. -/
  allowsKey : Bool

namespace Scan

def start (text : List Char) : Scan := ⟨.start text, [], 0, [], [none], true⟩

def inFlow (s : Scan) : Bool := 1 < s.places.length

/-- The column of the innermost collection, or -1. -/
def indent (s : Scan) : Int :=
  match s.indents with
  | c :: _ => c
  | [] => -1

def column (s : Scan) : Int := s.cursor.column

def push (t : Token) (s : Scan) : Scan :=
  { s with tokens := t :: s.tokens, count := s.count + 1 }

/-- Puts a token after the first `count` ones. -/
def pushAt (count : Nat) (t : Token) (s : Scan) : Scan :=
  let later := s.count - count
  { s with tokens := s.tokens.take later ++ t :: s.tokens.drop later, count := s.count + 1 }

def skip (n : Nat) (s : Scan) : Scan := { s with cursor := s.cursor.skip n }

def allow (b : Bool) (s : Scan) : Scan := { s with allowsKey := b }

/-! ## Columns -/

/-- The open columns, without those further in than `column`, and how many those
were. -/
def closeFrom (column : Int) : List Nat → List Nat × Nat
  | [] => ([], 0)
  | c :: rest =>
    if column < (c : Int) then
      let (left, closed) := closeFrom column rest
      (left, closed + 1)
    else (c :: rest, 0)

/-- Ends the collections further in than `column`. -/
def close (column : Int) (s : Scan) : Scan :=
  if s.inFlow then s
  else
    let (left, closed) := closeFrom column s.indents
    (List.replicate closed Token.blockEnd).foldl (fun s t => s.push t) { s with indents := left }

/-- Begins a collection at a column, unless one is open there. The token goes
after the first `count` ones. -/
def openAt (column : Nat) (count : Nat) (t : Token) (s : Scan) : Scan :=
  if s.inFlow || (column : Int) ≤ s.indent then s
  else pushAt count t { s with indents := column :: s.indents }

/-! ## Keys -/

/-- Forgets what may be a key; a required one cannot be forgotten. -/
def dropKey? (s : Scan) : Option Scan :=
  match s.places with
  | some p :: rest => if p.isRequired then none else some { s with places := none :: rest }
  | _ => some s

/-- Notes that a key may begin here. -/
def noteKey? (s : Scan) : Option Scan :=
  if s.allowsKey then do
    let s ← s.dropKey?
    let place : KeyPlace := {
      count := s.count
      isRequired := !s.inFlow && s.indent == s.column
      index := s.cursor.index
      line := s.cursor.line
      column := s.cursor.column }
    return { s with places := some place :: s.places.drop 1 }
  else some s

def freshPlace? (c : Cursor) : Option KeyPlace → Option (Option KeyPlace)
  | some p =>
    if KeyPlace.isStale c p then (if p.isRequired then none else some none) else some (some p)
  | none => some none

/-- Forgets the places that are stale. -/
def dropStale? (s : Scan) : Option Scan := do
  return { s with places := ← s.places.mapM (freshPlace? s.cursor) }

/-! ## Spacing -/

/-- Goes on to the next token, over spacing, comments and line breaks. A tab may
not stand where a key may begin. -/
def toToken : Nat → Scan → Scan
  | 0, s => s
  | fuel + 1, s =>
    let c := match s.cursor.rest with
      | '\ufeff' :: _ => if s.cursor.column = 0 then s.cursor.skip 1 else s.cursor
      | _ => s.cursor
    let c := c.skipWhile fun d => d = ' ' || (d = '\t' && (s.inFlow || !s.allowsKey))
    let c := c.skipComment
    if !c.rest.isEmpty && endsLine c.rest then
      toToken fuel { s with cursor := c.skipBreak, allowsKey := s.allowsKey || !s.inFlow }
    else { s with cursor := c }

/-! ## Tokens -/

/-- Ends all collections at the end of the text or at a document mark. -/
def closeAll? (s : Scan) : Option Scan := do
  return ((← (s.close (-1)).dropKey?).allow false)

def takeDirective? (s : Scan) : Option Scan := do
  let s ← s.closeAll?
  let (d, c) ← directive? s.cursor
  return { s with cursor := c }.push (.directive d)

def takeDocumentMark? (t : Token) (s : Scan) : Option Scan := do
  return ((← s.closeAll?).skip 3).push t

def takeFlowStart? (t : Token) (s : Scan) : Option Scan := do
  let s ← s.noteKey?
  return (({ s with places := none :: s.places }.allow true).skip 1).push t

def takeFlowEnd? (t : Token) (s : Scan) : Option Scan := do
  let s ← s.dropKey?
  let s := if s.inFlow then { s with places := s.places.drop 1 } else s
  return ((s.allow false).skip 1).push t

def takeFlowEntry? (s : Scan) : Option Scan := do
  return (((← s.dropKey?).allow true).skip 1).push .flowEntry

/-- Outside brackets a collection may begin only where a key may. -/
def beginBlock? (t : Token) (s : Scan) : Option Scan :=
  if s.inFlow then some s
  else if s.allowsKey then some (s.openAt s.cursor.column s.count t)
  else none

def takeBlockEntry? (s : Scan) : Option Scan := do
  let s ← (← s.beginBlock? .blockSequenceStart).dropKey?
  return ((s.allow true).skip 1).push .blockEntry

def takeKey? (s : Scan) : Option Scan := do
  let s ← (← s.beginBlock? .blockMappingStart).dropKey?
  return ((s.allow !s.inFlow).skip 1).push .key

def takeValue? (s : Scan) : Option Scan := do
  match s.places with
  | some p :: rest =>
    let s := { s with places := none :: rest }
    let s := (s.pushAt p.count .key).openAt p.column p.count .blockMappingStart
    return ((s.allow false).skip 1).push .value
  | _ =>
    let s ← s.beginBlock? .blockMappingStart
    return ((s.allow !s.inFlow).skip 1).push .value

/-- What may follow the name of an anchor or an alias. -/
def endsName (rest : List Char) : Bool :=
  endsWord rest || (rest.head?.any fun c => ("?:,]\x7d%@".toList ++ ['\x60']).contains c)

def takeName? (t : List Char → Token) (s : Scan) : Option Scan := do
  let s := (← s.noteKey?).allow false
  let c := s.cursor.skip 1
  let name := c.rest.takeWhile isNameChar
  let c := c.skip name.length
  if name.isEmpty || !endsName c.rest then none
  return { s with cursor := c }.push (t name)

def takeTag? (s : Scan) : Option Scan := do
  let s := (← s.noteKey?).allow false
  let (t, c) ← tag? s.cursor
  if !(endsWord c.rest || (s.inFlow && c.rest.head? == some ',')) then none
  return { s with cursor := c }.push (.tag t)

def takeBlockScalar? (style : Style) (s : Scan) : Option Scan := do
  let s := (← s.dropKey?).allow true
  let (text, c) ← blockText? (style == .literal) s.indent (s.cursor.skip 1)
  return { s with cursor := c }.push (.scalar style text)

def takeQuoted? (quote : Char) (s : Scan) : Option Scan := do
  let s := (← s.noteKey?).allow false
  let (text, c) ← quotedText? quote (s.cursor.rest.length + 1) (s.cursor.skip 1)
  return { s with cursor := c }.push (.scalar .quoted text)

def takePlain? (s : Scan) : Option Scan := do
  let s := (← s.noteKey?).allow false
  let (text, gap, c) ←
    plainText? s.inFlow (s.indent + 1) (s.cursor.rest.length + 1) .none s.cursor
  return ({ s with cursor := c }.allow gap.isBroken).push (.scalar .plain text)

/-- Whether a plain text may begin here. -/
def startsPlain (inFlow : Bool) : List Char → Bool
  | [] => false
  | c :: r =>
    let isIndicator := ("-?:,[]\x7b\x7d#&*!|>'\"%@".toList ++ ['\x60']).contains c
    !(isSpacing c || isBreak c || isIndicator) ||
      (c = '-' && !(r.head?.any isSpacing)) ||
      (!inFlow && (c = '?' || c = ':') && !endsWord r)

/-- Takes the next token; there is one. -/
def takeToken? (s : Scan) : Option Scan :=
  let c := s.cursor
  let r := c.rest.drop 1
  if c.atDocumentMark then
    s.takeDocumentMark? (if c.rest.head? == some '-' then .documentStart else .documentEnd)
  else
    match c.rest.head? with
    | none => none
    | some d =>
      if d = '%' && c.column = 0 then s.takeDirective?
      else if d = '[' then s.takeFlowStart? .flowSequenceStart
      else if d = '\x7b' then s.takeFlowStart? .flowMappingStart
      else if d = ']' then s.takeFlowEnd? .flowSequenceEnd
      else if d = '\x7d' then s.takeFlowEnd? .flowMappingEnd
      else if d = ',' then s.takeFlowEntry?
      else if d = '-' && endsWord r then s.takeBlockEntry?
      else if d = '?' && (s.inFlow || endsWord r) then s.takeKey?
      else if d = ':' && (s.inFlow || endsWord r) then s.takeValue?
      else if d = '*' then s.takeName? .alias
      else if d = '&' then s.takeName? .anchor
      else if d = '!' then s.takeTag?
      else if d = '|' && !s.inFlow then s.takeBlockScalar? .literal
      else if d = '>' && !s.inFlow then s.takeBlockScalar? .folded
      else if d = '\'' || d = '"' then s.takeQuoted? d
      else if startsPlain s.inFlow c.rest then s.takePlain?
      else none

/-- Takes all tokens that are left. -/
def finish? : Nat → Scan → Option Scan
  | 0, _ => none
  | fuel + 1, s => do
    let s ← (s.toToken (s.cursor.rest.length + 1)).dropStale?
    let s := s.close s.column
    if s.cursor.rest.isEmpty then s.closeAll? else finish? fuel (← s.takeToken?)

end Scan

/-- The tokens of a text. -/
def tokens? (text : String) : Option (List Token) := do
  let chars := match text.toList with
    | '\ufeff' :: r => r
    | s => s
  if !chars.all isAllowed then none
  return (← (Scan.start chars).finish? (chars.length + 1)).tokens.reverse

end Screenplay.Yaml
