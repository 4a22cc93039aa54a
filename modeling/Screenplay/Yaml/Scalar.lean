/-
The texts of a YAML document: plain, in single or double quotes, and in blocks.
A line break inside a text that is not a block counts as a space, and further
ones after it as they are; a folded block does the same between lines that are
not indented.
-/
import Screenplay.Yaml.Cursor

namespace Screenplay.Yaml

/-! ## Gaps -/

/-- The spacing between two words of a text: blanks on one line, or line breaks. -/
structure Gap where
  spacing : List Char
  firstBreak : List Char
  moreBreaks : List Char
  /-- Whether the gap goes on to another line. -/
  isBroken : Bool
  deriving Repr

namespace Gap

def none : Gap := ⟨[], [], [], false⟩

/-- What a gap counts as in the text. -/
def text (g : Gap) : List Char :=
  if g.isBroken then
    if g.firstBreak = ['\n'] then (if g.moreBreaks.isEmpty then [' '] else g.moreBreaks)
    else g.firstBreak ++ g.moreBreaks
  else g.spacing

def addSpacing (g : Gap) (c : Char) : Gap :=
  if g.isBroken then g else { g with spacing := g.spacing ++ [c] }

def addBreak (g : Gap) (b : List Char) : Gap :=
  if g.isBroken then { g with moreBreaks := g.moreBreaks ++ b }
  else { g with spacing := [], firstBreak := b, isBroken := true }

end Gap

/-- Reads a gap. On a new line no tab may stand before the column `indent`. -/
def readGap? (indent : Int) : Nat → Gap → Cursor → Option (Gap × Cursor)
  | 0, _, _ => none
  | fuel + 1, g, c =>
    match c.rest with
    | [] => some (g, c)
    | d :: _ =>
      if isSpacing d then
        if g.isBroken && d = '\t' && (c.column : Int) < indent then none
        else readGap? indent fuel (g.addSpacing d) (c.skip 1)
      else if isBreak d then readGap? indent fuel (g.addBreak c.breakText) c.skipBreak
      else some (g, c)

/-! ## Plain texts -/

/-- Brackets, braces and the comma end a plain text inside brackets or braces. -/
def isFlowIndicator (c : Char) : Bool :=
  c = ',' || c = '[' || c = ']' || c = '\x7b' || c = '\x7d'

/-- Whether one of the characters comes next that may not follow a colon inside
brackets or braces. -/
def startsClash : List Char → Bool
  | c :: _ => isFlowIndicator c || c = '?'
  | [] => false

/-- A word of a plain text. -/
def plainWord? (inFlow : Bool) : List Char → Option (List Char)
  | [] => some []
  | c :: r =>
    if isSpacing c || isBreak c then some []
    else if inFlow && c = ':' && startsClash r then none
    else if c = ':' && endsWord r then some []
    else if inFlow && isFlowIndicator c then some []
    else (plainWord? inFlow r).map (c :: ·)

/-- The words of a plain text with the gaps between them. The gap after the last
word is given back, it does not belong to the text. -/
def plainText? (inFlow : Bool) (indent : Int) :
    Nat → Gap → Cursor → Option (List Char × Gap × Cursor)
  | 0, _, _ => none
  | fuel + 1, gap, c => do
    if c.atDocumentMark || c.rest.head? == some '#' then return ([], gap, c)
    let word ← plainWord? inFlow c.rest
    if word.isEmpty then return ([], gap, c)
    let c := c.skip word.length
    let (next, after) ← readGap? indent (c.rest.length + 1) .none c
    let text := gap.text ++ word
    if endsWord c.rest && !c.rest.isEmpty && (inFlow || indent ≤ (after.column : Int)) then
      let (more, last, finish) ← plainText? inFlow indent fuel next after
      return (text ++ more, last, finish)
    else return (text, next, after)

/-! ## Quoted texts -/

/-- The character of an escape, and the number of hexadecimal digits of one by
number. -/
def escapeOf? (c : Char) : Option (Char ⊕ Nat) :=
  match c with
  | '0' => some (.inl '\x00')
  | 'a' => some (.inl '\x07')
  | 'b' => some (.inl '\x08')
  | 't' | '\t' => some (.inl '\t')
  | 'n' => some (.inl '\n')
  | 'v' => some (.inl '\x0b')
  | 'f' => some (.inl '\x0c')
  | 'r' => some (.inl '\r')
  | 'e' => some (.inl '\x1b')
  | ' ' => some (.inl ' ')
  | '"' => some (.inl '"')
  | '/' => some (.inl '/')
  | '\\' => some (.inl '\\')
  | 'N' => some (.inl '\u0085')
  | '_' => some (.inl '\u00a0')
  | 'L' => some (.inl '\u2028')
  | 'P' => some (.inl '\u2029')
  | 'x' => some (.inr 2)
  | 'u' => some (.inr 4)
  | 'U' => some (.inr 8)
  | _ => none

/-- The number that hexadecimal digits write. -/
def hexNumber? (digits : List Char) : Option Nat :=
  digits.foldl (fun value c => do return (← value) * 16 + (← Text.digitValue? 16 c)) (some 0)

/-- The character of an escape after its backslash, and the length of the escape. -/
def escape? : List Char → Option (Char × Nat)
  | [] => none
  | c :: r => do
    match ← escapeOf? c with
    | .inl d => return (d, 1)
    | .inr count =>
      let digits := r.take count
      if digits.length < count then none
      else return (← Text.charOf? (← hexNumber? digits), count + 1)

/-- A word of a text in quotes: its characters, the place after it, and whether
it ends with an escaped line break. -/
def quotedWord? (quote : Char) : Nat → Cursor → Option (List Char × Cursor × Bool)
  | 0, _ => none
  | fuel + 1, c =>
    let put (d : Char) (next : Cursor) : Option (List Char × Cursor × Bool) :=
      (quotedWord? quote fuel next).map fun (word, place, isBroken) => (d :: word, place, isBroken)
    match c.rest with
    | [] => some ([], c, false)
    | d :: r =>
      if isSpacing d || isBreak d then some ([], c, false)
      else if d = quote then
        if quote = '\'' && r.head? == some '\'' then put '\'' (c.skip 2) else some ([], c, false)
      else if quote = '"' && d = '\\' then
        if !r.isEmpty && endsLine r then some ([], (c.skip 1).skipBreak, true)
        else do
          let (e, length) ← escape? r
          put e (c.skip (1 + length))
      else put d (c.skip 1)

/-- A text in quotes, after its opening quote. -/
def quotedText? (quote : Char) : Nat → Cursor → Option (List Char × Cursor)
  | 0, _ => none
  | fuel + 1, c => do
    if c.atDocumentMark || c.rest.isEmpty then none
    let (word, c, isBroken) ← quotedWord? quote (c.rest.length + 1) c
    if c.rest.head? == some quote then return (word, c.skip 1)
    let (gap, c) ← readGap? 0 (c.rest.length + 1) { Gap.none with isBroken := isBroken } c
    let (more, c) ← quotedText? quote fuel c
    return (word ++ gap.text ++ more, c)

/-! ## Blocks -/

/-- What becomes of the line breaks at the end of a block. -/
inductive Chomping
  | strip
  | clip
  | keep
  deriving Repr, DecidableEq

def chomping? : List Char → Option Chomping
  | '+' :: _ => some .keep
  | '-' :: _ => some .strip
  | _ => none

/-- The digit of an indentation, which is not zero. -/
def indentDigit? : List Char → Option Nat
  | d :: _ => if Text.isDigit d then some (d.toNat - '0'.toNat) else none
  | [] => none

/-- The head of a block after its indicator: the chomping and the indentation, in
any order, and the rest of the line. -/
def blockHead? (c : Cursor) : Option (Chomping × Nat × Cursor) := do
  let (chomping, digit, c) := match chomping? c.rest, indentDigit? c.rest with
    | some ch, _ =>
      let c := c.skip 1
      match indentDigit? c.rest with
      | some d => (ch, some d, c.skip 1)
      | none => (ch, none, c)
    | none, some d =>
      let c := c.skip 1
      match chomping? c.rest with
      | some ch => (ch, some d, c.skip 1)
      | none => (.clip, some d, c)
    | none, none => (.clip, none, c)
  if digit = some 0 then none
  return (chomping, digit.getD 0, ← c.finishLine?)

/-- The line breaks before a line of a block, with the largest indentation seen.
While the indentation is not known, all spaces count as such. -/
def blockBreaks? (indent : Nat) : Nat → Nat → Cursor → Option (List Char × Nat × Cursor)
  | 0, _, _ => none
  | fuel + 1, widest, c => do
    let spaces := (c.rest.takeWhile (· = ' ')).length
    let c := c.skip (if indent = 0 then spaces else min spaces (indent - c.column))
    let widest := max widest c.column
    if c.rest.head? == some '\t' && (indent = 0 || c.column < indent) then none
    if !c.rest.isEmpty && endsLine c.rest then
      let (more, widest, finish) ← blockBreaks? indent fuel widest c.skipBreak
      return (c.breakText ++ more, widest, finish)
    else return ([], widest, c)

/-- The lines of a block at an indentation. `before` is the break before the line
that comes next, `breaks` the empty lines after it, and `wasIndented` whether the
line before began with spacing. -/
def blockLines? (isLiteral : Bool) (indent : Nat) (chomping : Chomping) :
    Nat → List Char → List Char → Bool → Cursor → Option (List Char × Cursor)
  | 0, _, _, _, _ => none
  | fuel + 1, before, breaks, wasIndented, c => do
    if c.column = indent && !c.rest.isEmpty then
      let isIndented := match c.rest with
        | d :: _ => isSpacing d
        | [] => false
      let gap :=
        if !isLiteral && before = ['\n'] && !wasIndented && !isIndented then
          if breaks.isEmpty then [' '] else breaks
        else before ++ breaks
      let line := c.rest.takeWhile (!isBreak ·)
      let c := c.skipLine
      let (next, _, place) ← blockBreaks? indent (c.rest.length + 1) 0 c.skipBreak
      let (more, finish) ← blockLines? isLiteral indent chomping fuel c.breakText next isIndented
        place
      return (gap ++ line ++ more, finish)
    else
      let ending := match chomping with
        | .strip => []
        | .clip => before
        | .keep => before ++ breaks
      return (ending, c)

/-- A block after its indicator, nested in something at the column `outer`, which
is -1 at the top. -/
def blockText? (isLiteral : Bool) (outer : Int) (c : Cursor) : Option (List Char × Cursor) := do
  let (chomping, digit, c) ← blockHead? c
  let given := if digit = 0 then 0 else (max outer 0).toNat + digit
  let fuel := c.rest.length + 1
  let (breaks, widest, c) ← blockBreaks? given fuel 0 c
  let indent := if given = 0 then max widest (max (outer + 1).toNat 1) else given
  blockLines? isLiteral indent chomping fuel [] breaks false c

end Screenplay.Yaml
