/-
Tags of YAML nodes as they are written: a handle and what follows it, or a whole
tag between angle brackets. A handle stands for the start of a tag.
-/
import Screenplay.Yaml.Scalar

namespace Screenplay.Yaml

/-- A tag as it is written. An empty handle stands for nothing. -/
structure TagText where
  handle : List Char
  suffix : List Char
  deriving Repr, DecidableEq

/-- A character of a tag after its handle. -/
def isTagChar (isVerbatim : Bool) (c : Char) : Bool :=
  isNameChar c || (";/?:@&=+$.%!~*'()".toList).contains c ||
    (isVerbatim && [',', '[', ']'].contains c)

/-! ## Bytes by number -/

/-- A byte written with a percent sign and two hexadecimal digits. -/
def percentByte? : List Char → Option Nat
  | '%' :: a :: b :: _ => hexNumber? [a, b]
  | _ => none

/-- How many bytes a character with this first byte has. -/
def byteCount? (first : Nat) : Option Nat :=
  if first < 0x80 then some 1
  else if first / 0x20 = 0x6 then some 2
  else if first / 0x10 = 0xE then some 3
  else if first / 0x08 = 0x1E then some 4
  else none

/-- The number that further bytes add to; `value` is that of the bytes before. -/
def furtherBytes? : Nat → Nat → List Char → Option Nat
  | 0, value, _ => some value
  | count + 1, value, s => do
    let byte ← percentByte? s
    if byte / 0x40 = 2 then furtherBytes? count (value * 0x40 + byte % 0x40) (s.drop 3) else none

/-- A character written as bytes, with the length of what is written. -/
def percentChar? (s : List Char) : Option (Char × Nat) := do
  let first ← percentByte? s
  let count ← byteCount? first
  let lead := match count with
    | 1 => first
    | 2 => first % 0x20
    | 3 => first % 0x10
    | _ => first % 0x08
  let value ← furtherBytes? (count - 1) lead (s.drop 3)
  return ((Text.charOf? value).getD '\ufffd', 3 * count)

/-- The characters of a tag, with how much of the text they take. -/
def tagChars? (isVerbatim : Bool) : Nat → List Char → Option (List Char × Nat)
  | 0, _ => none
  | fuel + 1, s =>
    match s with
    | [] => some ([], 0)
    | c :: r =>
      if c = '%' then do
        let (d, length) ← percentChar? s
        let (more, total) ← tagChars? isVerbatim fuel (s.drop length)
        return (d :: more, length + total)
      else if isTagChar isVerbatim c then do
        let (more, total) ← tagChars? isVerbatim fuel r
        return (c :: more, 1 + total)
      else some ([], 0)

/-! ## Handles -/

/-- A handle: an exclamation mark, and perhaps a name and a second one. -/
def handleOf? : List Char → Option (List Char)
  | '!' :: r =>
    let name := r.takeWhile isNameChar
    match r.drop name.length with
    | '!' :: _ => some ('!' :: name ++ ['!'])
    | _ => some ('!' :: name)
  | _ => none

def isWholeHandle (h : List Char) : Bool := 1 < h.length && h.getLast? == some '!'

/-- A tag, at its exclamation mark. -/
def tag? (c : Cursor) : Option (TagText × Cursor) := do
  let fuel := c.rest.length + 1
  match c.rest with
  | '!' :: '<' :: r =>
    let (suffix, length) ← tagChars? true fuel r
    let finish := c.skip (2 + length)
    if length = 0 || finish.rest.head? != some '>' then none
    return (⟨[], suffix⟩, finish.skip 1)
  | s =>
    let handle ← handleOf? s
    let (suffix, length) ← tagChars? false fuel (s.drop handle.length)
    let finish := c.skip (handle.length + length)
    if isWholeHandle handle then
      if length = 0 then none else return (⟨handle, suffix⟩, finish)
    else
      let suffix := handle.drop 1 ++ suffix
      return (if suffix.isEmpty then ⟨[], ['!']⟩ else ⟨['!'], suffix⟩, finish)

/-! ## Directives -/

inductive Directive
  | version (major minor : Nat)
  | tag (handle start : List Char)
  deriving Repr, DecidableEq

/-- A number of at most nine digits. -/
def versionNumber? (c : Cursor) : Option (Nat × Cursor) :=
  let digits := c.rest.takeWhile Text.isDigit
  if digits.isEmpty || 9 < digits.length then none
  else some (digits.foldl (fun n d => n * 10 + (d.toNat - '0'.toNat)) 0, c.skip digits.length)

def versionDirective? (c : Cursor) : Option (Directive × Cursor) := do
  let (major, c) ← versionNumber? c.skipSpacing
  if c.rest.head? != some '.' then none
  let (minor, c) ← versionNumber? (c.skip 1)
  return (.version major minor, c)

def tagDirective? (c : Cursor) : Option (Directive × Cursor) := do
  let c := c.skipSpacing
  let handle ← handleOf? c.rest
  if handle != ['!'] && !isWholeHandle handle then none
  let c := c.skip handle.length
  if !(c.rest.head?.any isSpacing) then none
  let c := c.skipSpacing
  let (start, length) ← tagChars? true (c.rest.length + 1) c.rest
  let c := c.skip length
  if length = 0 || !endsWord c.rest then none
  return (.tag handle start, c)

/-- A directive, at its percent sign, up to the end of its line. -/
def directive? (c : Cursor) : Option (Directive × Cursor) := do
  let c := c.skip 1
  let name := c.rest.takeWhile isNameChar
  let c := c.skip name.length
  if name.isEmpty || !endsWord c.rest then none
  let (directive, c) ←
    if name = "YAML".toList then versionDirective? c
    else if name = "TAG".toList then tagDirective? c
    else none
  return (directive, ← c.finishLine?)

end Screenplay.Yaml
