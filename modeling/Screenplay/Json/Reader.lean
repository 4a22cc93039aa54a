/-
Reading JSON text. A fraction is read the quick way: the digits that fit in 64
bits as a float, times or divided by a power of ten, so the last bit may differ
from the nearest float.
-/
import Screenplay.Json.Basic
import Screenplay.Number.Binary64

namespace Screenplay.Json

open Screenplay.Text (isDigit digitValue?)
open Screenplay.Number (ofDecimal)

/-- The nesting that a value may have. -/
def nestingLimit : Nat := 128

def isSpace (c : Char) : Bool := c == ' ' || c == '\n' || c == '\t' || c == '\r'

def skipSpace (s : List Char) : List Char := s.dropWhile isSpace

/-! ## Texts -/

def hex4? (a b c d : Char) : Option Nat := do
  let a ← digitValue? 16 a
  let b ← digitValue? 16 b
  let c ← digitValue? 16 c
  let d ← digitValue? 16 d
  return ((a * 16 + b) * 16 + c) * 16 + d

def isHighHalf (n : Nat) : Bool := 0xD800 ≤ n && n ≤ 0xDBFF

def isLowHalf (n : Nat) : Bool := 0xDC00 ≤ n && n ≤ 0xDFFF

def plainEscape? : Char → Option Char
  | '"' => some '"'
  | '\\' => some '\\'
  | '/' => some '/'
  | 'b' => some '\x08'
  | 'f' => some '\x0c'
  | 'n' => some '\n'
  | 'r' => some '\r'
  | 't' => some '\t'
  | _ => none

/-- The rest of a text after its opening quote, and what follows it. The text is
`none` when an escape names half of a surrogate pair. -/
def readText (done : List Char) (whole : Bool) : List Char → Option (Option String × List Char)
  | [] => none
  | '"' :: r => some (if whole then some (.ofList done.reverse) else none, r)
  | '\\' :: 'u' :: a :: b :: c :: d :: '\\' :: 'u' :: e :: f :: g :: h :: r =>
    match hex4? a b c d, hex4? e f g h with
    | some high, some low =>
      if isHighHalf high && isLowHalf low then
        readText (Char.ofNat (0x10000 + (high - 0xD800) * 0x400 + (low - 0xDC00)) :: done) whole r
      else if isHighHalf high || isLowHalf high then
        readText done false ('\\' :: 'u' :: e :: f :: g :: h :: r)
      else readText (Char.ofNat high :: done) whole ('\\' :: 'u' :: e :: f :: g :: h :: r)
    | _, _ => none
  | '\\' :: 'u' :: a :: b :: c :: d :: r =>
    match hex4? a b c d with
    | some n =>
      if isHighHalf n || isLowHalf n then readText done false r
      else readText (Char.ofNat n :: done) whole r
    | none => none
  | '\\' :: c :: r =>
    match plainEscape? c with
    | some x => readText (x :: done) whole r
    | none => none
  | c :: r => if c < ' ' then none else readText (c :: done) whole r

/-! ## Numbers -/

def largestNatural : Nat := Nat.pow 2 64 - 1

/-- Adds digits to a number as long as it stays within 64 bits. -/
def takeDigits (n : Nat) : List Char → Nat × List Char
  | [] => (n, [])
  | c :: r =>
    let next := n * 10 + (c.toNat - '0'.toNat)
    if next ≤ largestNatural then takeDigits next r else (n, c :: r)

/-- Multiplies or divides by a power of ten; `none` when the result is too large. -/
def scaleByTen : Nat → Float → Int → Option Float
  | 0, x, _ => some x
  | fuel + 1, x, e =>
    if e.natAbs ≤ 308 then
      let power := ofDecimal false 1 e.natAbs
      if 0 ≤ e then
        let y := x * power
        if y.isInf then none else some y
      else some (x / power)
    else if x == 0.0 then some x
    else if 0 ≤ e then none
    else scaleByTen fuel (x / ofDecimal false 1 308) (e + 308)

def natural (digits : List Char) : Nat :=
  digits.foldl (fun n c => n * 10 + (c.toNat - '0'.toNat)) 0

def clampExponent (e : Int) : Int := max (-(Nat.pow 2 31 : Nat)) (min e (Nat.pow 2 31 - 1 : Nat))

/-- The float of a literal with these digits before and after the point. -/
def floatOf (negative : Bool) (whole places : List Char) (power : Int) : Option Float := do
  let (n, dropped) := takeDigits 0 whole
  let (significand, unread) := takeDigits n places
  let shift : Int := dropped.length - (places.length - unread.length : Nat)
  let magnitude ←
    if Nat.pow 2 31 ≤ power.natAbs then
      if significand ≠ 0 ∧ 0 < power then none else some 0.0
    else scaleByTen 8 significand.toUInt64.toFloat (clampExponent (shift + power))
  return if negative then -magnitude else magnitude

/-- The integer of a literal without point and exponent, if 64 bits hold it. -/
def integerOf? (negative : Bool) (digits : List Char) : Option Int :=
  let n := natural digits
  if negative then if n = 0 ∨ Nat.pow 2 63 < n then none else some (-(n : Int))
  else if n ≤ largestNatural then some n else none

/-- A number and what follows it. -/
def readNumber (s : List Char) : Option (Json × List Char) := do
  let (negative, s) := match s with
    | '-' :: r => (true, r)
    | r => (false, r)
  let (whole, s) := s.span isDigit
  guard (!whole.isEmpty && (whole.length == 1 || whole.head? != some '0'))
  let (places, s) ← match s with
    | '.' :: r =>
      let (digits, r) := r.span isDigit
      if digits.isEmpty then none else some (some digits, r)
    | r => some (none, r)
  let exponent (r : List Char) : Option (Option Int × List Char) :=
    let (down, r) := match r with
      | '+' :: r => (false, r)
      | '-' :: r => (true, r)
      | r => (false, r)
    let (digits, r) := r.span isDigit
    if digits.isEmpty then none
    else
      let n : Int := natural digits
      some (some (if down then -n else n), r)
  let (power, s) ← match s with
    | 'e' :: r => exponent r
    | 'E' :: r => exponent r
    | r => some (none, r)
  let integer? := if places.isNone && power.isNone then integerOf? negative whole else none
  match integer? with
  | some n => return (.int n, s)
  | none =>
    match floatOf negative whole (places.getD []) (power.getD 0) with
    | some x => return (.float x, s)
    | none => return (.unusable, s)

/-! ## Values -/

def expect (word : String) (value : Json) (s : List Char) : Option (Json × List Char) :=
  if word.toList.isPrefixOf s then some (value, s.drop word.length) else none

mutual

/-- A value and what follows it. -/
def readValue : Nat → List Char → Option (Json × List Char)
  | 0, _ => none
  | fuel + 1, s =>
    match skipSpace s with
    | 'n' :: r => expect "ull" .null r
    | 't' :: r => expect "rue" (.bool true) r
    | 'f' :: r => expect "alse" (.bool false) r
    | '"' :: r => do
      let (text, r) ← readText [] true r
      return (text.elim .unusable .string, r)
    | '[' :: r =>
      match skipSpace r with
      | ']' :: r => some (.array [], r)
      | r => readItems fuel [] r
    | '{' :: r =>
      match skipSpace r with
      | '}' :: r => some (.object [], r)
      | r => readMembers fuel [] true r
    | r => readNumber r

/-- The items of an array that is open, up to its closing bracket. -/
def readItems : Nat → List Json → List Char → Option (Json × List Char)
  | 0, _, _ => none
  | fuel + 1, done, s => do
    let (item, r) ← readValue fuel s
    match skipSpace r with
    | ',' :: r => readItems fuel (item :: done) r
    | ']' :: r => return (.array (item :: done).reverse, r)
    | _ => none

/-- The members of an object that is open, up to its closing brace. -/
def readMembers : Nat → List (String × Json) → Bool → List Char → Option (Json × List Char)
  | 0, _, _, _ => none
  | fuel + 1, done, named, s =>
    match skipSpace s with
    | '"' :: r => do
      let (name, r) ← readText [] true r
      match skipSpace r with
      | ':' :: r => do
        let (value, r) ← readValue fuel r
        let done := (name.getD "", value) :: done
        let named := named && name.isSome
        match skipSpace r with
        | ',' :: r => readMembers fuel done named r
        | '}' :: r => return (if named then .object done.reverse else .unusable, r)
        | _ => none
      | _ => none
    | _ => none

end

/-- The value of a whole text. -/
def parse? (text : String) : Option Json := do
  let s := text.toList
  let (value, rest) ← readValue (s.length + 1) s
  if (skipSpace rest).isEmpty then some value else none

/-- The value of a whole text, held in memory as such. -/
def document? (text : String) : Option Json := do
  let value ← parse? text
  if value.usable nestingLimit then some value.canonical else none

end Screenplay.Json
