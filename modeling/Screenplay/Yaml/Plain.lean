/-
What a plain text stands for: nothing, a truth value, an integer, a float, or
the text itself.
-/
import Screenplay.Number.Binary64
import Screenplay.Text.Basic

namespace Screenplay.Yaml

/-- What a plain text stands for. -/
inductive Plain
  | null
  | bool (b : Bool)
  | integer (n : Int)
  | float (x : Float)
  | text
  deriving Repr

namespace Plain

def isNull (s : String) : Bool := ["null", "Null", "NULL", "~"].contains s

def bool? (s : String) : Option Bool :=
  if ["true", "True", "TRUE"].contains s then some true
  else if ["false", "False", "FALSE"].contains s then some false
  else none

/-! ## Numbers -/

def isSign (c : Char) : Bool := c = '+' || c = '-'

def startsSigned (s : List Char) : Bool := s.head?.any isSign

/-- Digits after a zero are no number. -/
def isPaddedDigits (s : List Char) : Bool :=
  let digits := if startsSigned s then s.drop 1 else s
  match digits with
  | '0' :: c :: r => (c :: r).all Text.isDigit
  | _ => false

/-- The number that digits of a base write; there is at least one digit. -/
def natural? (base : Nat) (digits : List Char) : Option Nat :=
  if digits.isEmpty then none
  else digits.foldl (fun n c => do return (← n) * base + (← Text.digitValue? base c)) (some 0)

/-- An integer with a sign, which one after the mark of a base is not. -/
def signed? (base : Nat) (digits : List Char) : Option Int :=
  match digits with
  | '+' :: r => (natural? base r).map Int.ofNat
  | '-' :: r => (natural? base r).map fun n => -(n : Int)
  | r => (natural? base r).map Int.ofNat

/-- The base that a mark names, with the digits after it. -/
def based? (s : List Char) : Option (Nat × List Char) :=
  match s with
  | '0' :: 'x' :: r => some (16, r)
  | '0' :: 'o' :: r => some (8, r)
  | '0' :: 'b' :: r => some (2, r)
  | _ => none

def unsigned? (s : List Char) : Option Int :=
  let digits := match s with
    | '+' :: r => r
    | r => r
  let marked := do
    let (base, r) ← based? digits
    return Int.ofNat (← natural? base r)
  marked.or (if startsSigned digits || isPaddedDigits s then none else signed? 10 digits)

def negative? (s : List Char) : Option Int :=
  match s with
  | '-' :: r =>
    let marked := do
      let (base, r) ← based? r
      return -Int.ofNat (← natural? base r)
    marked.or (if isPaddedDigits s then none else signed? 10 s)
  | _ => none

/-- An integer of at most 128 bits. -/
def integer? (s : List Char) : Option Int :=
  ((unsigned? s).filter fun n : Int => n < (Nat.pow 2 128 : Nat)).or
    ((negative? s).filter fun n : Int => -(Nat.pow 2 127 : Nat) ≤ n)

/-- A decimal number: digits, perhaps with a point among them, and perhaps an
exponent. -/
def decimal? (s : List Char) : Option Float := do
  let isNegative := s.head? == some '-'
  let s := if startsSigned s then s.drop 1 else s
  let (mantissa, exponent) := s.span (fun c => c ≠ 'e' && c ≠ 'E')
  let (whole, fraction) := mantissa.span (· ≠ '.')
  let places := fraction.drop 1
  let digits ← natural? 10 (whole ++ places)
  let e ← match exponent with
    | [] => some 0
    | _ :: r => signed? 10 r
  let x := Number.ofDecimal isNegative digits (e - places.length)
  if x.isFinite then some x else none

def float? (s : List Char) : Option Float :=
  let t := match s with
    | '+' :: r => r
    | r => r
  if s.head? == some '+' && startsSigned t then none
  else if [".inf", ".Inf", ".INF"].contains (String.ofList t) then some (1.0 / 0.0)
  else if ["-.inf", "-.Inf", "-.INF"].contains (String.ofList s) then some (-1.0 / 0.0)
  else if [".nan", ".NaN", ".NAN"].contains (String.ofList s) then some (0.0 / 0.0)
  else decimal? t

/-- What a plain text stands for. -/
def ofString (s : String) : Plain :=
  if s.isEmpty || isNull s then .null
  else match bool? s with
    | some b => .bool b
    | none =>
      match integer? s.toList with
      | some n => .integer n
      | none =>
        if isPaddedDigits s.toList then .text
        else match float? s.toList with
          | some x => .float x
          | none => .text

end Plain

end Screenplay.Yaml
