/-
The plain values of a TOML document: integers in four bases, floats, truth
values, dates and times. A plain value is read from the longest run of
characters that could belong to one.
-/
import Screenplay.Number.Binary64
import Screenplay.Toml.Basic
import Screenplay.Toml.Text

namespace Screenplay.Toml

open Screenplay.Text (isDigit digitValue?)

/-! ## Numbers -/

/-- The value of digits with single underscores between them. -/
def digits? (base : Nat) (s : List Char) : Option Nat := do
  let groups := s.splitOn '_'
  if groups.any List.isEmpty then none
  else
    let append (value : Option Nat) (c : Char) : Option Nat := do
      return (← value) * base + (← digitValue? base c)
    groups.flatten.foldl append (some 0)

/-- The sign of a number and what follows it. -/
def signed (s : List Char) : Bool × List Char :=
  match s with
  | '-' :: r => (true, r)
  | '+' :: r => (false, r)
  | r => (false, r)

/-- The whole part of a decimal number, without leading zeros. -/
def whole? (s : List Char) : Option Nat :=
  match s with
  | '0' :: _ :: _ => none
  | _ => digits? 10 s

def withSign (negative : Bool) (n : Nat) : Int := if negative then -(n : Int) else n

/-- An integer that fits in 64 bits. -/
def bounded? (n : Int) : Option Toml :=
  if -(Nat.pow 2 63 : Nat) ≤ n ∧ n < (Nat.pow 2 63 : Nat) then some (.integer n) else none

def integer? (s : List Char) : Option Toml :=
  match s with
  | '0' :: 'x' :: r => do bounded? (← digits? 16 r)
  | '0' :: 'o' :: r => do bounded? (← digits? 8 r)
  | '0' :: 'b' :: r => do bounded? (← digits? 2 r)
  | s => do
    let (negative, r) := signed s
    bounded? (withSign negative (← whole? r))

/-- The number of digits among digits and underscores. -/
def digitTotal (s : List Char) : Nat := s.countP isDigit

/-- A decimal number with a fraction, an exponent, or both. -/
def decimal? (s : List Char) : Option Float := do
  let (negative, s) := signed s
  let (mantissa, exponent) := s.span (fun c => c ≠ 'e' && c ≠ 'E')
  let (whole, fraction) := mantissa.span (· ≠ '.')
  if exponent.isEmpty && fraction.isEmpty then none
  else
    let w ← whole? whole
    let (f, places) ← match fraction with
      | [] => some (0, 0)
      | _ :: r => do some (← digits? 10 r, digitTotal r)
    let e ← match exponent with
      | [] => some 0
      | _ :: r => do
        let (negative, r) := signed r
        some (withSign negative (← digits? 10 r))
    return Number.ofDecimal negative (w * Nat.pow 10 places + f) (e - places)

/-- A float; a decimal number beyond the floats is none, unless it is negative. -/
def float? (s : List Char) : Option Toml :=
  let (negative, r) := signed s
  let sign : Float := if negative then -1.0 else 1.0
  if r = ['i', 'n', 'f'] then some (.float (sign / 0.0))
  else if r = ['n', 'a', 'n'] then some (.float (0.0 / 0.0))
  else do
    let x ← decimal? s
    if x == 1.0 / 0.0 then none else some (.float x)

/-! ## Dates and times -/

/-- A number of exactly so many digits. -/
def fixedDigits? (count : Nat) (s : List Char) : Option Nat :=
  if s.length = count && s.all isDigit then digits? 10 s else none

def isLeap (year : Nat) : Bool := year % 4 = 0 && (year % 100 ≠ 0 || year % 400 = 0)

def daysIn (year month : Nat) : Nat :=
  if month = 2 then (if isLeap year then 29 else 28)
  else if [4, 6, 9, 11].contains month then 30
  else 31

def isDate (s : List Char) : Bool :=
  match s.splitOn '-' with
  | [y, m, d] =>
    match fixedDigits? 4 y, fixedDigits? 2 m, fixedDigits? 2 d with
    | some year, some month, some day =>
      1 ≤ month && month ≤ 12 && 1 ≤ day && day ≤ daysIn year month
    | _, _, _ => false
  | _ => false

/-- Two digits up to a most. -/
def isPart (most : Nat) (s : List Char) : Bool := (fixedDigits? 2 s).any (· ≤ most)

def isSeconds (s : List Char) : Bool :=
  match s.splitOn '.' with
  | [whole] => isPart 60 whole
  | [whole, fraction] => isPart 60 whole && !fraction.isEmpty && fraction.all isDigit
  | _ => false

def isTime (s : List Char) : Bool :=
  match s.splitOn ':' with
  | [hour, minute, second] => isPart 23 hour && isPart 59 minute && isSeconds second
  | _ => false

/-- The distance from universal time. -/
def isOffset (s : List Char) : Bool :=
  match s with
  | ['Z'] | ['z'] => true
  | c :: r =>
    (c = '+' || c = '-') &&
      match r.splitOn ':' with
      | [hour, minute] => isPart 23 hour && isPart 59 minute
      | _ => false
  | [] => false

def isOffsetStart (c : Char) : Bool := c = 'Z' || c = 'z' || c = '+' || c = '-'

def isTimeWithOffset (s : List Char) : Bool :=
  let (time, offset) := s.span (!isOffsetStart ·)
  isTime time && (offset.isEmpty || isOffset offset)

/-- A date with a time, divided by a letter. -/
def isDateTime (s : List Char) : Bool :=
  let (date, time) := s.span (fun c => c ≠ 'T' && c ≠ 't')
  isDate date && isTimeWithOffset (time.drop 1)

def moment? (s : List Char) : Option Toml :=
  if isDate s || isTime s || isDateTime s then some .moment else none

/-! ## Plain values -/

def isWordChar (c : Char) : Bool :=
  Text.isAsciiLetter c || isDigit c || c = '_' || c = '-' || c = '+' || c = '.' || c = ':'

/-- The value of a word. -/
def ofWord? (s : List Char) : Option Toml :=
  if s = "true".toList then some (.boolean true)
  else if s = "false".toList then some (.boolean false)
  else (moment? s).or ((float? s).or (integer? s))

/-- A plain value. A space may divide a date from its time. -/
def scalar? (s : List Char) : Option (Toml × List Char) := do
  let word := s.takeWhile isWordChar
  let rest := s.dropWhile isWordChar
  let value ← ofWord? word
  match rest with
  | ' ' :: r =>
    if isDate word && isTimeWithOffset (r.takeWhile isWordChar) then
      return (.moment, r.dropWhile isWordChar)
    else return (value, rest)
  | _ => return (value, rest)

end Screenplay.Toml
