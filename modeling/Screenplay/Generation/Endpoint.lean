/-
Which addresses a call can be sent to: those of the web, with a host and a port
that are well formed. Blanks around an address and line breaks and tabs in it do
not count, and any number of slashes may stand before the host.
-/
import Screenplay.Text.Basic

namespace Screenplay.Endpoint

/-! ## Numbers -/

/-- The number that the digits of a base write; no digits write zero. -/
def number? (base : Nat) (digits : List Char) : Option Nat :=
  digits.foldl (fun n c => do return (← n) * base + (← Text.digitValue? base c)) (some 0)

/-- A part of a numeric host: decimal, or octal or hexadecimal by its mark. -/
def hostNumber? (s : List Char) : Option Nat :=
  match s with
  | [] => none
  | '0' :: 'x' :: r | '0' :: 'X' :: r => number? 16 r
  | '0' :: r => number? 8 r
  | s => number? 10 s

/-- The parts between the points of a host; a point at its end does not count. -/
def labels (host : List Char) : List (List Char) :=
  let parts := host.splitOn '.'
  if 1 < parts.length && parts.getLast? == some [] then parts.dropLast else parts

/-- Whether a host has to be read as a number. -/
def endsInNumber (host : List Char) : Bool :=
  match (labels host).getLast? with
  | some last =>
    !last.isEmpty && (last.all Text.isDigit ||
      match last with
      | '0' :: 'x' :: _ | '0' :: 'X' :: _ => (hostNumber? last).isSome
      | _ => false)
  | none => false

/-- A host of at most four numbers, the last of which fills what is left. -/
def isFourBytes (host : List Char) : Bool :=
  let parts := labels host
  match parts.mapM hostNumber? with
  | some numbers =>
    numbers.length ≤ 4 && (numbers.dropLast.all (· ≤ 255)) &&
      numbers.getLast?.any (· < Nat.pow 256 (5 - numbers.length))
  | none => false

/-! ## Hosts in brackets -/

def isGroup (s : List Char) : Bool :=
  !s.isEmpty && s.length ≤ 4 && s.all fun c => (Text.digitValue? 16 c).isSome

/-- Four decimal bytes, each without leading zeros. -/
def isDotted (s : List Char) : Bool :=
  let parts := s.splitOn '.'
  parts.length = 4 && parts.all fun p =>
    !p.isEmpty && p.all Text.isDigit && (p.length = 1 || p.head? != some '0') &&
      (number? 10 p).any (· ≤ 255)

/-- How many groups of an address there are; four bytes at its end count as two. -/
def groupCount? (mayEndDotted : Bool) (s : List Char) : Option Nat :=
  if s.isEmpty then some 0
  else
    let parts := s.splitOn ':'
    if parts.all isGroup then some parts.length
    else if mayEndDotted && parts.dropLast.all isGroup && parts.getLast?.any isDotted then
      some (parts.length + 1)
    else none

/-- Eight groups, of which two colons may stand for one or more. -/
def isBracketed (s : List Char) : Bool :=
  match Text.cut [':', ':'] s with
  | some (front, back) =>
    match groupCount? false front, groupCount? true back with
    | some a, some b => a + b ≤ 7
    | _, _ => false
  | none => groupCount? true s == some 8

/-! ## Hosts -/

/-- Characters by number put in for what is written. -/
def percentDecoded : Nat → List Char → List Char
  | 0, s => s
  | fuel + 1, s =>
    match s with
    | '%' :: a :: b :: r =>
      match number? 16 [a, b] with
      | some n => (if n < 0x80 then Char.ofNat n else '\ufffd') :: percentDecoded fuel r
      | none => '%' :: percentDecoded fuel (a :: b :: r)
    | c :: r => c :: percentDecoded fuel r
    | [] => []

/-- A character that no name of a host has. -/
def isForbidden (c : Char) : Bool :=
  c ≤ ' ' || c = '\x7f' || ("#/:<>?@[\\]^|%".toList).contains c

def isHost (s : List Char) : Bool :=
  match s with
  | [] => false
  | '[' :: r => r.getLast? == some ']' && isBracketed r.dropLast
  | s =>
    let host := percentDecoded s.length s
    !host.isEmpty && !host.any isForbidden && (!endsInNumber host || isFourBytes host)

def isPort (s : List Char) : Bool := s.all Text.isDigit && (number? 10 s).any (· < 65536)

/-- The host of an authority and its port, which may be missing. -/
def hostAndPort (s : List Char) : List Char × List Char :=
  match s with
  | '[' :: _ =>
    let (host, r) := s.span (· ≠ ']')
    (host ++ r.take 1, r.drop 1)
  | s => s.span (· ≠ ':')

/-- What follows the last at sign, if there is one. -/
def afterUser (s : List Char) : List Char := (s.reverse.takeWhile (· ≠ '@')).reverse

def isAuthority (s : List Char) : Bool :=
  let (host, rest) := hostAndPort (afterUser s)
  isHost host &&
    match rest with
    | [] => true
    | c :: port => c = ':' && isPort port

/-! ## Addresses -/

def isSlash (c : Char) : Bool := c = '/' || c = '\\'

def endsAuthority (c : Char) : Bool := isSlash c || c = '?' || c = '#'

/-- An address without what does not count in it. -/
def cleaned (address : List Char) : List Char :=
  let inner := ((address.dropWhile (· ≤ ' ')).reverse.dropWhile (· ≤ ' ')).reverse
  inner.filter fun c => !(c = '\t' || c = '\n' || c = '\r')

/-- Whether calls can be sent to an address. -/
def isValid (address : String) : Bool :=
  let (scheme, rest) := (cleaned address.toList).span (· ≠ ':')
  let name := String.ofList (scheme.map Char.toLower)
  (name = "http" || name = "https") && !rest.isEmpty &&
    isAuthority (((rest.drop 1).dropWhile isSlash).takeWhile (!endsAuthority ·))

end Screenplay.Endpoint
