/-
The shortest decimal of a float: of the decimals that read back as the float,
those with the fewest digits, and of these the nearest. The search goes through
the decimal grids from coarse to fine. On each it looks at the two neighbours
of the float; the first grid with a neighbour inside the interval that rounds
to the float gives the answer. Should both neighbours lie inside at the same
distance, the caller says which one counts.
-/
import Screenplay.Number.Binary64

namespace Screenplay.Number

/-- The value `digits · 10 ^ exponent`. -/
structure Decimal where
  digits : Nat
  exponent : Int
  deriving Repr, DecidableEq

/-- Which of two decimals at the same distance to take. -/
inductive Tie
  | toEven
  | up
  deriving Repr, DecidableEq

/-- `n · 2 ^ binary / 10 ^ decimal` as a fraction. -/
def gridRatio (n : Nat) (binary decimal : Int) : Nat × Nat :=
  (n * Nat.pow 2 binary.toNat * Nat.pow 10 (-decimal).toNat,
    Nat.pow 2 (-binary).toNat * Nat.pow 10 decimal.toNat)

/-- The neighbour of the float on the grid `10 ^ k` that rounds to the float. -/
def neighbour? (tie : Tie) (b : Binary) (k : Int) : Option Nat :=
  let quarters := b.exponent - 2
  let (value, unit) := gridRatio (4 * b.significand) quarters k
  let (below, _) := gridRatio (4 * b.significand - if b.atBinade then 1 else 2) quarters k
  let (above, _) := gridRatio (4 * b.significand + 2) quarters k
  let closed := b.significand % 2 == 0
  let inside (d : Nat) : Bool :=
    if closed then below ≤ d * unit && d * unit ≤ above else below < d * unit && d * unit < above
  let down := value / unit
  let up := down + 1
  let downInside := 0 < down && inside down
  let upInside := inside up
  if downInside && upInside then
    let fromDown := value - down * unit
    let fromUp := up * unit - value
    if fromDown < fromUp then some down
    else if fromUp < fromDown then some up
    else match tie with
      | .toEven => some (if down % 2 = 0 then down else up)
      | .up => some up
  else if downInside then some down
  else if upInside then some up
  else none

/-- Drops the zeros at the end of the digits. -/
def Decimal.stripped : Nat → Decimal → Decimal
  | 0, d => d
  | fuel + 1, d =>
    if d.digits ≠ 0 ∧ d.digits % 10 = 0 then stripped fuel ⟨d.digits / 10, d.exponent + 1⟩ else d

/-- The shortest decimal of a float that is neither zero nor negative. -/
def shortest (tie : Tie) (b : Binary) : Decimal :=
  let top : Int := ((bitLength b.significand : Int) + b.exponent) * 30103 / 100000 + 2
  let found := (List.range 24).findSome? fun (i : Nat) =>
    let k := top - i
    (neighbour? tie b k).map fun d => (⟨d, k⟩ : Decimal)
  let d := found.getD ⟨b.significand, b.exponent⟩
  d.stripped (digitCount d.digits)

end Screenplay.Number
