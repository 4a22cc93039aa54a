/-
The finite double-precision floats as `± significand · 2 ^ exponent`, taken
apart from their bits and put together again. `ofRatio` rounds a fraction of
two naturals to the nearest float, a tie to the even significand, and
`ofDecimal` does so for a decimal. Rounding is done in exact arithmetic, so a
decimal with any number of digits is read correctly.
-/
namespace Screenplay.Number

/-- A finite float that is not negative: `significand · Nat.pow 2 exponent`. -/
structure Binary where
  significand : Nat
  exponent : Int
  deriving Repr, DecidableEq

/-- The sign bit. -/
def isNegative (x : Float) : Bool := x.toBits >>> 63 == 1

/-- The absolute value of a finite float. -/
def Binary.of (x : Float) : Binary :=
  let bits := x.toBits.toNat % Nat.pow 2 63
  let fraction : Nat := bits % Nat.pow 2 52
  let biased : Nat := bits / Nat.pow 2 52
  if biased = 0 then ⟨fraction, -1074⟩ else ⟨Nat.pow 2 52 + fraction, (biased : Int) - 1075⟩

/-- Below this value a step is half of the step above it. -/
def Binary.atBinade (b : Binary) : Bool := b.significand == Nat.pow 2 52 && b.exponent != -1074

/-- The quotient to the nearest natural, a tie to the even one. -/
def divToEven (num den : Nat) : Nat :=
  let q := num / den
  let r := num % den
  if 2 * r < den then q
  else if den < 2 * r then q + 1
  else if q % 2 = 0 then q else q + 1

/-- The numerator and the denominator of `num / den · 2 ^ -shift`. -/
def scaled (num den : Nat) (shift : Int) : Nat × Nat :=
  if shift < 0 then (num * Nat.pow 2 (-shift).toNat, den) else (num, den * Nat.pow 2 shift.toNat)

/-- The number of binary digits. -/
def bitLength (n : Nat) : Nat := if n = 0 then 0 else n.log2 + 1

/-- The float nearest to a fraction, infinite when the fraction is too large. -/
def ofRatio (negative : Bool) (num den : Nat) : Float :=
  let guess : Int := (bitLength num : Int) - (bitLength den : Int) - 53
  let exponentOf (e : Int) : Int := max e (-1074)
  let e₀ := exponentOf guess
  let (n₀, d₀) := scaled num den e₀
  let e := if n₀ / d₀ < Nat.pow 2 53 then e₀ else e₀ + 1
  let (n, d) := scaled num den e
  let m := divToEven n d
  let (m, e) := if m = Nat.pow 2 53 then (Nat.pow 2 52, e + 1) else (m, e)
  let sign : Nat := if negative then Nat.pow 2 63 else 0
  let magnitude : Nat :=
    if m < Nat.pow 2 52 then m
    else if 971 < e then 2047 * Nat.pow 2 52
    else (e + 1075).toNat * Nat.pow 2 52 + (m - Nat.pow 2 52)
  Float.ofBits (sign + magnitude).toUInt64

/-- The number of decimal digits. -/
def digitCount (n : Nat) : Nat := (Nat.toDigits 10 n).length

/-- The float nearest to `± digits · 10 ^ exponent`. -/
def ofDecimal (negative : Bool) (digits : Nat) (exponent : Int) : Float :=
  let size : Int := digitCount digits + exponent
  if digits = 0 ∨ size < -400 then (if negative then -0.0 else 0.0)
  else if 400 < size then (if negative then -(1.0 / 0.0) else 1.0 / 0.0)
  else if exponent < 0 then ofRatio negative digits (Nat.pow 10 (-exponent).toNat)
  else ofRatio negative (digits * Nat.pow 10 exponent.toNat) 1

end Screenplay.Number
