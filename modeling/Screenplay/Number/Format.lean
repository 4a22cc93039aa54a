/-
How numbers are written. A float is written in one of three ways: with all its
shortest digits and a point, without ever an exponent (`decimalText`); with an
exponent where it is very large or very small (`literal`); and with a fixed
number of places, the exact value rounded, a tie to the even digit (`fixed`), as
the amounts that a reader is shown are.
-/
import Screenplay.Number.Shortest
import Screenplay.Text.Basic

namespace Screenplay.Number

open Screenplay.Text (repeated)

/-- A float that is no number, or infinite. -/
def special? (x : Float) : Option String :=
  if x.isNaN then some "NaN"
  else if x.isInf then some (if x < 0.0 then "-inf" else "inf")
  else none

/-- Digits with the point after `whole` of them, zeros filled in on both sides. -/
def withPoint (digits : String) (whole : Int) : String × String :=
  if whole ≤ 0 then ("0", repeated '0' (-whole).toNat ++ digits)
  else if (digits.length : Int) ≤ whole then
    (digits ++ repeated '0' (whole - digits.length).toNat, "")
  else
    (.ofList (digits.toList.take whole.toNat), .ofList (digits.toList.drop whole.toNat))

def signText (x : Float) : String := if isNegative x then "-" else ""

/-- The shortest digits of a float and the place of its point. -/
def digitsOf (tie : Tie) (x : Float) : String × Int :=
  let b := Binary.of x
  if b.significand = 0 then ("0", 1)
  else
    let d := shortest tie b
    let digits := toString d.digits
    (digits, digits.length + d.exponent)

/-- The shortest digits without an exponent: `1`, `0.000001`, `-2.5`. -/
def decimalText (x : Float) : String :=
  (special? x).getD <|
    let (digits, point) := digitsOf .up x
    let (whole, places) := withPoint digits point
    signText x ++ whole ++ if places.isEmpty then "" else "." ++ places

/-- How a number literal writes an exponent that is not negative. -/
structure ExponentStyle where
  plus : String

/-- A literal that always shows a point or an exponent. From `0.00001` up to
sixteen digits before the point it is positional. -/
def literalWith (style : ExponentStyle) (x : Float) : String :=
  (special? x).getD <|
    let (digits, point) := digitsOf .toEven x
    if -5 < point && point ≤ 16 then
      let (whole, places) := withPoint digits point
      signText x ++ whole ++ "." ++ if places.isEmpty then "0" else places
    else
      let (whole, places) := withPoint digits 1
      let power := point - 1
      let exponent := if power < 0 then toString power else style.plus ++ toString power
      signText x ++ whole ++ (if places.isEmpty then "" else "." ++ places) ++ "e" ++ exponent

/-- The literal of a JSON document: `1.0`, `1e+16`, `1.5e-7`. -/
def literal (x : Float) : String := literalWith ⟨"+"⟩ x

/-- A fixed number of places. -/
def fixed (places : Nat) (x : Float) : String :=
  (special? x).getD <|
    let b := Binary.of x
    let (num, den) := gridRatio b.significand b.exponent (-(places : Int))
    let scaledValue := divToEven num den
    let digits := toString scaledValue
    let digits := repeated '0' (places + 1 - digits.length) ++ digits
    let (whole, rest) := withPoint digits ((digits.length : Int) - places)
    signText x ++ whole ++ if places = 0 then "" else "." ++ rest

/-! ## Amounts -/

/-- Dollars with four places. -/
def dollars (amount : Float) : String := "$" ++ fixed 4 amount

/-- A fraction as a percentage with one place. -/
def percent (fraction : Float) : String := fixed 1 (fraction * 100.0) ++ "%"

end Screenplay.Number
