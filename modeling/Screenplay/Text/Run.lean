/-
Runs of characters, the form in which the character tables are kept. A run is
an arithmetic progression of code points, so a block of letters is one run and
so is a block in which upper and lower case alternate. The runs of a table are
listed in order and do not overlap, so a search stops at the first run that
ends at or after the character.
-/
namespace Screenplay.Text

/-- The code points `first`, `first + step`, …, `last`. -/
structure Run where
  first : Nat
  last : Nat
  step : Nat
  deriving Repr, DecidableEq

/-- Whether a run has this code point. -/
def Run.has (r : Run) (n : Nat) : Bool :=
  decide (r.first ≤ n) && decide (n ≤ r.last) && (n - r.first) % r.step == 0

/-- Search in a list of runs in order. -/
def Run.search : List Run → Nat → Bool
  | [], _ => false
  | r :: rs, n => if n ≤ r.last then r.has n else search rs n

/-- The code points of a run, moved so that `first` comes to `image`. -/
structure Shift extends Run where
  image : Nat
  deriving Repr, DecidableEq

/-- Where the table of shifts moves a code point, if it moves it. -/
def Shift.search : List Shift → Nat → Option Nat
  | [], _ => none
  | r :: rs, n =>
    if n ≤ r.last then
      if r.has n then some (r.image + (n - r.first)) else none
    else search rs n

end Screenplay.Text
