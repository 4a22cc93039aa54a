/-
Calling again after a fault. Between two calls there is a pause that grows by a
factor from one to the next, up to a most; the calls end with a completion, with
a fault that another try cannot help, or with the last one allowed.
-/
import Screenplay.Config.Basic
import Screenplay.Generation.Cost
import Screenplay.Generation.Dialogue

namespace Screenplay

/-! ## Pauses -/

/-- The product of `result` and the powers of `base` that the binary digits of
`exponent` name, the lowest first. -/
def multiplyPowers (result base : Float) (exponent : Nat) : Float :=
  let result := if exponent % 2 = 1 then result * base else result
  if h : exponent < 2 then result
  else multiplyPowers result (base * base) (exponent / 2)
termination_by exponent

/-- A whole power, by repeated squaring. -/
def power (base : Float) (exponent : Int) : Float :=
  let p := multiplyPowers 1.0 base exponent.natAbs
  if exponent < 0 then 1.0 / p else p

/-- The smaller of two floats; one that is no number does not count. -/
def lesser (x y : Float) : Float :=
  if x.isNaN then y else if y.isNaN then x else if y < x then y else x

/-- The whole part of a float, within zero and the largest of 64 bits. -/
def wholePart (x : Float) : Nat := x.toUInt64.toNat

/-- How many milliseconds to wait before the given retry, the first being 1. The
exponent is held in 32 bits with a sign, and runs over to the negative after
`2 ^ 31` retries. -/
def RetryPolicy.backoff (p : RetryPolicy) (retry : Nat) : Nat :=
  let exponent : Int := Int.bmod (retry - 1 : Nat) (Nat.pow 2 32)
  wholePart (lesser (Float.ofNat p.initialBackoff * power p.multiplier exponent)
    (Float.ofNat p.maxBackoff))

/-! ## Failures -/

/-- Why there is no code for a case. -/
structure Failure where
  kind : FaultKind
  message : String
  retryable : Bool
  /-- The calls that were made. -/
  attempts : Nat
  /-- What the answer has cost, if there was one that could not be used. -/
  usage : Option Usage
  deriving Repr

/-- The failure after so many calls, the last of which had this fault. -/
def Failure.ofFault (f : Fault) (attempts : Nat) : Failure :=
  ⟨f.kind, f.message, f.retryable, attempts, none⟩

def Failure.cost (f : Failure) : Float := f.usage.elim 0.0 (·.cost)

/-! ## Calls -/

namespace RetryPolicy

/-- How often a call is made at most. -/
def limit (p : RetryPolicy) : Nat := max 1 p.maxAttempts

/-- Makes a call that was made `made` times before and may be made `left` times
after. -/
def callFrom (p : RetryPolicy) (timeout : Nat) (call : Call) (left made : Nat) :
    Dialogue (Except Failure (Completion × Nat)) :=
  .ask call timeout fun outcome =>
    match outcome with
    | .ok completion => .done (.ok (completion, made + 1))
    | .error fault =>
      match left with
      | 0 => .done (.error (.ofFault fault (made + 1)))
      | left + 1 =>
        if fault.retryable then
          .pause (p.backoff (made + 1)) (callFrom p timeout call left (made + 1))
        else .done (.error (.ofFault fault (made + 1)))

/-- Makes a call until it succeeds, fails for good, or was made often enough. The
result is the completion with the number of calls. -/
def persist (p : RetryPolicy) (timeout : Nat) (call : Call) :
    Dialogue (Except Failure (Completion × Nat)) :=
  p.callFrom timeout call (p.limit - 1) 0

end RetryPolicy

end Screenplay
