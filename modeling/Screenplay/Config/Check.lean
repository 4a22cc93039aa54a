/-
Settings that no part of the program can work with. Each fault is a test that a
setting fails; comparisons are those of floats, so a number that is none fails
the range of the threshold and passes the tests for being too small.
-/
import Screenplay.Config.Basic
import Screenplay.Number.Format

namespace Screenplay

inductive ConfigFault
  | thresholdRange (threshold : Float)
  | emptyModel (tier : Tier)
  | negativeRate (tier : Tier)
  | noAttempts
  | shrinkingBackoff
  | noTimeout
  | noConcurrency
  deriving Repr

namespace ConfigFault

def text : ConfigFault → String
  | thresholdRange x =>
    "selection.default_threshold must be within [0, 1], got " ++ Number.decimalText x
  | emptyModel t => "pricing." ++ t.name ++ ".model is empty"
  | negativeRate t => "pricing." ++ t.name ++ " rates must not be negative"
  | noAttempts => "retry.max_attempts must be at least 1"
  | shrinkingBackoff => "retry.multiplier must be at least 1.0"
  | noTimeout => "request.timeout_secs must be positive"
  | noConcurrency => "batch.concurrency must be positive"

def message (f : ConfigFault) : String := "Invalid configuration: " ++ f.text

end ConfigFault

namespace Config

/-- The faults of the rates of one tier. -/
def rateFaults (tier : Tier) (r : Rates) : List ConfigFault :=
  (if Text.isVacant r.model then [.emptyModel tier] else []) ++
    (if r.input < 0.0 || r.output < 0.0 then [.negativeRate tier] else [])

/-- All faults, in the order of the settings. -/
def faults (c : Config) : List ConfigFault :=
  (if 0.0 <= c.threshold && c.threshold <= 1.0 then [] else [.thresholdRange c.threshold]) ++
    rateFaults .fast c.pricing.fast ++
    rateFaults .capable c.pricing.capable ++
    (if c.retry.maxAttempts = 0 then [.noAttempts] else []) ++
    (if c.retry.multiplier < 1.0 then [.shrinkingBackoff] else []) ++
    (if c.request.timeout = 0 then [.noTimeout] else []) ++
    (if c.concurrency = 0 then [.noConcurrency] else [])

/-- The settings, or the first fault of them. -/
def check (c : Config) : Except ConfigFault Config :=
  match c.faults with
  | [] => .ok c
  | f :: _ => .error f

end Config

end Screenplay
