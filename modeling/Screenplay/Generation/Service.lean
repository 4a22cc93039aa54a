/-
The service that completes prompts, as the program sees it: it is called, and it
answers after some time, with a completion or with a fault. A fault is of one
of five kinds, and some faults are worth another try.
-/
import Screenplay.Text.Basic

namespace Screenplay

structure Call where
  model : String
  prompt : String
  maxTokens : Nat
  key : String
  deriving Repr, DecidableEq

structure Completion where
  text : String
  inputTokens : Nat
  outputTokens : Nat
  deriving Repr, DecidableEq

inductive FaultKind
  | credential
  | rateLimit
  | provider
  | timeout
  | unknown
  deriving Repr, DecidableEq

def FaultKind.name : FaultKind → String
  | credential => "credential"
  | rateLimit => "rate_limit"
  | provider => "provider"
  | timeout => "timeout"
  | unknown => "unknown"

/-- What kept the service from completing a prompt. -/
inductive Fault
  /-- An answer with a status other than success. -/
  | status (code : Nat) (body : String)
  | timeout
  | transport (reason : String)
  /-- The call could not be written as a request. -/
  | request (reason : String)
  /-- The answer could not be read. -/
  | decode (reason : String)
  deriving Repr, DecidableEq

namespace Fault

def message : Fault → String
  | status code body => "provider returned status " ++ toString code ++ ": " ++ body
  | timeout => "request timed out"
  | transport reason => "transport error: " ++ reason
  | request reason => "malformed request: " ++ reason
  | decode reason => "could not decode provider response: " ++ reason

def isServerError (code : Nat) : Bool := 500 ≤ code && code ≤ 599

def kind : Fault → FaultKind
  | status code _ =>
    if code = 401 ∨ code = 403 then .credential
    else if code = 408 then .timeout
    else if code = 429 then .rateLimit
    else .provider
  | timeout => .timeout
  | transport _ | request _ => .provider
  | decode _ => .unknown

/-- Whether another try may help. -/
def retryable : Fault → Bool
  | status code _ => code = 408 || code = 429 || isServerError code
  | timeout | transport _ => true
  | request _ | decode _ => false

end Fault

/-- What the service answers, and after how many milliseconds. -/
structure Reply where
  delay : Nat
  outcome : Except Fault Completion
  deriving Repr

/-- The outcome for a caller who waits so long and no longer. -/
def Reply.within (limit : Nat) (r : Reply) : Except Fault Completion :=
  if r.delay ≤ limit then r.outcome else .error .timeout

/-- A service: its reply to each call of a dialogue, the first being number 0. -/
abbrev Service := Nat → Call → Reply

/-- The service that replies as a script says; after its end nothing is heard. -/
def Service.scripted (script : List Reply) : Service := fun k _ =>
  script[k]?.getD ⟨0, .error (.transport "script exhausted")⟩

end Screenplay
