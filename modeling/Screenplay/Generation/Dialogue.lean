/-
A dialogue with the service, as a value: it is done, or it pauses, or it makes a
call and goes on with the outcome. Nothing in it says when the replies come, so
one dialogue can be run by itself or in between others.
-/
import Screenplay.Generation.Service

namespace Screenplay

inductive Dialogue (α : Type)
  | done (result : α)
  /-- Lets so many milliseconds pass. -/
  | pause (ms : Nat) (next : Dialogue α)
  /-- Calls the service and waits for at most `limit` milliseconds. -/
  | ask (call : Call) (limit : Nat) (next : Except Fault Completion → Dialogue α)

/-- What has happened in a dialogue: the calls, each with the time it was made
at, the time of the end, and the result. -/
structure Transcript (α : Type) where
  calls : List (Nat × Call)
  finish : Nat
  result : α
  deriving Repr

namespace Dialogue

variable {α β : Type}

def map (f : α → β) : Dialogue α → Dialogue β
  | done a => done (f a)
  | pause ms next => pause ms (next.map f)
  | ask call limit next => ask call limit fun outcome => (next outcome).map f

/-- Runs a dialogue with a service from a time on. -/
def run (now : Nat) (service : Service) : Dialogue α → Transcript α
  | done a => ⟨[], now, a⟩
  | pause ms next => next.run (now + ms) service
  | ask call limit next =>
    let reply := service 0 call
    let rest := (next (reply.within limit)).run (now + min reply.delay limit)
      fun k => service (k + 1)
    { rest with calls := (now, call) :: rest.calls }

end Dialogue

end Screenplay
