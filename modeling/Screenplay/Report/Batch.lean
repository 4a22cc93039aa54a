/-
Working on the cases of a draft side by side. A draft with defects is turned down
before anything else happens. Otherwise the dialogues of its cases go through a
window, each with a service of its own, until nothing more can happen, and the
report has the results as they were handed on.

The dialogues in a window begin in their order, and only so many of them are open:
begun, with a result that was not handed on yet. Which of the open ones goes on next
is left to chance, but the results are handed on in the order of the dialogues. Every
call is noted with the number of its dialogue.
-/
import Mathlib.Logic.Relation
import Screenplay.Report.Basic

namespace Screenplay

/-! ## Tasks -/

/-- What is left of a dialogue, with the service as it goes on from there. -/
inductive Task (α : Type)
  | ready (service : Service) (rest : Dialogue α)
  /-- A call was made, and its outcome is still to be heard. -/
  | waiting (service : Service) (outcome : Except Fault Completion) (next : Except Fault Completion → Dialogue α)

/-- A step of a task, with the call that is made in it. -/
inductive Task.Step {α : Type} : Task α → Option Call → Task α → Prop
  | wake (service : Service) (ms : Nat) (next : Dialogue α) :
      Step (.ready service (.pause ms next)) none (.ready service next)
  | call (service : Service) (call : Call) (limit : Nat) (next : Except Fault Completion → Dialogue α) :
      Step (.ready service (.ask call limit next)) (some call)
        (.waiting (fun k => service (k + 1)) ((service 0 call).within limit) next)
  | hear (service : Service) (outcome : Except Fault Completion) (next : Except Fault Completion → Dialogue α) :
      Step (.waiting service outcome next) none (.ready service (next outcome))

/-! ## Calls -/

/-- The calls of all dialogues as they are made, each with the number of its dialogue. -/
abbrev CallLog := List (Nat × Call)

namespace CallLog

/-- The calls of one dialogue. -/
def callsOf (log : CallLog) (i : Nat) : List Call :=
  log.filterMap fun (k, call) => if k = i then some call else none

/-- Notes the call of a step, if there is one. -/
def note (log : CallLog) (i : Nat) (call : Option Call) : CallLog :=
  log ++ call.toList.map fun call => (i, call)

end CallLog

/-! ## Windows -/

structure Window (α : Type) where
  /-- The results that were handed on. -/
  results : List α
  opened : List (Task α)
  unbegun : List (Task α)
  log : CallLog

namespace Window

variable {α : Type}

def start (tasks : List (Task α)) : Window α := ⟨[], [], tasks, []⟩

/-- A step of a window with at most so many open dialogues. -/
inductive Step (limit : Nat) : Window α → Window α → Prop
  | begin (results : List α) (opened : List (Task α)) (task : Task α) (unbegun : List (Task α)) (log : CallLog) :
      opened.length < limit →
        Step limit ⟨results, opened, task :: unbegun, log⟩ ⟨results, opened ++ [task], unbegun, log⟩
  | advance (results : List α) (before : List (Task α)) (task task' : Task α) (after unbegun : List (Task α))
      (log : CallLog) (call : Option Call) : task.Step call task' →
        Step limit ⟨results, before ++ task :: after, unbegun, log⟩
          ⟨results, before ++ task' :: after, unbegun, log.note (results.length + before.length) call⟩
  | handOn (results : List α) (service : Service) (result : α) (opened unbegun : List (Task α)) (log : CallLog) :
      Step limit ⟨results, .ready service (.done result) :: opened, unbegun, log⟩
        ⟨results ++ [result], opened, unbegun, log⟩

end Window

/-! ## Cases -/

namespace Config

/-- How many cases may be open at a time. -/
def width (config : Config) : Nat := max 1 config.concurrency

/-- The cases of a screen, each with a service of its own, before the first of them has begun. -/
def tasks (config : Config) (keys : Keys) (caller : String) (services : Nat → Service) (screen : Screen) :
    List (Task CaseReport) :=
  (config.dialogues keys caller screen).zipIdx.map fun (dialogue, i) => .ready (services i) dialogue

/-- A course that working on a draft can take: the calls that are made, and the outcome. -/
inductive Processes (config : Config) (keys : Keys) (caller : String) (services : Nat → Service) (d : Draft) :
    CallLog → Except (List Violation) Report → Prop
  | turnedDown {violations : List Violation} :
      validate d = .error violations → Processes config keys caller services d [] (.error violations)
  | reported {screen : Screen} {w : Window CaseReport} :
      validate d = .ok screen →
      Relation.ReflTransGen (Window.Step config.width) (.start (config.tasks keys caller services screen)) w →
      (∀ next, ¬ Window.Step config.width w next) →
      Processes config keys caller services d w.log (.ok ⟨screen.name, screen.route, w.results⟩)

end Config

end Screenplay
