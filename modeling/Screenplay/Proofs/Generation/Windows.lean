/-
What a window hands on does not depend on how its dialogues went on in between each
other. Put together, the calls that were made and what is still to come of each
dialogue are the course that the dialogue takes by itself (`Step.courses`). Every
step brings the end nearer by one (`Step.work`), and only a window that has handed on
all results has no step (`empty_of_stuck`). So every run comes to an end, with no more
dialogues open at a time than there may be (`opened_le_of_run`), and at the end there
are the calls and the results of the dialogues by themselves (`handedOn`).
-/
import Mathlib.Algebra.GroupWithZero.Nat
import Mathlib.Logic.Relation
import Screenplay.Report.Batch

namespace Screenplay

/-! ## Courses -/

/-- What happens in a dialogue, times left out. -/
@[ext] structure Course (α : Type) where
  calls : List Call
  result : α

namespace Course

variable {α : Type}

/-- A course with calls in front of it. -/
def after (calls : List Call) (c : Course α) : Course α := ⟨calls ++ c.calls, c.result⟩

@[simp]
theorem after_nil (c : Course α) : c.after [] = c := rfl

@[simp]
theorem after_after (calls calls' : List Call) (c : Course α) :
    (c.after calls').after calls = c.after (calls ++ calls') := by
  simp [after]

end Course

def Transcript.course {α : Type} (t : Transcript α) : Course α := ⟨t.calls.map (·.2), t.result⟩

namespace Dialogue

variable {α : Type}

/-- The course of a dialogue with a service. -/
def course (service : Service) : Dialogue α → Course α
  | done a => ⟨[], a⟩
  | pause _ next => next.course service
  | ask call limit next =>
    ((next ((service 0 call).within limit)).course fun k => service (k + 1)).after [call]

/-- Whenever a dialogue is run, it takes the same course. -/
theorem course_run (d : Dialogue α) (now : Nat) (service : Service) :
    (d.run now service).course = d.course service := by
  induction d generalizing now service with
  | done a => rfl
  | pause ms next ih => exact ih (now + ms) service
  | ask call limit next ih =>
    rw [course, ← ih _ (now + min (service 0 call).delay limit)]
    rfl

/-- How many steps a dialogue takes with a service. -/
def steps (service : Service) : Dialogue α → Nat
  | done _ => 0
  | pause _ next => next.steps service + 1
  | ask call limit next => ((next ((service 0 call).within limit)).steps fun k => service (k + 1)) + 2

end Dialogue

namespace Task

variable {α : Type}

def course : Task α → Course α
  | ready service rest => rest.course service
  | waiting service outcome next => (next outcome).course service

def steps : Task α → Nat
  | ready service rest => rest.steps service
  | waiting service outcome next => (next outcome).steps service + 1

theorem Step.course {task task' : Task α} {call : Option Call} (h : task.Step call task') :
    task.course = task'.course.after call.toList := by
  cases h <;> rfl

theorem Step.steps {task task' : Task α} {call : Option Call} (h : task.Step call task') :
    task.steps = task'.steps + 1 := by
  cases h <;> rfl

end Task

/-! ## Noted calls -/

namespace CallLog

theorem callsOf_note (log : CallLog) (k : Nat) (call : Option Call) (i : Nat) :
    (log.note k call).callsOf i = log.callsOf i ++ if k = i then call.toList else [] := by
  rw [note, callsOf, callsOf, List.filterMap_append]
  cases call with
  | none => simp
  | some call => by_cases hk : k = i <;> simp [hk]

end CallLog

/-! ## Windows -/

namespace Window

variable {α : Type} {limit : Nat} {w w' : Window α}

/-- What is still to come of each dialogue. -/
def ahead (w : Window α) : List (Course α) :=
  w.results.map (fun result => ⟨[], result⟩) ++ (w.opened.map Task.course ++ w.unbegun.map Task.course)

/-- Each dialogue as it was and as it will be. -/
def courses (w : Window α) : List (Course α) :=
  w.ahead.mapIdx fun i c => c.after (w.log.callsOf i)

theorem mapIdx_note (log : CallLog) (call : Option Call) (before after : List (Course α)) (c : Course α) :
    (before ++ c :: after).mapIdx (fun i d => d.after ((log.note before.length call).callsOf i)) =
      (before ++ c.after call.toList :: after).mapIdx fun i d => d.after (log.callsOf i) := by
  simp only [List.mapIdx_append, List.mapIdx_cons, CallLog.callsOf_note]
  congr 1
  · rw [List.mapIdx_eq_mapIdx_iff]
    intro i hi
    have hne : before.length ≠ i := by omega
    simp [hne]
  · congr 1
    · simp
    · rw [List.mapIdx_eq_mapIdx_iff]
      intro i hi
      simp

/-- **A step changes no course.** -/
theorem Step.courses (h : Step limit w w') : w'.courses = w.courses := by
  cases h with
  | begin results opened task unbegun log hroom => simp [Window.courses, ahead]
  | handOn results service result opened unbegun log =>
    simp [Window.courses, ahead, Task.course, Dialogue.course]
  | advance results before task task' after unbegun log call htask =>
    have hplace : results.length + before.length =
        (results.map (fun result => (⟨[], result⟩ : Course α)) ++ before.map Task.course).length := by simp
    have hnote := mapIdx_note log call
      (results.map (fun result => (⟨[], result⟩ : Course α)) ++ before.map Task.course)
      (after.map Task.course ++ unbegun.map Task.course) task'.course
    rw [← htask.course, ← hplace] at hnote
    simpa [Window.courses, ahead] using hnote

/-- How many steps are left. -/
def work (w : Window α) : Nat :=
  (w.opened.map fun task => task.steps + 1).sum + (w.unbegun.map fun task => task.steps + 2).sum

/-- **A step is one step less to do.** -/
theorem Step.work (h : Step limit w w') : w.work = w'.work + 1 := by
  cases h with
  | begin results opened task unbegun log hroom =>
    simp only [Window.work, List.map_append, List.map_cons, List.map_nil, List.sum_append, List.sum_cons,
      List.sum_nil]
    omega
  | handOn results service result opened unbegun log =>
    simp only [Window.work, List.map_cons, List.sum_cons, Task.steps, Dialogue.steps]
    omega
  | advance results before task task' after unbegun log call htask =>
    have hsteps := htask.steps
    simp only [Window.work, List.map_append, List.map_cons, List.sum_append, List.sum_cons]
    omega

theorem Step.numbered (h : Step limit w w') (hw : ∀ entry ∈ w.log, entry.1 < w.ahead.length) :
    ∀ entry ∈ w'.log, entry.1 < w'.ahead.length := by
  cases h with
  | begin results opened task unbegun log hroom => simpa [ahead] using hw
  | handOn results service result opened unbegun log => simpa [ahead, Nat.add_assoc, Nat.add_comm 1] using hw
  | advance results before task task' after unbegun log call htask =>
    intro entry hentry
    rcases List.mem_append.mp hentry with hentry | hentry
    · simpa [ahead] using hw entry hentry
    · obtain ⟨noted, -, rfl⟩ := List.mem_map.mp hentry
      simp only [ahead, List.length_append, List.length_map, List.length_cons]
      omega

/-! ## Runs -/

/-- There is no run without an end. -/
theorem wellFounded_step (limit : Nat) : WellFounded fun next w : Window α => Step limit w next := by
  refine Subrelation.wf ?_ (measure Window.work).wf
  intro next w hstep
  have hwork := hstep.work
  change next.work < w.work
  omega

theorem exists_stuck (limit : Nat) (w : Window α) :
    ∃ last, Relation.ReflTransGen (Step limit) w last ∧ ∀ next, ¬ Step limit last next := by
  induction w using (wellFounded_step limit).induction with
  | _ w ih =>
    by_cases hstuck : ∀ next, ¬ Step limit w next
    · exact ⟨w, .refl, hstuck⟩
    · obtain ⟨next, hstep⟩ := not_forall_not.mp hstuck
      obtain ⟨last, hrun, hlast⟩ := ih next hstep
      exact ⟨last, .head hstep hrun, hlast⟩

theorem exists_taskStep (task : Task α) :
    (∃ service result, task = .ready service (.done result)) ∨ ∃ call task', task.Step call task' := by
  cases task with
  | waiting service outcome next => exact .inr ⟨none, _, .hear service outcome next⟩
  | ready service rest =>
    cases rest with
    | done result => exact .inl ⟨service, result, rfl⟩
    | pause ms next => exact .inr ⟨none, _, .wake service ms next⟩
    | ask call limit next => exact .inr ⟨some call, _, .call service call limit next⟩

/-- **A window is stuck only when everything is handed on.** -/
theorem empty_of_stuck (hlimit : 0 < limit) (hstuck : ∀ next, ¬ Step limit w next) :
    w.opened = [] ∧ w.unbegun = [] := by
  obtain ⟨results, opened, unbegun, log⟩ := w
  cases opened with
  | cons task opened =>
    rcases exists_taskStep task with ⟨service, result, rfl⟩ | ⟨call, task', htask⟩
    · exact absurd (.handOn results service result opened unbegun log) (hstuck _)
    · exact absurd (.advance results [] task task' opened unbegun log call htask) (hstuck _)
  | nil =>
    cases unbegun with
    | nil => exact ⟨rfl, rfl⟩
    | cons task unbegun => exact absurd (.begin results [] task unbegun log hlimit) (hstuck _)

theorem courses_of_run {tasks : List (Task α)} (hrun : Relation.ReflTransGen (Step limit) (start tasks) w) :
    w.courses = tasks.map Task.course ∧ ∀ entry ∈ w.log, entry.1 < w.ahead.length := by
  induction hrun with
  | refl =>
    refine ⟨List.ext_getElem? fun i => ?_, nofun⟩
    simp [courses, ahead, start, CallLog.callsOf, Function.comp_def]
  | tail hrun hstep ih => exact ⟨hstep.courses.trans ih.1, hstep.numbered ih.2⟩

/-- At no time of a run are more dialogues open than there may be. -/
theorem opened_le_of_run {tasks : List (Task α)} (hrun : Relation.ReflTransGen (Step limit) (start tasks) w) :
    w.opened.length ≤ limit := by
  induction hrun with
  | refl => exact Nat.zero_le limit
  | tail hrun hstep ih =>
    cases hstep with
    | begin results opened task unbegun log hroom => simpa using Nat.succ_le_of_lt hroom
    | handOn results service result opened unbegun log => exact Nat.le_of_succ_le ih
    | advance results before task task' after unbegun log call htask => simpa using ih

/-- **At the end there are the results of the dialogues by themselves, in their order, and the calls noted for
each dialogue are its own.** -/
theorem handedOn (hlimit : 0 < limit) {tasks : List (Task α)}
    (hrun : Relation.ReflTransGen (Step limit) (start tasks) w) (hstuck : ∀ next, ¬ Step limit w next) :
    w.results = tasks.map (·.course.result) ∧
      (∀ i task, tasks[i]? = some task → w.log.callsOf i = task.course.calls) ∧
      ∀ entry ∈ w.log, entry.1 < tasks.length := by
  obtain ⟨hopened, hunbegun⟩ := empty_of_stuck hlimit hstuck
  obtain ⟨hcourses, hnumbered⟩ := courses_of_run hrun
  have hcourse (i : Nat) : (w.results[i]?).map (fun result => (⟨w.log.callsOf i, result⟩ : Course α)) =
      tasks[i]?.map Task.course := by
    rw [← List.getElem?_map (f := Task.course), ← hcourses, courses, List.getElem?_mapIdx, ahead, hopened, hunbegun]
    simp [Course.after, Function.comp_def]
  have hresults : w.results = tasks.map (·.course.result) := by
    refine List.ext_getElem? fun i => ?_
    have h := congrArg (Option.map Course.result) (hcourse i)
    simpa [Function.comp_def] using h
  refine ⟨hresults, ?_, ?_⟩
  · intro i task htask
    have h := hcourse i
    simp only [hresults, List.getElem?_map, htask, Option.map_some, Option.some.injEq] at h
    exact congrArg Course.calls h
  · intro entry hentry
    have h := hnumbered entry hentry
    simpa [ahead, hopened, hunbegun, hresults] using h

end Window

end Screenplay
