/-
Reports do not depend on how the cases went on in between each other. A draft that
is turned down costs no call. Of every other draft the report has each case as it is
by itself, in the order of the draft, and the sums of the report are those of its
cases (`processes_reported`). So the report is the one that comes of the cases one
after another.
-/
import Screenplay.Proofs.Generation.Charges
import Screenplay.Proofs.Generation.Windows
import Screenplay.Report.Batch

namespace Screenplay

/-! ## Sums -/

namespace Resolution

theorem cost_eq_usage (r : Resolution) : r.cost = (r.usage?.map (·.cost)).getD 0.0 := by
  cases r with
  | template flow code => rfl
  | generated g => rfl
  | failed failure =>
    rw [cost, Failure.cost, usage?]
    cases failure.usage <;> rfl

end Resolution

namespace Report

theorem count_add (r : Report) :
    r.count Resolution.isTemplate + r.count Resolution.isGenerated + r.count Resolution.isFailed =
      r.cases.length := by
  simp only [count]
  induction r.cases with
  | nil => rfl
  | cons c rest ih =>
    simp only [List.countP_cons, List.length_cons]
    have hway : (if c.resolution.isTemplate then 1 else 0) + (if c.resolution.isGenerated then 1 else 0) +
        (if c.resolution.isFailed then 1 else 0) = 1 := by
      cases c.resolution <;> rfl
    omega

theorem totalCost_eq (r : Report) :
    r.totalCost = (r.cases.map fun c => (c.resolution.usage?.map (·.cost)).getD 0.0).foldl (· + ·) 0.0 := by
  simp only [totalCost, List.foldl_map, Resolution.cost_eq_usage]

end Report

namespace Config

/-! ## A case -/

/-- The report of one case, and the calls that were made for it. -/
structure Resolved (config : Config) (screen : Screen) (c : Case) (calls : List Call) (r : CaseReport) : Prop where
  name : r.name = c.name
  choice : r.choice = config.catalog.select c
  templated : r.choice.usesTemplate = true →
    r.resolution = .template r.choice.flow (Playbook.render r.choice.flow screen c) ∧ calls = []
  escalated : r.choice.usesTemplate = false → r.resolution.isGenerated = true ∨ r.resolution.isFailed = true

theorem generate_result (config : Config) (keys : Keys) (caller : String) (c : Case) (now : Nat) (service : Service) :
    ((config.generate keys caller c).run now service).result.isGenerated = true ∨
      ((config.generate keys caller c).run now service).result.isFailed = true := by
  cases keys with
  | none => exact .inr rfl
  | some key =>
    obtain ⟨-, hresult⟩ := (config.refine (key caller) caller c).run_map Resolution.ofGeneration now service
    rw [generate, hresult]
    cases ((config.refine (key caller) caller c).run now service).result with
    | ok g => exact .inl rfl
    | error failure => exact .inr rfl

/-- **A case is resolved by a template or by the service, never by both.** -/
theorem resolved_run (config : Config) (keys : Keys) (caller : String) (screen : Screen) (c : Case) (now : Nat)
    (service : Service) :
    let t := (config.reportCase keys caller screen c).run now service
    config.Resolved screen c (t.calls.map (·.2)) t.result := by
  obtain ⟨hcalls, hresult⟩ := (config.resolve keys caller screen c (config.catalog.select c)).run_map
    (fun resolution => CaseReport.mk c.name (config.catalog.select c) resolution) now service
  dsimp only
  rw [reportCase, hcalls, hresult]
  refine ⟨rfl, rfl, ?_, ?_⟩
  · intro (htemplate : (config.catalog.select c).usesTemplate = true)
    rw [resolve, if_pos htemplate]
    exact ⟨rfl, rfl⟩
  · intro (hescalated : (config.catalog.select c).usesTemplate = false)
    rw [resolve, if_neg (by rw [hescalated]; exact Bool.false_ne_true)]
    exact config.generate_result keys caller c now service

/-! ## A draft -/

/-- The report on a screen, and the calls that were made for it. -/
structure Reported (config : Config) (keys : Keys) (caller : String) (services : Nat → Service) (screen : Screen)
    (log : CallLog) (report : Report) : Prop where
  heading : report.screen = screen.name ∧ report.route = screen.route
  length : report.cases.length = screen.cases.length
  resolved : ∀ i c r, screen.cases[i]? = some c → report.cases[i]? = some r →
    config.Resolved screen c (log.callsOf i) r
  /-- At whatever time a case is worked on by itself, it has the same report and the same calls. -/
  alone : ∀ i c r, screen.cases[i]? = some c → report.cases[i]? = some r → ∀ now,
    let t := (config.reportCase keys caller screen c).run now (services i)
    t.result = r ∧ t.calls.map (·.2) = log.callsOf i
  /-- Every call is one for a case of the screen. -/
  numbered : ∀ entry ∈ log, entry.1 < screen.cases.length
  summary : report.toJson.get? "summary" = some (.object [
    ("total", .nat screen.cases.length),
    ("templated", .nat (report.count Resolution.isTemplate)),
    ("generated", .nat (report.count Resolution.isGenerated)),
    ("failed", .nat (report.count Resolution.isFailed)),
    ("total_cost_usd", .float report.totalCost)])
  count : report.count Resolution.isTemplate + report.count Resolution.isGenerated +
    report.count Resolution.isFailed = screen.cases.length
  /-- The cost adds up from the first case to the last, failed cases with what they were billed included. -/
  totalCost : report.totalCost =
    (report.cases.map fun r => (r.resolution.usage?.map (·.cost)).getD 0.0).foldl (· + ·) 0.0
  /-- The report is that of the cases worked on one after another. -/
  inTurn : report = .ofTranscripts screen (config.transcripts keys caller services screen)

theorem tasks_getElem? (config : Config) (keys : Keys) (caller : String) (services : Nat → Service)
    (screen : Screen) (i : Nat) :
    (config.tasks keys caller services screen)[i]? =
      screen.cases[i]?.map fun c => .ready (services i) (config.reportCase keys caller screen c) := by
  simp [tasks, dialogues, Function.comp_def]

theorem results_transcripts (config : Config) (keys : Keys) (caller : String) (services : Nat → Service)
    (screen : Screen) :
    (config.transcripts keys caller services screen).map (·.result) =
      (config.tasks keys caller services screen).map (·.course.result) := by
  simp only [transcripts, tasks, List.map_map, Function.comp_def, Task.course]
  refine List.map_congr_left fun entry _ => ?_
  exact congrArg Course.result (entry.1.course_run 0 (services entry.2))

/-- **At the end of a run of its cases there is the report on a screen.** -/
theorem reported_of_stuck (config : Config) (keys : Keys) (caller : String) (services : Nat → Service)
    (screen : Screen) {w : Window CaseReport}
    (hrun : Relation.ReflTransGen (Window.Step config.width) (.start (config.tasks keys caller services screen)) w)
    (hstuck : ∀ next, ¬ Window.Step config.width w next) :
    config.Reported keys caller services screen w.log ⟨screen.name, screen.route, w.results⟩ := by
  have hwidth : 0 < config.width := Nat.le_max_left 1 _
  obtain ⟨hresults, hcalls, hnumbered⟩ := Window.handedOn hwidth hrun hstuck
  have hlength : (config.tasks keys caller services screen).length = screen.cases.length := by
    simp [tasks, dialogues]
  have hcases : w.results.length = screen.cases.length := by rw [hresults, List.length_map, hlength]
  have halone : ∀ i c r, screen.cases[i]? = some c → w.results[i]? = some r → ∀ now,
      let t := (config.reportCase keys caller screen c).run now (services i)
      t.result = r ∧ t.calls.map (·.2) = w.log.callsOf i := by
    intro i c r hc hr now t
    have htask := config.tasks_getElem? keys caller services screen i
    rw [hc, Option.map_some] at htask
    rw [hresults, List.getElem?_map, htask, Option.map_some, Option.some.injEq] at hr
    have hcourse : t.course = ⟨w.log.callsOf i, r⟩ := by
      rw [Dialogue.course_run, hcalls i _ htask, ← hr]
      rfl
    exact ⟨congrArg Course.result hcourse, congrArg Course.calls hcourse⟩
  have hcount := Report.count_add ⟨screen.name, screen.route, w.results⟩
  rw [hcases] at hcount
  refine ⟨⟨rfl, rfl⟩, hcases, ?_, halone, ?_, ?_, hcount, Report.totalCost_eq _, ?_⟩
  · intro i c r hc hr
    obtain ⟨hresult, hcalls⟩ := halone i c r hc hr 0
    have h := config.resolved_run keys caller screen c 0 (services i)
    dsimp only at h
    rwa [hresult, hcalls] at h
  · intro entry hentry
    rw [← hlength]
    exact hnumbered entry hentry
  · rw [← hcases]
    rfl
  · rw [Report.ofTranscripts, results_transcripts, hresults]

/-- **Working on a draft comes to an end, and to the same one in whatever order its cases go on.** -/
theorem processes_reported (config : Config) (keys : Keys) (caller : String) (services : Nat → Service) (d : Draft) :
    (WellFounded fun next w : Window CaseReport => Window.Step config.width w next) ∧
      (∃ log outcome, config.Processes keys caller services d log outcome) ∧
      ∀ log outcome, config.Processes keys caller services d log outcome →
        match validate d with
        | .error violations => outcome = .error violations ∧ log = []
        | .ok screen => ∃ report, outcome = .ok report ∧ config.Reported keys caller services screen log report := by
  refine ⟨Window.wellFounded_step config.width, ?_, ?_⟩
  · cases hd : validate d with
    | error violations => exact ⟨_, _, .turnedDown hd⟩
    | ok screen =>
      obtain ⟨last, hrun, hstuck⟩ := Window.exists_stuck config.width
        (.start (config.tasks keys caller services screen))
      exact ⟨_, _, .reported hd hrun hstuck⟩
  · intro log outcome h
    cases h with
    | turnedDown hd =>
      rw [hd]
      exact ⟨rfl, rfl⟩
    | reported hd hrun hstuck =>
      rw [hd]
      exact ⟨_, rfl, config.reported_of_stuck keys caller services _ hrun hstuck⟩

end Config

end Screenplay
