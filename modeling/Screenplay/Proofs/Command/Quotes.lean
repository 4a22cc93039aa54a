/-
Estimates and runs agree. The cases that `estimate` has a price for are those for which
a run of `generate` uses no template, in the same order, and the tier and the model of
the price are those of the calls that the run makes for the case (`carryOut_quoted`).
-/
import Screenplay.Command.Estimate
import Screenplay.Proofs.Command.Runs
import Screenplay.Proofs.Generation.Attempts
import Screenplay.Proofs.Report.Batches

namespace Screenplay

theorem mapM_of_forall₂ {ε α β : Type} {f : α → Except ε β} {l : List α} {results : List β}
    (h : List.Forall₂ (fun a b => f a = .ok b) l results) : l.mapM f = .ok results := by
  induction h with
  | nil => rfl
  | cons ha hrest ih =>
    rw [List.mapM_cons, ha, ih]
    rfl

namespace Config

/-! ## A case -/

/-- The estimate for a case, and what happened in the case: all calls went to the model of the estimate, and what
was billed, if anything, was billed at its tier. -/
structure Quotes (config : Config) (e : CaseEstimate) (t : Transcript CaseReport) : Prop where
  test : e.test = t.result.name
  model : e.usage.model = (config.pricing.rates e.usage.tier).model
  called : ∀ call ∈ t.calls, call.2.model = e.usage.model
  billed : ∀ usage, t.result.resolution.usage? = some usage →
    usage.tier = e.usage.tier ∧ usage.model = e.usage.model

theorem usage?_ofGeneration (g : Generation) : (Resolution.ofGeneration g).usage? = g.usage? := by
  cases g <;> rfl

theorem quoted_refine (config : Config) (key : Option String) (caller : String) (c : Case) (now : Nat)
    (service : Service) :
    let t := (config.refine key caller c).run now service
    (∀ call ∈ t.calls, call.2.model = (config.estimate c).model) ∧
      ∀ usage, t.result.usage? = some usage →
        usage.tier = (config.estimate c).tier ∧ usage.model = (config.estimate c).model := by
  intro t
  simp only [t, refine]
  cases key.filter (!Text.isVacant ·) with
  | none => exact ⟨fun _ h => (by cases h), fun _ h => (by cases h)⟩
  | some key =>
    dsimp only
    obtain ⟨last, hrow⟩ := row_callFrom config.retry config.timeoutMs (config.callFor key c)
      (config.retry.limit - 1) 0 now service
    obtain ⟨hcalls, hresult⟩ := (config.retry.persist config.timeoutMs (config.callFor key c)).run_map
      (config.conclude (config.tiers.tier c)) now service
    refine ⟨fun call hcall => ?_, fun usage husage => ?_⟩
    · rw [hcalls] at hcall
      have hsame : call.2 ∈ List.replicate (last + 1) (config.callFor key c) := by
        rw [← hrow.calls]
        exact List.mem_map_of_mem hcall
      rw [List.eq_of_mem_replicate hsame]
      rfl
    · rw [hresult] at husage
      obtain ⟨htier, hmodel, -⟩ := (config.settled_conclude c hrow).estimate usage husage
      exact ⟨htier, hmodel⟩

/-- **What happens in a case is in line with its estimate.** -/
theorem quotes_reportCase (config : Config) (keys : Keys) (caller : String) (screen : Screen) (c : Case) (now : Nat)
    (service : Service) :
    config.Quotes ⟨screen.name, c.name, config.estimate c⟩
      ((config.reportCase keys caller screen c).run now service) := by
  obtain ⟨hcalls, hresult⟩ := (config.resolve keys caller screen c (config.catalog.select c)).run_map
    (fun resolution => CaseReport.mk c.name (config.catalog.select c) resolution) now service
  have hquoted : (∀ call ∈ ((config.resolve keys caller screen c (config.catalog.select c)).run now service).calls,
      call.2.model = (config.estimate c).model) ∧
      ∀ usage, ((config.resolve keys caller screen c (config.catalog.select c)).run now service).result.usage? =
        some usage → usage.tier = (config.estimate c).tier ∧ usage.model = (config.estimate c).model := by
    rw [resolve]
    split
    · exact ⟨fun _ h => (by cases h), fun _ h => (by cases h)⟩
    · cases keys with
      | none => exact ⟨fun _ h => (by cases h), fun _ h => (by cases h)⟩
      | some key =>
        obtain ⟨hcalls, hresult⟩ := (config.refine (key caller) caller c).run_map Resolution.ofGeneration now service
        rw [generate, hcalls, hresult, usage?_ofGeneration]
        exact config.quoted_refine (key caller) caller c now service
  refine ⟨?_, rfl, ?_, ?_⟩
  · rw [reportCase, hresult]
  · rw [reportCase, hcalls]
    exact hquoted.1
  · rw [reportCase, hresult]
    exact hquoted.2

theorem isTemplate_of_way {r : Resolution} (h : r.isGenerated = true ∨ r.isFailed = true) : r.isTemplate = false := by
  cases r with
  | template flow code => rcases h with h | h <;> cases h
  | generated g => rfl
  | failed failure => rfl

theorem isTemplate_reportCase (config : Config) (keys : Keys) (caller : String) (screen : Screen) (c : Case)
    (now : Nat) (service : Service) :
    ((config.reportCase keys caller screen c).run now service).result.resolution.isTemplate =
      (config.catalog.select c).usesTemplate := by
  have h := config.resolved_run keys caller screen c now service
  generalize (config.reportCase keys caller screen c).run now service = t at h
  have hchoice := h.choice
  cases huses : (config.catalog.select c).usesTemplate with
  | true =>
    rw [(h.templated (by rw [hchoice, huses])).1]
    rfl
  | false => exact isTemplate_of_way (h.escalated (by rw [hchoice, huses]))

/-! ## All cases -/

/-- The cases of some screens, each with its screen. -/
def casesOf (screens : List Screen) : List (Screen × Case) :=
  screens.flatMap fun screen => screen.cases.map fun c => (screen, c)

theorem estimates_eq (config : Config) (screens : List Screen) :
    config.estimates false screens =
      ((casesOf screens).filter fun entry => !(config.catalog.select entry.2).usesTemplate).map fun entry =>
        ⟨entry.1.name, entry.2.name, config.estimate entry.2⟩ := by
  simp only [estimates, casesOf, priced, Bool.false_or, List.filter_flatMap, List.map_flatMap, List.filter_map,
    List.map_map]
  rfl

end Config

namespace Production

/-- What happened in the cases of some screens, the first of which has this number. -/
def playedAll (p : Production) (number : Nat) (screens : List Screen) : List (Screen × Transcript CaseReport) :=
  (screens.zipIdx number).flatMap fun (screen, n) => (p.played n screen).map fun t => (screen, t)

/-- A case of a screen, and what happened in it. -/
structure Tells (p : Production) (entry : Screen × Case) (told : Screen × Transcript CaseReport) : Prop where
  screen : told.1 = entry.1
  quotes : p.config.Quotes ⟨entry.1.name, entry.2.name, p.config.estimate entry.2⟩ told.2
  isTemplate : told.2.result.resolution.isTemplate = (p.config.catalog.select entry.2).usesTemplate

theorem tells_played (p : Production) (number : Nat) (screen : Screen) :
    List.Forall₂ p.Tells (screen.cases.map fun c => (screen, c)) ((p.played number screen).map fun t => (screen, t)) := by
  rw [List.forall₂_map_left_iff, List.forall₂_map_right_iff, List.forall₂_iff_get]
  refine ⟨by simp [played, Config.transcripts, Config.dialogues], fun i hi hi' => ?_⟩
  simp only [played, Config.transcripts, Config.dialogues, List.get_eq_getElem, List.getElem_map,
    List.getElem_zipIdx]
  exact ⟨rfl, p.config.quotes_reportCase _ _ _ _ _ _, p.config.isTemplate_reportCase _ _ _ _ _ _⟩

theorem tells_playedAll (p : Production) (number : Nat) (screens : List Screen) :
    List.Forall₂ p.Tells (Config.casesOf screens) (p.playedAll number screens) := by
  induction screens generalizing number with
  | nil => exact .nil
  | cons screen screens ih => exact List.rel_append (p.tells_played number screen) (ih (number + 1))

theorem results_of_completed {p : Production} {tree : Tree} {files : List SpecFile} {screens : List Screen}
    {run : Run} (h : p.Completed (.start tree) 0 files screens run) :
    run.results = (p.playedAll 0 screens).map (fun (screen, t) => ⟨screen.name, t.result.name, t.result.resolution⟩) ∧
      run.transcripts.flatten = (p.playedAll 0 screens).map (·.2) := by
  rw [Run.results, h.reports, h.transcripts, Run.start, List.nil_append, List.nil_append]
  constructor
  · simp [playedAll, Report.ofTranscripts, List.flatMap_map, List.map_flatMap, Function.comp_def]
  · simp [playedAll, List.flatMap_def, List.map_flatten, Function.comp_def]

theorem exists_loaded {p : Production} {tree : Tree} {inputs : List Path}
    (h : (p.carryOut tree inputs).trouble = none) :
    ∃ files, SpecFile.loadAll tree inputs = .ok files ∧ p.carryOut tree inputs = p.run tree files := by
  unfold carryOut at h ⊢
  split at h
  · cases h
  · next files hload => exact ⟨files, hload, rfl⟩

/-- **Estimates are for the cases that a run calls the service for.** For inputs that a run has no trouble with
there are estimates. They are for the cases that the run used no template for, in the same order, each as often as
it comes; and what happened in each of these cases is in line with its estimate. -/
theorem carryOut_quoted (p : Production) (tree : Tree) (inputs : List Path)
    (h : (p.carryOut tree inputs).trouble = none) :
    let run := p.carryOut tree inputs
    ∃ rows, p.config.quote tree inputs false = .ok rows ∧
      rows.map (fun e => (e.screen, e.test)) =
        (run.results.filter (·.path ≠ "template")).map (fun c => (c.screen, c.test)) ∧
      run.transcripts.flatten.map (fun t => (t.result.name, t.result.resolution)) =
        run.results.map (fun c => (c.test, c.resolution)) ∧
      List.Forall₂ p.config.Quotes rows
        (run.transcripts.flatten.filter fun t => !t.result.resolution.isTemplate) := by
  intro run
  obtain ⟨files, hload, hrun⟩ := exists_loaded h
  rw [hrun] at h
  obtain ⟨screens, hall⟩ := p.completed_run tree h
  obtain ⟨hresults, htranscripts⟩ := results_of_completed hall
  rw [← hrun] at hresults htranscripts
  have hquote : p.config.quote tree inputs false = .ok (p.config.estimates false screens) := by
    rw [Config.quote, hload]
    change (do let screens ← files.mapM SpecFile.screen; return _) = _
    rw [mapM_of_forall₂ hall.read]
    rfl
  have htold : List.Forall₂ p.Tells
      ((Config.casesOf screens).filter fun entry => !(p.config.catalog.select entry.2).usesTemplate)
      ((p.playedAll 0 screens).filter fun told => !told.2.result.resolution.isTemplate) := by
    refine List.rel_filter ?_ (p.tells_playedAll 0 screens)
    intro entry told htells
    simp only [htells.isTemplate]
  have hpath (c : CaseResult) : decide (c.path ≠ "template") = !c.resolution.isTemplate := by
    obtain ⟨screen, test, resolution⟩ := c
    cases resolution <;> rfl
  refine ⟨_, hquote, ?_, ?_, ?_⟩
  · simp only [run, hresults, hpath, List.filter_map, List.map_map]
    rw [Config.estimates_eq, List.map_map, ← List.forall₂_eq_eq_eq, List.forall₂_map_left_iff,
      List.forall₂_map_right_iff]
    refine htold.imp fun entry told htells => ?_
    exact Prod.ext (congrArg Screen.name htells.screen.symm) htells.quotes.test
  · simp only [run, hresults, htranscripts, List.map_map]
    rfl
  · simp only [run, htranscripts, List.filter_map]
    rw [Config.estimates_eq, List.forall₂_map_left_iff, List.forall₂_map_right_iff]
    exact htold.imp fun entry told htells => htells.quotes

/-- A case with a template between two without one, which have the same name. -/
theorem carryOut_quoted_twice :
    let test (name hint : String) : String := "[\"" ++ name ++ "\",null,[\"s\"],[\"a\"],\"" ++ hint ++ "\"]"
    let content := "[\"S\",\"d\",null,[" ++ test "x" "generative" ++ "," ++ test "y" "navigation" ++ "," ++
      test "x" "generative" ++ "]]"
    let tree := Tree.ofFiles [("s.json", content)]
    let p : Production := ⟨{}, some fun _ => some "key", "cli", "out",
      fun _ _ => Service.scripted [⟨0, .ok ⟨"test();", 10, 5⟩⟩]⟩
    let run := p.carryOut tree ["s.json"]
    run.trouble = none ∧ ∃ rows, p.config.quote tree ["s.json"] false = .ok rows ∧
      rows.map (fun e => (e.screen, e.test)) = [("S", "x"), ("S", "x")] ∧
      List.Forall₂ p.config.Quotes rows
        (run.transcripts.flatten.filter fun t => !t.result.resolution.isTemplate) := by
  intro test content tree p run
  have h : run.trouble = none ∧
      (run.results.filter (·.path ≠ "template")).map (fun c => (c.screen, c.test)) = [("S", "x"), ("S", "x")] := by
    decide +kernel
  obtain ⟨rows, hrows, hpairs, -, hquotes⟩ := carryOut_quoted p tree ["s.json"] h.1
  exact ⟨h.1, rows, hrows, hpairs.trans h.2, hquotes⟩

end Production

end Screenplay
