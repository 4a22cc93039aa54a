/-
What a run of `generate` is billed for and what it records. Every case of a
specification that is worked on records its charges, so what a run was billed for
is what its reports record, specification by specification and case by case, as
long as every one that was worked on gets its report (`run_billing`).

One does not: the name of a screen is looked up among those taken only after the
screen was worked on. A specification that is turned down for its name has been
billed by then, and its charges are in no report (`run_loses_charges`).
-/
import Screenplay.Proofs.Command.Output
import Screenplay.Proofs.Generation.Charges

namespace Screenplay

/-- What is recorded for the cases of a report. -/
def Report.charges (r : Report) : List (List Charge) := r.cases.map (·.resolution.charges)

/-- What the reports of a run record, by specification and case. -/
def Run.recorded (run : Run) : List (List (List Charge)) := run.reports.map Report.charges

namespace Production

/-- What the cases of the specification with this number were charged for. -/
def chargesAt (p : Production) (number : Nat) (cases : List (Transcript CaseReport)) : List (List Charge) :=
  cases.zipIdx.map fun (t, i) => charges p.config.timeoutMs (p.services number i) t.calls

/-- What a run was billed for, by specification and case, whatever became of the specification. -/
def billed (p : Production) (run : Run) : List (List (List Charge)) :=
  run.transcripts.zipIdx.map fun (cases, number) => p.chargesAt number cases

/-- The report of a screen records what its cases were charged for. -/
theorem chargesAt_played (p : Production) (number : Nat) (screen : Screen) :
    p.chargesAt number (p.played number screen) =
      (Report.ofTranscripts screen (p.played number screen)).charges := by
  refine List.ext_getElem (by simp [chargesAt, Report.charges, Report.ofTranscripts]) fun i hi hi' => ?_
  simp only [chargesAt, Report.charges, Report.ofTranscripts, played, Config.transcripts, Config.dialogues,
    List.getElem_map, List.getElem_zipIdx, Nat.zero_add]
  exact p.config.charges_reportCase p.keys p.caller screen _ 0 _

theorem billed_append (p : Production) {run next : Run} {number : Nat} {cases : List (Transcript CaseReport)}
    (hcount : run.transcripts.length = number) (hnext : next.transcripts = run.transcripts ++ [cases]) :
    p.billed next = p.billed run ++ [p.chargesAt number cases] := by
  rw [billed, hnext, List.zipIdx_append, List.map_append, Nat.zero_add, hcount]
  rfl

/-! ## Runs -/

/-- The accounts of a run that goes on with this number, while the disk does not fail. -/
structure Accounted (p : Production) (number : Nat) (run : Run) : Prop where
  count : run.trouble = none → run.transcripts.length = number
  balanced : (∀ earlier path name, run.trouble ≠ some (.taken earlier path name)) → p.billed run = run.recorded
  lost : ∀ earlier path name, run.trouble = some (.taken earlier path name) →
    ∃ bill, p.billed run = run.recorded ++ [bill]

theorem Adds.accounted {p : Production} {run next : Run} {number : Nat} {file : SpecFile}
    (h : p.Adds run number file next) (hn : run.trouble = none) (ha : p.Accounted number run)
    (hnext : next.trouble ≠ some (.of .file)) : p.Accounted (number + 1) next := by
  have hcount := ha.count hn
  have hbalanced := ha.balanced (by rw [hn]; nofun)
  cases h with
  | invalid trouble hs =>
    refine ⟨nofun, fun _ => hbalanced, fun earlier path name ht => ?_⟩
    exact absurd (Option.some.inj ht) (Trouble.during_ne_taken _ trouble earlier path name)
  | taken screen earlier hs hh =>
    refine ⟨nofun, fun hno => absurd rfl (hno _ _ _), fun _ _ _ _ => ⟨p.chargesAt number (p.played number screen), ?_⟩⟩
    rw [p.billed_append hcount rfl, hbalanced]
    rfl
  | broken screen tree hs hh hst => exact absurd rfl hnext
  | stored screen tree hs hh hst =>
    refine ⟨fun _ => ?_, fun _ => ?_, fun earlier path name ht => ?_⟩
    · rw [List.length_append, hcount, List.length_singleton]
    · rw [p.billed_append hcount rfl, hbalanced, chargesAt_played, Run.recorded, Run.recorded, List.map_append]
      rfl
    · rw [hn] at ht
      cases ht

theorem accounted_of_run (p : Production) (tree : Tree) {files : List SpecFile}
    (h : (p.run tree files).trouble ≠ some (.of .file)) : ∃ n, p.Accounted n (p.run tree files) := by
  obtain ⟨n, ha⟩ := p.run_induction tree (P := fun n run => run.trouble ≠ some (.of .file) → p.Accounted n run)
    (fun number run file next hn ha hadds => hadds.accounted hn (ha (by rw [hn]; nofun)))
    (fun _ => ⟨fun _ => rfl, fun _ => rfl, fun _ _ _ => nofun⟩) files
  exact ⟨n, ha h⟩

/-- **What a run is billed for.** As long as the disk does not fail, and unless the run stops at a name
that is taken, whatever the service completed in time is recorded with the case that it was for, once, in
a report that is on the disk. A run that stops at a taken name has lost the charges of the specification
that it stopped at, and no others. -/
theorem run_billing (p : Production) (tree : Tree) (files : List SpecFile)
    (h : (p.run tree files).trouble ≠ some (.of .file)) :
    let run := p.run tree files
    ((∀ earlier path name, run.trouble ≠ some (.taken earlier path name)) → p.billed run = run.recorded) ∧
    (∀ earlier path name, run.trouble = some (.taken earlier path name) →
      ∃ bill, p.billed run = run.recorded ++ [bill]) ∧
    ∀ r ∈ run.reports, run.tree.read? (Path.child p.out r.fileName) = some r.toJson.pretty := by
  intro run
  obtain ⟨n, ha⟩ := p.accounted_of_run tree h
  exact ⟨ha.balanced, ha.lost, fun r hr => (p.kept_of_run tree h).read?_report hr⟩

/-- A case that gets code, and one whose completion has none in it. -/
theorem run_billing_without_code :
    let test (name : String) : CaseDraft :=
      ⟨some name, none, some ["open it"], some ["it opens"], some "generative", none, none⟩
    let files : List SpecFile := [⟨"inbox.yaml", ⟨some "Inbox", some "The mail", none, some [test "opens", test "closes"]⟩⟩]
    let services : Nat → Nat → Service := fun _ i =>
      Service.scripted [⟨0, .ok ⟨if i = 0 then "test();" else "", 10 + i, 5⟩⟩]
    let p : Production := ⟨{}, some fun _ => some "key", "cli", "out", services⟩
    let run := p.run .empty files
    run.trouble = none ∧ p.billed run = run.recorded ∧
      run.recorded = [[[⟨"claude-haiku-4-5", 10, 5⟩], [⟨"claude-haiku-4-5", 11, 5⟩]]] := by
  intro test files services p run
  have h : run.trouble = none := by decide +kernel
  refine ⟨h, (run_billing p .empty files ?_).1 ?_, by decide +kernel⟩
  · rw [show (p.run .empty files).trouble = none from h]
    nofun
  · rw [show (p.run .empty files).trouble = none from h]
    nofun

/-- Two specifications of one screen: both are billed, and only the first one has a report. -/
theorem run_loses_charges :
    let test : CaseDraft := ⟨some "opens", none, some ["open it"], some ["it opens"], some "generative", none, none⟩
    let files : List SpecFile := [⟨"mail.yaml", ⟨some "Inbox", some "The mail", none, some [test]⟩⟩,
      ⟨"inbox.yaml", ⟨some "inbox", some "The mail again", none, some [test]⟩⟩]
    let p : Production := ⟨{}, some fun _ => some "key", "cli", "out",
      fun number _ => Service.scripted [⟨0, .ok ⟨"test();", 10 + number, 5⟩⟩]⟩
    let run := p.run .empty files
    run.trouble = some (.taken "mail.yaml" "inbox.yaml" "inbox") ∧
      p.billed run = [[[⟨"claude-haiku-4-5", 10, 5⟩]], [[⟨"claude-haiku-4-5", 11, 5⟩]]] ∧
      run.recorded = [[[⟨"claude-haiku-4-5", 10, 5⟩]]] := by
  decide +kernel

end Production

end Screenplay
