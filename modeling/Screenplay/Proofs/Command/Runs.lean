/-
What a run of `generate` can come to. Working on one specification has four
outcomes (`Adds`): it is invalid, its name is taken, its report is stored, or the
disk fails. What all of them keep holds of the whole run (`run_induction`). A run
without trouble has worked on every specification, in order, and each of them has its
report (`completed_run`).
-/
import Mathlib.Data.List.Forall2
import Screenplay.Command.Generate

namespace Screenplay

/-- The files that a run has written for its reports, in the order in which they were written. -/
def Run.written (run : Run) : List (String × String) := run.reports.flatMap Report.files

/-- The trouble with a name that an earlier specification has taken. -/
def Trouble.taken (earlier path : Path) (name : String) : Trouble :=
  .said (earlier ++ " and " ++ path ++ " both write output for screen '" ++ name ++ "'")

theorem Trouble.during_ne_taken (doing : String) (t : Trouble) (earlier path : Path) (name : String) :
    t.during doing ≠ .taken earlier path name := fun h => nomatch congrArg Trouble.doing h

namespace Production

/-! ## One specification -/

/-- What happens in the cases of a screen that comes with this number. -/
def played (p : Production) (number : Nat) (screen : Screen) : List (Transcript CaseReport) :=
  p.config.transcripts p.keys p.caller (p.services number) screen

/-- What a run can come to with one more specification. -/
inductive Adds (p : Production) (run : Run) (number : Nat) (file : SpecFile) : Run → Prop
  | invalid (trouble : Trouble) : file.screen = .error trouble →
      Adds p run number file (run.stop (trouble.during ("Invalid spec " ++ file.path)))
  | taken (screen : Screen) (earlier : Path) : file.screen = .ok screen →
      run.holder? (Template.kebabCase screen.name) = some earlier →
      Adds p run number file
        ({ run with transcripts := run.transcripts ++ [p.played number screen] }.stop
          (.taken earlier file.path (Template.kebabCase screen.name)))
  | stored (screen : Screen) (tree : Tree) : file.screen = .ok screen →
      run.holder? (Template.kebabCase screen.name) = none →
      (Report.ofTranscripts screen (p.played number screen)).store p.out run.tree = (tree, true) →
      Adds p run number file
        { run with
          transcripts := run.transcripts ++ [p.played number screen]
          reports := run.reports ++ [.ofTranscripts screen (p.played number screen)]
          claims := (Template.kebabCase screen.name, file.path) :: run.claims
          tree := tree }
  | broken (screen : Screen) (tree : Tree) : file.screen = .ok screen →
      run.holder? (Template.kebabCase screen.name) = none →
      (Report.ofTranscripts screen (p.played number screen)).store p.out run.tree = (tree, false) →
      Adds p run number file
        ({ run with
          transcripts := run.transcripts ++ [p.played number screen]
          claims := (Template.kebabCase screen.name, file.path) :: run.claims
          tree := tree }.stop (.of .file))

theorem adds_add (p : Production) (run : Run) (number : Nat) (file : SpecFile) :
    p.Adds run number file (p.add run number file) := by
  rw [add]
  split
  · next trouble hs => exact .invalid trouble hs
  · next screen hs =>
    have hname : (Report.ofTranscripts screen (p.played number screen)).screen = screen.name := rfl
    dsimp only
    unfold Run.record
    dsimp only
    split
    · next earlier hh => exact .taken screen earlier hs hh
    · next hh =>
      have hh' : run.holder? (Template.kebabCase screen.name) = none := hh
      cases hst : (Report.ofTranscripts screen (p.played number screen)).store p.out run.tree with
      | mk tree done =>
        rw [played] at hst
        rw [hst]
        cases done with
        | true => exact .stored screen tree hs hh' hst
        | false => exact .broken screen tree hs hh' hst

/-! ## All specifications -/

theorem addAll_of_trouble (p : Production) {run : Run} (h : run.trouble ≠ none) (number : Nat)
    (files : List SpecFile) : p.addAll run number files = run := by
  cases files with
  | nil => rfl
  | cons file rest =>
    rw [addAll]
    split
    · rfl
    · next hn => exact absurd hn h

/-- What every specification keeps holds at the end of a run. The number is that of the next
specification, were there one. -/
theorem addAll_induction {P : Nat → Run → Prop} (p : Production)
    (hstep : ∀ number run file next, run.trouble = none → P number run → p.Adds run number file next →
      P (number + 1) next)
    {number : Nat} {run : Run} (h : P number run) (files : List SpecFile) :
    ∃ n, P n (p.addAll run number files) := by
  induction files generalizing run number with
  | nil => exact ⟨number, h⟩
  | cons file rest ih =>
    rw [addAll]
    split
    · exact ⟨number, h⟩
    · next hn => exact ih (hstep number run file _ hn h (p.adds_add run number file))

theorem run_induction {P : Nat → Run → Prop} (p : Production) (tree : Tree)
    (hstep : ∀ number run file next, run.trouble = none → P number run → p.Adds run number file next →
      P (number + 1) next)
    (h : P 0 (.start tree)) (files : List SpecFile) : ∃ n, P n (p.run tree files) :=
  p.addAll_induction hstep h files

theorem addAll_append (p : Production) (run : Run) (number : Nat) (before after : List SpecFile) :
    p.addAll run number (before ++ after) = p.addAll (p.addAll run number before) (number + before.length) after := by
  induction before generalizing run number with
  | nil => rfl
  | cons file rest ih =>
    rw [List.cons_append, addAll, addAll]
    split
    · next t ht => rw [addAll_of_trouble p (by rw [ht]; nofun)]
    · rw [ih, List.length_cons, Nat.add_assoc, Nat.add_comm 1]

/-- What a run has come to with more specifications, the first of which has this number, when there was no
trouble: all of them have screens, and each screen has its cases played and its report, and its name is taken. -/
structure Completed (p : Production) (run : Run) (number : Nat) (files : List SpecFile) (screens : List Screen)
    (next : Run) : Prop where
  read : List.Forall₂ (fun file screen => file.screen = .ok screen) files screens
  transcripts : next.transcripts =
    run.transcripts ++ (screens.zipIdx number).map fun (screen, n) => p.played n screen
  reports : next.reports =
    run.reports ++ (screens.zipIdx number).map fun (screen, n) => .ofTranscripts screen (p.played n screen)
  names : next.claims.map (·.1) =
    (screens.map fun screen => Template.kebabCase screen.name).reverse ++ run.claims.map (·.1)

theorem Completed.nil (p : Production) (run : Run) (number : Nat) : p.Completed run number [] [] run where
  read := .nil
  transcripts := (List.append_nil _).symm
  reports := (List.append_nil _).symm
  names := rfl

theorem Completed.cons {p : Production} {run next last : Run} {number : Nat} {file : SpecFile}
    {files : List SpecFile} {screens : List Screen} (hadds : p.Adds run number file next) (hn : next.trouble = none)
    (h : p.Completed next (number + 1) files screens last) :
    ∃ screen, p.Completed run number (file :: files) (screen :: screens) last := by
  cases hadds with
  | invalid trouble hs => cases hn
  | taken screen earlier hs hh => cases hn
  | broken screen tree hs hh hst => cases hn
  | stored screen tree hs hh hst =>
    refine ⟨screen, .cons hs h.read, ?_, ?_, ?_⟩
    · rw [h.transcripts, List.append_assoc]
      rfl
    · rw [h.reports, List.append_assoc]
      rfl
    · rw [h.names, List.map_cons (l := screens), List.reverse_cons, List.append_assoc]
      rfl

theorem completed_addAll (p : Production) {run : Run} (number : Nat) {files : List SpecFile}
    (h : (p.addAll run number files).trouble = none) :
    ∃ screens, p.Completed run number files screens (p.addAll run number files) := by
  induction files generalizing run number with
  | nil => exact ⟨[], .nil p run number⟩
  | cons file rest ih =>
    rw [addAll] at h ⊢
    split at h
    · next t ht => rw [h] at ht; cases ht
    · obtain ⟨screens, hrest⟩ := ih (number + 1) h
      have hnext : (p.add run number file).trouble = none := by
        by_cases hne : (p.add run number file).trouble = none
        · exact hne
        · rwa [addAll_of_trouble p hne] at h
      obtain ⟨screen, hall⟩ := hrest.cons (p.adds_add run number file) hnext
      exact ⟨screen :: screens, hall⟩

/-- **A run without trouble has worked on all specifications.** -/
theorem completed_run (p : Production) (tree : Tree) {files : List SpecFile} (h : (p.run tree files).trouble = none) :
    ∃ screens, p.Completed (.start tree) 0 files screens (p.run tree files) :=
  p.completed_addAll 0 h

theorem screens_of_run (p : Production) (tree : Tree) {files : List SpecFile} (h : (p.run tree files).trouble = none) :
    (p.run tree files).reports.map (some ·.screen) = files.map (·.screen.toOption.map (·.name)) := by
  obtain ⟨screens, hall⟩ := p.completed_run tree h
  have hnames (number : Nat) : (screens.zipIdx number).map (fun entry => some entry.1.name) = screens.map (some ·.name) := by
    rw [← List.zipIdx_map_fst number screens, List.map_map, List.zipIdx_map_fst]
    rfl
  have hread := hall.read
  rw [hall.reports, Run.start, List.nil_append, List.map_map]
  refine (hnames 0).trans ?_
  clear hall hnames h
  induction hread with
  | nil => rfl
  | cons hs hrest ih => rw [List.map_cons, List.map_cons, ih, hs]; rfl

end Production

end Screenplay
