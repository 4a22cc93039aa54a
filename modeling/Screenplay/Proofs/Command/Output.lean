/-
What a run of `generate` leaves on the disk. As long as the disk does not fail, the
names that are taken are those of the reports, and every file has the content
that was written last under its name (`Kept`).

The screens of a run differ in kebab case, but file names join the screen and the
case by a hyphen, and the name of a screen may itself begin with that of another and a
hyphen. Without such screens no file is written twice, and all of them are there at
the end (`run_files`); with them a later specification can write over the code of an
earlier one (`run_overwrites`).
-/
import Mathlib.Data.List.Nodup
import Screenplay.Proofs.Command.Runs
import Screenplay.Proofs.Report.FileNames

namespace Screenplay

/-! ## One report -/

theorem mem_of_lookup {l : List (String × String)} {name content : String} (h : l.lookup name = some content) :
    (name, content) ∈ l := by
  obtain ⟨front, back, rfl, -⟩ := List.lookup_eq_some_iff.1 h
  simp

theorem lookup_of_unique {l : List (String × String)} {name content : String} (h : (name, content) ∈ l)
    (hunique : ∀ other, (name, other) ∈ l → other = content) : l.lookup name = some content := by
  cases hl : l.lookup name with
  | none =>
    have := List.lookup_eq_none_iff.1 hl _ h
    simp at this
  | some other => rw [hunique other (mem_of_lookup hl)]

theorem lookup_of_nodup {l : List (String × String)} (h : (l.map (·.1)).Nodup) {f : String × String}
    (hf : f ∈ l) : l.lookup f.1 = some f.2 :=
  lookup_of_unique hf fun _ hother => congrArg Prod.snd (List.inj_on_of_nodup_map h hother hf rfl)

/-- A file that is called like a report is the report of a screen with the same slug. -/
theorem Report.eq_pretty_of_mem {r r' : Report} {content : String} (h : (r.fileName, content) ∈ r'.files) :
    r.slug = r'.slug ∧ content = r'.toJson.pretty := by
  rcases List.mem_append.1 h with h | h
  · have hname : r.fileName ∈ r'.codeFiles.map (·.1) := List.mem_map_of_mem h
    rw [codeFiles_names] at hname
    obtain ⟨case, -, k, hk⟩ := exists_candidate_of_mem hname
    exact absurd hk.symm (candidate_ne_report _ k _)
  · obtain ⟨hname, hcontent⟩ := Prod.mk.inj (List.mem_singleton.1 h)
    exact ⟨(String.append_left_inj reportEnding).1 hname, hcontent⟩

/-- Storing a report puts its files there, and leaves the files of other names. -/
theorem Report.read?_store {r : Report} {folder : Path} {t t' : Tree} (h : r.store folder t = (t', true))
    {name content : String} (hn : Path.IsName name)
    (hc : (r.files.reverse.lookup name).or (t.read? (Path.child folder name)) = some content) :
    t'.read? (Path.child folder name) = some content := by
  rw [store] at h
  split at h
  · next u hu =>
    rw [Tree.read?_writeAll (fun f hf => isName_of_mem (List.mem_map_of_mem hf)) h hn]
    cases hl : r.files.reverse.lookup name with
    | some c => rwa [hl] at hc
    | none =>
      rw [hl] at hc
      exact Tree.read?_makeFolder? hu hc
  · cases h

/-! ## All reports -/

namespace Run

theorem isName_of_mem {run : Run} {f : String × String} (h : f ∈ run.written) : Path.IsName f.1 := by
  obtain ⟨r, -, hf⟩ := List.mem_flatMap.1 h
  exact Report.isName_of_mem (List.mem_map_of_mem hf)

/-- The names that are taken, and what is on the disk, while the disk does not fail. -/
structure Kept (out : Path) (run : Run) : Prop where
  claims : run.claims.map (·.1) = (run.reports.map Report.slug).reverse
  distinct : (run.reports.map Report.slug).Nodup
  onDisk : ∀ name content, run.written.reverse.lookup name = some content →
    run.tree.read? (Path.child out name) = some content

theorem Kept.stop {out : Path} {run : Run} (h : Kept out run) (trouble : Trouble) : Kept out (run.stop trouble) :=
  ⟨h.claims, h.distinct, h.onDisk⟩

theorem Kept.not_mem {out : Path} {run : Run} (h : Kept out run) {name : String} (hn : run.holder? name = none) :
    name ∉ run.reports.map Report.slug := by
  intro hm
  have hc : name ∈ run.claims.map (·.1) := by
    rw [h.claims]
    exact List.mem_reverse.2 hm
  obtain ⟨claim, hclaim, rfl⟩ := List.mem_map.1 hc
  have := List.lookup_eq_none_iff.1 hn claim hclaim
  simp at this

theorem Kept.read?_report {out : Path} {run : Run} (h : Kept out run) {r : Report} (hr : r ∈ run.reports) :
    run.tree.read? (Path.child out r.fileName) = some r.toJson.pretty := by
  refine h.onDisk _ _ (lookup_of_unique ?_ fun other hother => ?_)
  · exact List.mem_reverse.2 (List.mem_flatMap.2 ⟨r, hr, by simp [Report.files]⟩)
  · obtain ⟨r', hr', hfile⟩ := List.mem_flatMap.1 (List.mem_reverse.1 hother)
    obtain ⟨hslug, hcontent⟩ := Report.eq_pretty_of_mem hfile
    rw [List.inj_on_of_nodup_map h.distinct hr hr' hslug]
    exact hcontent

end Run

namespace Production

theorem Adds.kept {p : Production} {run next : Run} {number : Nat} {file : SpecFile}
    (h : p.Adds run number file next) (hk : run.Kept p.out) (hnext : next.trouble ≠ some (.of .file)) :
    next.Kept p.out := by
  cases h with
  | invalid trouble hs => exact hk.stop _
  | taken screen earlier hs hh => exact ⟨hk.claims, hk.distinct, hk.onDisk⟩
  | broken screen tree hs hh hst => exact absurd rfl hnext
  | stored screen tree hs hh hst =>
    have hslug : (Report.ofTranscripts screen (p.played number screen)).slug = Template.kebabCase screen.name := rfl
    refine ⟨?_, ?_, fun name content hl => ?_⟩
    · rw [List.map_cons, List.map_append, List.reverse_append, hk.claims]
      rfl
    · rw [List.map_append, List.nodup_append]
      refine ⟨hk.distinct, by simp, fun a ha b hb => ?_⟩
      rw [List.map_singleton, List.mem_singleton, hslug] at hb
      rintro rfl
      exact hk.not_mem hh (hb ▸ ha)
    · have hname : Path.IsName name := Run.isName_of_mem (List.mem_reverse.1 (mem_of_lookup hl))
      simp only [Run.written, List.flatMap_append, List.flatMap_singleton, List.reverse_append,
        List.lookup_append] at hl
      refine Report.read?_store hst hname ?_
      rw [Option.or_eq_some_iff] at hl ⊢
      exact hl.imp_right fun ⟨hnone, hold⟩ => ⟨hnone, hk.onDisk name content hold⟩

/-- As long as the disk does not fail, names and files are kept. -/
theorem kept_of_run (p : Production) (tree : Tree) {files : List SpecFile}
    (h : (p.run tree files).trouble ≠ some (.of .file)) : (p.run tree files).Kept p.out := by
  obtain ⟨-, hkept⟩ := p.run_induction tree (P := fun _ run => run.trouble ≠ some (.of .file) → run.Kept p.out)
    (fun number run file next hn hk hadds => hadds.kept (hk (by rw [hn]; nofun)))
    (fun _ => ⟨rfl, List.nodup_nil, fun name content hl => nomatch hl⟩) files
  exact hkept h

/-- Where no screen is nested in another, no two files of a run have one name. -/
theorem nodup_written {p : Production} {run : Run} (hk : run.Kept p.out)
    (h : run.reports.Pairwise fun r r' => ¬ Nested r.slug r'.slug ∧ ¬ Nested r'.slug r.slug) :
    (run.written.map (·.1)).Nodup := by
  have hdistinct : run.reports.Pairwise fun r r' => r.slug ≠ r'.slug := List.pairwise_map.1 hk.distinct
  rw [Run.written, List.map_flatMap, List.Nodup, List.pairwise_flatMap]
  refine ⟨fun r _ => r.nodup_files, (hdistinct.and h).imp fun {r r'} hr name hname name' hname' => ?_⟩
  rintro rfl
  rcases Report.eq_or_nested_of_mem hname hname' with he | hnest | hnest
  · exact hr.1 he
  · exact hr.2.1 hnest
  · exact hr.2.2 hnest

/-- **The files of a run.** A run without trouble has a report for every specification, in order; the
files of each report have different names; and under each name there is, at the end, what was written last.
If no screen is nested in another, no name is written twice, so every file is there as it was written. -/
theorem run_files (p : Production) (tree : Tree) (files : List SpecFile) (h : (p.run tree files).trouble = none) :
    let run := p.run tree files
    run.reports.map (some ·.screen) = files.map (·.screen.toOption.map (·.name)) ∧
    (∀ r ∈ run.reports, (r.files.map (·.1)).Nodup) ∧
    (∀ name content, run.written.reverse.lookup name = some content →
      run.tree.read? (Path.child p.out name) = some content) ∧
    ((run.reports.Pairwise fun r r' => ¬ Nested r.slug r'.slug ∧ ¬ Nested r'.slug r.slug) →
      (run.written.map (·.1)).Nodup ∧
        ∀ f ∈ run.written, run.tree.read? (Path.child p.out f.1) = some f.2) := by
  intro run
  have hk : run.Kept p.out := p.kept_of_run tree (by rw [h]; nofun)
  refine ⟨p.screens_of_run tree h, fun r _ => r.nodup_files, hk.onDisk, fun hnest => ?_⟩
  have hnodup := nodup_written hk hnest
  refine ⟨hnodup, fun f hf => hk.onDisk f.1 f.2 ?_⟩
  refine lookup_of_nodup ?_ (List.mem_reverse.2 hf)
  rw [List.map_reverse, List.Nodup, List.pairwise_reverse]
  exact hnodup.imp Ne.symm

/-- Two screens that are not nested, and two cases of one name. -/
theorem run_files_apart :
    let test : CaseDraft := ⟨some "opens", none, some ["open it"], some ["it opens"], some "navigation", none, none⟩
    let files : List SpecFile := [⟨"team.yaml", ⟨some "Team", some "The team", none, some [test, test]⟩⟩,
      ⟨"inbox.yaml", ⟨some "Inbox", some "The mail", none, some [test]⟩⟩]
    let p : Production := ⟨{}, none, "cli", "out", fun _ _ => Service.scripted []⟩
    let run := p.run .empty files
    run.trouble = none ∧
      run.written.map (·.1) = ["team-opens.spec.ts", "team-opens-2.spec.ts", "team.report.json",
        "inbox-opens.spec.ts", "inbox.report.json"] ∧
      ∀ f ∈ run.written, run.tree.read? (Path.child p.out f.1) = some f.2 := by
  intro test files p run
  have h : run.trouble = none := by decide +kernel
  refine ⟨h, by decide +kernel, ((run_files p .empty files h).2.2.2 ?_).2⟩
  decide +kernel

/-- Two screens one of which is nested in the other: the second specification writes over the code of
the first, and the run has no trouble with it. -/
theorem run_overwrites :
    let test (name : String) : CaseDraft :=
      ⟨some name, none, some ["open it"], some ["it opens"], some "navigation", none, none⟩
    let files : List SpecFile := [⟨"team.yaml", ⟨some "Team", some "The team", none, some [test "settings opens"]⟩⟩,
      ⟨"settings.yaml", ⟨some "Team settings", some "Its settings", none, some [test "opens"]⟩⟩]
    let p : Production := ⟨{}, none, "cli", "out", fun _ _ => Service.scripted []⟩
    let run := p.run .empty files
    run.trouble = none ∧
      run.reports.map (fun r => r.codeFiles.map (·.1)) =
        [["team-settings-opens.spec.ts"], ["team-settings-opens.spec.ts"]] ∧
      ∃ r ∈ run.reports, ∃ f ∈ r.codeFiles, run.tree.read? (Path.child p.out f.1) ≠ some f.2 := by
  decide +kernel

end Production

end Screenplay
