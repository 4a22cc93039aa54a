/-
Where the files of a report go. Whatever a screen and its cases are called, each name is one
component of a path that shows as it is, so storing the report writes right into the
folder and nowhere else (`files_placed`).
-/
import Screenplay.Proofs.Files.Changes
import Screenplay.Proofs.Report.FileNames

namespace Screenplay.Report

theorem head?_codeFile {r : Report} {name : String} (h : name ∈ r.codeFiles.map (·.1)) :
    name.toList.head? ≠ some '.' := by
  rw [codeFiles_names] at h
  obtain ⟨case, -, k, rfl⟩ := exists_candidate_of_mem h
  obtain ⟨rest, hrest⟩ := toList_candidate_fileStem r.screen case k
  rw [hrest]
  cases hs : (Template.kebabCase r.screen).toList with
  | nil => simp
  | cons c s =>
    have hc : Plain c := plain_kebabCase r.screen c (by simp [hs])
    simpa using hc.2.2.2

/-- What storing a report changes: folders on the way to the folder, which are made, and files of the report
right in it. -/
theorem changed_of_store {r : Report} {folder : Path} {t t' : Tree} {done : Bool}
    (h : r.store folder t = (t', done)) {place : List String} (hne : t'.get? place ≠ t.get? place) :
    (t'.get? place = some .folder ∧ t'.OnWay folder place) ∨
      ∃ dir, t'.place? folder = some dir ∧
        ∃ f ∈ r.files, place = dir ++ [f.1] ∧ t'.get? place = some (.file f.2) := by
  rw [store] at h
  split at h
  · next u hu =>
    obtain ⟨⟨dir, hdir, -⟩, hmade⟩ := Tree.made_of_makeFolder? hu
    obtain ⟨hfolders, hwritten⟩ :=
      Tree.changed_of_writeAll hdir (fun f hf => isName_of_mem (List.mem_map_of_mem hf)) h
    by_cases hplace : t'.get? place = u.get? place
    · -- The files left this place as it was, so it was made on the way.
      rw [hplace] at hne ⊢
      obtain ⟨hfolder, hway⟩ := hmade place hne
      exact .inl ⟨hfolder, hway.congr hfolders⟩
    · exact .inr ⟨dir, by rw [Tree.place?_congr hfolders, hdir], hwritten place hplace⟩
  · rw [Prod.mk.injEq] at h
    exact absurd (by rw [h.1]) hne

/-- **The files of a report stay in their folder.** The names of the files with code and of the report are
each one component of a path, without blanks and control characters, and without points but those of the
ending; the name of code does not begin with a point. So when the report is stored, what is new or has
changed, also where not all could be written, are folders that were made on the way to the folder, and files
of the report right in it. -/
theorem files_placed (r : Report) :
    (∀ name ∈ r.codeFiles.map (·.1), SafeName codeEnding name ∧ name.toList.head? ≠ some '.') ∧
    SafeName reportEnding r.fileName ∧
    ∀ folder t place,
      let after := (r.store folder t).1
      after.get? place ≠ t.get? place →
        (after.get? place = some .folder ∧ after.OnWay folder place) ∨
        ∃ dir, after.place? folder = some dir ∧
          ∃ f ∈ r.files, place = dir ++ [f.1] ∧ after.get? place = some (.file f.2) := by
  refine ⟨fun name hname => ⟨?_, head?_codeFile hname⟩, safeName_report r.screen, fun folder t place => ?_⟩
  · rw [codeFiles_names] at hname
    obtain ⟨case, -, k, rfl⟩ := exists_candidate_of_mem hname
    exact safeName_candidate r.screen case k
  · exact changed_of_store rfl

/-- A screen and a case that try to leave the folder; lower case gives the case a character that is no
letter. -/
theorem files_placed_hostile :
    let choice : Match Float := ⟨⟨.navigation, 1.0, [], 0.7⟩, true, .explicit⟩
    let r : Report := ⟨"../../etc", none, [⟨"..\\\x00\u0085İ/.ts", choice, .template .navigation "test();"⟩]⟩
    let name := "etc-i\u0307-ts.spec.ts"
    let after := (r.store "out" .empty).1
    name ∈ r.codeFiles.map (·.1) ∧ SafeName codeEnding name ∧
      after.get? ["out", name] ≠ Tree.empty.get? ["out", name] ∧
      ((after.get? ["out", name] = some .folder ∧ after.OnWay "out" ["out", name]) ∨
        ∃ dir, after.place? "out" = some dir ∧
          ∃ f ∈ r.files, ["out", name] = dir ++ [f.1] ∧ after.get? ["out", name] = some (.file f.2)) := by
  intro choice r name after
  have hname : name ∈ r.codeFiles.map (·.1) := by decide +kernel
  have hne : after.get? ["out", name] ≠ Tree.empty.get? ["out", name] := by decide +kernel
  exact ⟨hname, (r.files_placed.1 name hname).1, hne, r.files_placed.2.2 "out" .empty _ hne⟩

end Screenplay.Report
