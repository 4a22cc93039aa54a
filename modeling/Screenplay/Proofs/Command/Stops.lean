/-
Where a run of `generate` stops, and what it leaves behind. Everything is loaded
before anything is worked on, so inputs that cannot be loaded cost no call and no file.
After that a run stops at the first specification that cannot come after those before
it, and leaves the disk as the run over those before it does (`carryOut_stops`).
-/
import Mathlib.Data.List.Induction
import Screenplay.Proofs.Command.Runs

namespace Screenplay

/-! ## Loading -/

theorem exists_error_of_mapM {ε α β : Type} {f : α → Except ε β} {l : List α} {a : α} (ha : a ∈ l) {e : ε}
    (h : f a = .error e) : ∃ first, l.mapM f = .error first := by
  induction l with
  | nil => cases ha
  | cons b l ih =>
    rw [List.mapM_cons]
    cases hb : f b with
    | error first => exact ⟨first, rfl⟩
    | ok result =>
      have hrest : a ∈ l := by
        rcases List.mem_cons.1 ha with rfl | hrest
        · rw [h] at hb
          cases hb
        · exact hrest
      obtain ⟨first, hfirst⟩ := ih hrest
      rw [hfirst]
      exact ⟨first, rfl⟩

namespace SpecFile

/-- The files that an input stands for. -/
def paths (tree : Tree) (input : Path) : List Path :=
  if tree.hasFolder input then (tree.filesBelow input).filter isSpec else [input]

/-- Inputs one of which is missing, or stands for a file that has no specification in it. -/
def Unloadable (tree : Tree) (inputs : List Path) : Prop :=
  ∃ input ∈ inputs, tree.exists? input = false ∨
    ∃ path ∈ paths tree input, ∃ text trouble, tree.read? path = some text ∧ parse path text = .error trouble

theorem load_of_parse {tree : Tree} {path : Path} {text : String} {trouble : Trouble}
    (hread : tree.read? path = some text) (hparse : parse path text = .error trouble) :
    load tree path = .error (trouble.during ("Failed to parse " ++ path)) := by
  rw [load, readText, hread, orTrouble]
  change (do let draft ← (parse path text).mapError _; return _) = _
  rw [hparse]
  rfl

theorem loadInput_of_missing {tree : Tree} {input : Path} (h : tree.exists? input = false) :
    loadInput tree input = .error (.said ("No such file or directory: " ++ input)) := by
  have hfolder : tree.hasFolder input = false := by
    rw [Tree.exists?, Option.isSome_eq_false_iff, Option.isNone_iff_eq_none] at h
    rw [Tree.hasFolder, h]
    rfl
  rw [loadInput, hfolder, h]
  rfl

theorem loadInput_of_load {tree : Tree} {input path : Path} (hpath : path ∈ paths tree input) {trouble : Trouble}
    (h : load tree path = .error trouble) : ∃ first, loadInput tree input = .error first := by
  rw [paths] at hpath
  rw [loadInput]
  split at hpath
  · next hfolder =>
    rw [if_pos hfolder]
    exact exists_error_of_mapM hpath h
  · next hfolder =>
    rw [List.mem_singleton] at hpath
    subst hpath
    rw [if_neg hfolder]
    split
    · rw [h]
      exact ⟨trouble, rfl⟩
    · exact ⟨_, rfl⟩

/-- **Nothing is loaded from inputs that cannot all be loaded.** -/
theorem loadAll_of_unloadable {tree : Tree} {inputs : List Path} (h : Unloadable tree inputs) :
    ∃ trouble, loadAll tree inputs = .error trouble := by
  obtain ⟨input, hinput, hbad⟩ := h
  have hload : ∃ trouble, loadInput tree input = .error trouble := by
    rcases hbad with hmissing | ⟨path, hpath, text, trouble, hread, hparse⟩
    · exact ⟨_, loadInput_of_missing hmissing⟩
    · exact loadInput_of_load hpath (load_of_parse hread hparse)
  obtain ⟨trouble, htrouble⟩ := hload
  obtain ⟨first, hfirst⟩ := exists_error_of_mapM hinput htrouble
  refine ⟨first, ?_⟩
  rw [loadAll, hfirst]
  rfl

/-- A specification that cannot come after these ones: it is invalid, or one of them is for a screen of the
same name in kebab case. -/
inductive Unfit (before : List SpecFile) (file : SpecFile) : Prop
  | invalid (trouble : Trouble) : file.screen = .error trouble → Unfit before file
  | taken (screen other : Screen) (earlier : SpecFile) : file.screen = .ok screen → earlier ∈ before →
      earlier.screen = .ok other → Template.kebabCase other.name = Template.kebabCase screen.name → Unfit before file

end SpecFile

/-! ## Stopping -/

theorem Run.outcome_tree (run : Run) (format : Format) (out : Path) :
    (run.outcome format out).tree = run.tree ∧ (run.outcome format out).trouble = run.trouble := by
  rw [outcome]
  split
  · next trouble h => exact ⟨rfl, h.symm⟩
  · next h => exact ⟨rfl, h.symm⟩

theorem Run.holder?_isSome (run : Run) (name : String) :
    (run.holder? name).isSome = true ↔ name ∈ run.claims.map (·.1) := by
  rw [holder?, List.lookup_isSome_iff, List.mem_map]
  simp only [beq_iff_eq, @eq_comm _ name]

namespace Production

variable {p : Production} {tree : Tree} {before : List SpecFile}

theorem run_append (p : Production) (tree : Tree) (before after : List SpecFile) :
    p.run tree (before ++ after) = p.addAll (p.run tree before) before.length after := by
  rw [run, addAll_append, Nat.zero_add]
  rfl

/-- A name is taken after a run without trouble if one of its specifications is for a screen of that name. -/
theorem holder?_of_run (h : (p.run tree before).trouble = none) (name : String) :
    ((p.run tree before).holder? name).isSome = true ↔
      ∃ earlier ∈ before, ∃ other, earlier.screen = .ok other ∧ Template.kebabCase other.name = name := by
  obtain ⟨screens, hall⟩ := p.completed_run tree h
  have hread := hall.read
  rw [Run.holder?_isSome, hall.names, Run.start, List.map_nil, List.append_nil, List.mem_reverse, List.mem_map]
  clear hall h
  induction hread with
  | nil => simp
  | cons hs hrest ih => simp [ih, hs]

/-- What a run makes of a specification that cannot come next: it stops, and leaves files and reports. -/
structure Refused (run next : Run) : Prop where
  trouble : next.trouble.isSome = true
  tree : next.tree = run.tree
  reports : next.reports = run.reports

/-- **A specification that cannot come next is refused.** -/
theorem refused_of_unfit {file : SpecFile} (h : (p.run tree before).trouble = none)
    (hunfit : SpecFile.Unfit before file) : Refused (p.run tree before) (p.add (p.run tree before) before.length file) := by
  have hadds := p.adds_add (p.run tree before) before.length file
  generalize p.add (p.run tree before) before.length file = next at hadds
  have hheld : ∀ screen, file.screen = .ok screen →
      (p.run tree before).holder? (Template.kebabCase screen.name) ≠ none := by
    intro screen hs
    cases hunfit with
    | invalid trouble hs' => rw [hs] at hs'; cases hs'
    | taken screen' other earlier hs' hmem hother hname =>
      rw [hs] at hs'
      cases hs'
      exact Option.isSome_iff_ne_none.1 ((holder?_of_run h _).2 ⟨earlier, hmem, other, hother, hname⟩)
  cases hadds with
  | invalid trouble hs => exact ⟨rfl, rfl, rfl⟩
  | taken screen earlier hs hh => exact ⟨rfl, rfl, rfl⟩
  | stored screen tree hs hh hst => exact absurd hh (hheld screen hs)
  | broken screen tree hs hh hst => exact absurd hh (hheld screen hs)

theorem refused_run {file : SpecFile} {rest : List SpecFile} (h : (p.run tree before).trouble = none)
    (hunfit : SpecFile.Unfit before file) : Refused (p.run tree before) (p.run tree (before ++ file :: rest)) := by
  have hrefused := refused_of_unfit h hunfit
  have hstays : p.run tree (before ++ file :: rest) = p.add (p.run tree before) before.length file := by
    rw [run_append, addAll, h]
    exact p.addAll_of_trouble (Option.isSome_iff_ne_none.1 hrefused.trouble) _ rest
  rwa [hstays]

/-- **Unless the disk fails, a run that stops does so at a specification that cannot come next.** -/
theorem exists_unfit (p : Production) (tree : Tree) {files : List SpecFile}
    (h : (p.run tree files).trouble.isSome = true) (hdisk : (p.run tree files).trouble ≠ some (.of .file)) :
    ∃ before file rest, files = before ++ file :: rest ∧ (p.run tree before).trouble = none ∧
      SpecFile.Unfit before file := by
  -- the induction is on the last specification: there the run either had stopped before, or stops
  induction files using List.reverseRecOn with
  | nil => cases h
  | append_singleton init file ih =>
    cases hinit : (p.run tree init).trouble with
    | some trouble =>
      have hsame : p.run tree (init ++ [file]) = p.run tree init := by
        rw [run_append]
        exact p.addAll_of_trouble (by rw [hinit]; nofun) _ _
      rw [hsame] at h hdisk
      obtain ⟨before, stop, rest, rfl, hbefore, hunfit⟩ := ih h hdisk
      exact ⟨before, stop, rest ++ [file], by simp, hbefore, hunfit⟩
    | none =>
      refine ⟨init, file, [], rfl, hinit, ?_⟩
      have hlast : p.run tree (init ++ [file]) = p.add (p.run tree init) init.length file := by
        rw [run_append, addAll, hinit]
        rfl
      rw [hlast] at h hdisk
      have hadds := p.adds_add (p.run tree init) init.length file
      generalize p.add (p.run tree init) init.length file = next at h hdisk hadds
      cases hadds with
      | invalid trouble hs => exact .invalid trouble hs
      | taken screen earlier hs hh =>
        have hheld : ((p.run tree init).holder? (Template.kebabCase screen.name)).isSome = true := by rw [hh]; rfl
        obtain ⟨earlier, hmem, other, hother, hname⟩ := (holder?_of_run hinit _).1 hheld
        exact .taken screen other earlier hs hmem hother hname
      | stored screen tree hs hh hst => rw [hinit] at h; cases h
      | broken screen tree hs hh hst => exact absurd rfl hdisk

/-- **What a run that stops leaves behind.** Inputs that cannot be loaded make no call and write nothing. A run
over loaded specifications stops at the first that is invalid, or for a screen whose name is taken, and what is on
the disk and in the reports is then what the run over the specifications before that one leaves: nothing at all, if
it is the first. Unless the disk fails, a run stops for no other reason. -/
theorem carryOut_stops (p : Production) (tree : Tree) (inputs : List Path) :
    let run := p.carryOut tree inputs
    (∀ format, (run.outcome format p.out).tree = run.tree ∧ (run.outcome format p.out).trouble = run.trouble) ∧
    (SpecFile.Unloadable tree inputs → ∃ trouble, SpecFile.loadAll tree inputs = .error trouble) ∧
    (∀ trouble, SpecFile.loadAll tree inputs = .error trouble →
      run.trouble = some trouble ∧ run.tree = tree ∧ run.transcripts = []) ∧
    ∀ files, SpecFile.loadAll tree inputs = .ok files →
      (∀ before file rest, files = before ++ file :: rest → (p.run tree before).trouble = none →
        SpecFile.Unfit before file →
          run.trouble.isSome = true ∧ run.tree = (p.run tree before).tree ∧
            run.reports = (p.run tree before).reports ∧ (before = [] → run.tree = tree)) ∧
      (run.trouble.isSome = true → run.trouble ≠ some (.of .file) →
        ∃ before file rest, files = before ++ file :: rest ∧ (p.run tree before).trouble = none ∧
          SpecFile.Unfit before file) := by
  intro run
  refine ⟨fun format => run.outcome_tree format p.out, SpecFile.loadAll_of_unloadable, ?_, ?_⟩
  · intro trouble hload
    have hrun : run = (Run.start tree).stop trouble := by
      simp only [run, carryOut]
      rw [hload]
    rw [hrun]
    exact ⟨rfl, rfl, rfl⟩
  · intro files hload
    have hrun : run = p.run tree files := by
      simp only [run, carryOut]
      rw [hload]
    rw [hrun]
    refine ⟨?_, p.exists_unfit tree⟩
    rintro before file rest rfl hbefore hunfit
    have hrefused : Refused (p.run tree before) (p.run tree (before ++ file :: rest)) := refused_run hbefore hunfit
    refine ⟨hrefused.trouble, hrefused.tree, hrefused.reports, ?_⟩
    rintro rfl
    exact hrefused.tree

/-- The second of three specifications is for a screen whose name is taken. The code of the first one is on the
disk, and the third one is not worked on. -/
theorem carryOut_stops_second :
    let test : CaseDraft := ⟨some "x", none, some ["s"], some ["a"], some "generative", none, none⟩
    let file (path : Path) (name : String) : SpecFile := ⟨path, ⟨some name, some "d", none, some [test]⟩⟩
    let content (name : String) : String :=
      "[\"" ++ name ++ "\",\"d\",null,[[\"x\",null,[\"s\"],[\"a\"],\"generative\"]]]"
    let inputs := ["mail.json", "more.json", "sent.json"]
    let tree := Tree.ofFiles (inputs.zip [content "Inbox", content "inbox", content "Sent"])
    let before := [file "mail.json" "Inbox"]
    let second := file "more.json" "inbox"
    let p : Production := ⟨{}, some fun _ => some "key", "cli", "out",
      fun number _ => Service.scripted [⟨0, .ok ⟨"test" ++ toString number, 10, 5⟩⟩]⟩
    let run := p.carryOut tree inputs
    SpecFile.loadAll tree inputs = .ok (before ++ second :: [file "sent.json" "Sent"]) ∧
      SpecFile.Unfit before second ∧
      run.trouble.isSome = true ∧ run.tree = (p.run tree before).tree ∧ run.reports = (p.run tree before).reports ∧
      run.tree.read? "out/inbox-x.spec.ts" = some "test0\n" ∧ run.transcripts.length = 2 := by
  intro test file content inputs tree before second p run
  have hload : SpecFile.loadAll tree inputs = .ok (before ++ second :: [file "sent.json" "Sent"]) := by decide +kernel
  have hrun : run = p.run tree (before ++ second :: [file "sent.json" "Sent"]) := by
    simp only [run, carryOut]
    rw [hload]
  have hbefore : (p.run tree before).trouble = none := by decide +kernel
  let screen (name : String) : Screen :=
    ⟨name, "d", none, [⟨"x", "", ["s"], ["a"], some .generative, none, false⟩]⟩
  have hunfit : SpecFile.Unfit before second :=
    .taken (screen "inbox") (screen "Inbox") (file "mail.json" "Inbox") (by decide +kernel) (.head _)
      (by decide +kernel) (by decide +kernel)
  obtain ⟨-, -, -, hloaded⟩ := carryOut_stops p tree inputs
  obtain ⟨htrouble, htree, hreports, -⟩ := (hloaded _ hload).1 before _ _ rfl hbefore hunfit
  have hleft : run.tree.read? "out/inbox-x.spec.ts" = some "test0\n" ∧ run.transcripts.length = 2 := by
    rw [hrun]
    decide +kernel
  exact ⟨hload, hunfit, htrouble, htree, hreports, hleft⟩

end Production

end Screenplay
