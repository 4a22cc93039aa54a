/-
What writing does to the files that are there. A file that was written is read
again, and no other name in its folder changes (`read?_write?_child`); making a
folder leaves every file as it is (`read?_makeFolder?`). So when files are written
into a folder one after the other, each name has the content that came last under
it (`read?_writeAll`).
-/
import Screenplay.Command.Generate
import Screenplay.Proofs.Text.Blanks

namespace Screenplay

/-! ## Paths in a folder -/

/-- A text that leads down one step, to what is called so. -/
def Path.IsName (name : String) : Prop := '/' ∉ name.toList ∧ Path.Step.ofText name = .down name

namespace Path

/-- The steps of the parts of a text. -/
def partSteps (s : List Char) : List Step := (s.splitOn '/').map (Step.ofText <| .ofList ·)

/-- The steps of what stands before a slash; with nothing before it, it is the root. -/
def frontSteps : List Char → List Step
  | [] => [.root]
  | c :: s => if c = '/' then .root :: partSteps s else partSteps (c :: s)

theorem steps?_of_cons {p : Path} {c : Char} {s : List Char} (h : p.toList = c :: s) :
    p.steps? = some (frontSteps (c :: s)) := by
  unfold steps?
  rw [h]
  by_cases hc : c = '/'
  · subst hc
    rfl
  · simp [frontSteps, partSteps, hc]

theorem partSteps_append (s t : List Char) : partSteps (s ++ '/' :: t) = partSteps s ++ partSteps t := by
  rw [partSteps, List.splitOn_append_cons_self, List.map_append]
  rfl

theorem steps?_of_slash {p : Path} {s t : List Char} (h : p.toList = s ++ '/' :: t) :
    p.steps? = some (frontSteps s ++ partSteps t) := by
  cases s with
  | nil => exact steps?_of_cons h
  | cons c s =>
    have hall : frontSteps (c :: (s ++ '/' :: t)) = frontSteps (c :: s) ++ partSteps t := by
      rw [frontSteps, frontSteps]
      split
      · rw [partSteps_append, List.cons_append]
      · exact partSteps_append (c :: s) t
    exact (steps?_of_cons h).trans (congrArg some hall)

theorem partSteps_of_isName {name : String} (h : IsName name) : partSteps name.toList = [.down name] := by
  rw [partSteps, List.splitOn_eq_singleton h.1, List.map_singleton, String.ofList_toList, h.2]

/-- All names in a folder are behind the same steps: those of the folder, but for the last one where it stays. -/
theorem exists_way (folder : Path) :
    ∃ way, (∀ steps, folder.steps? = some steps → steps = way ∨ steps = way ++ [.stay]) ∧
      ∀ name, IsName name → (child folder name).steps? = some (way ++ [.down name]) := by
  by_cases hend : Text.endsWith folder "/" = true
  · obtain ⟨r, hr⟩ := Text.isPrefixOf_iff.1 hend
    have hf : folder.toList = r.reverse ++ ['/'] := by
      rw [← List.reverse_reverse folder.toList, hr]
      simp
    refine ⟨frontSteps r.reverse, fun steps hs => ?_, fun name hn => ?_⟩
    · rw [steps?_of_slash hf] at hs
      exact .inr (Option.some.inj hs).symm
    · have hc : (child folder name).toList = r.reverse ++ '/' :: name.toList := by
        rw [child, if_pos hend, String.toList_append, hf, List.append_assoc]
        rfl
      rw [steps?_of_slash hc, partSteps_of_isName hn]
  · refine ⟨frontSteps folder.toList, fun steps hs => ?_, fun name hn => ?_⟩
    · cases hf : folder.toList with
      | nil =>
        unfold steps? at hs
        rw [hf] at hs
        cases hs
      | cons c s =>
        rw [steps?_of_cons hf] at hs
        exact .inl (Option.some.inj hs).symm
    · have hc : (child folder name).toList = folder.toList ++ '/' :: name.toList := by
        rw [child, if_neg hend, String.toList_append, String.toList_append, List.append_assoc]
        rfl
      rw [steps?_of_slash hc, partSteps_of_isName hn]

end Path

namespace Tree

/-! ## One file -/

theorem walk_append (t : Tree) (place : List String) (xs ys : List Path.Step) :
    t.walk place (xs ++ ys) = (t.walk place xs).bind fun q => t.walk q ys := by
  induction xs generalizing place with
  | nil => rfl
  | cons step xs ih =>
    rw [List.cons_append, walk, walk]
    split
    · exact ih _
    · rfl

theorem isFolder_put_file {t : Tree} {place : List String} (hne : place ≠ []) (h : t.isFolder place = false)
    (content : String) (q : List String) : (t.put place (.file content)).isFolder q = t.isFolder q := by
  by_cases hq : q = place
  · subst hq
    rw [h, isFolder, get?_put_self t hne]
    rfl
  · rw [isFolder, isFolder, get?_put_other t hq]

theorem walk_congr {t t' : Tree} (h : ∀ q, t'.isFolder q = t.isFolder q) (place : List String)
    (steps : List Path.Step) : t'.walk place steps = t.walk place steps := by
  induction steps generalizing place with
  | nil => rfl
  | cons step steps ih => rw [walk, walk, h, ih]

/-- The place of a name is in the folder that the way leads to. -/
theorem find?_of_steps? (t : Tree) {p : Path} {way : List Path.Step} {name : String}
    (hp : p.steps? = some (way ++ [.down name])) :
    t.find? p = (t.walk [] way).bind fun folder =>
      if t.isFolder folder then t.get? (folder ++ [name]) else none := by
  have hplace : t.place? p = t.walk [] (way ++ [.down name]) := by
    rw [place?, hp]
    rfl
  rw [find?, hplace, walk_append]
  cases t.walk [] way with
  | none => rfl
  | some folder =>
    simp only [Option.bind_some, walk, nextPlace]
    split <;> rfl

theorem exists_of_write? {t t' : Tree} {p : Path} {content : String} {way : List Path.Step} {name : String}
    (hp : p.steps? = some (way ++ [.down name])) (h : t.write? p content = some t') :
    ∃ folder, t.walk [] way = some folder ∧ t.isFolder folder = true ∧
      t.isFolder (folder ++ [name]) = false ∧ t' = t.put (folder ++ [name]) (.file content) := by
  rw [write?, hp] at h
  simp only [Option.bind_eq_bind, Option.bind_some, List.reverse_append, List.reverse_singleton,
    List.singleton_append, List.reverse_reverse, Option.bind_eq_some_iff] at h
  obtain ⟨folder, hw, h⟩ := h
  split at h
  · next hf =>
    simp only [Bool.and_eq_true, Bool.not_eq_true'] at hf
    cases h
    exact ⟨folder, hw, hf.1, hf.2, rfl⟩
  · cases h

/-- **A file that was written is read again**, and the other names of the folder are left. -/
theorem read?_write?_child {t t' : Tree} {folder : Path} {name content : String} (hn : Path.IsName name)
    (h : t.write? (Path.child folder name) content = some t') {other : String} (ho : Path.IsName other) :
    t'.read? (Path.child folder other) =
      if other = name then some content else t.read? (Path.child folder other) := by
  obtain ⟨way, -, hway⟩ := Path.exists_way folder
  obtain ⟨place, hw, hf, hnf, rfl⟩ := exists_of_write? (hway name hn) h
  have hne : place ++ [name] ≠ [] := by simp
  have hfolders := isFolder_put_file hne hnf content
  have hwalk := walk_congr hfolders [] way
  rw [read?, read?, find?_of_steps? _ (hway other ho), find?_of_steps? _ (hway other ho), hwalk, hw]
  simp only [Option.bind_some, hfolders, hf, if_true]
  by_cases he : other = name
  · subst he
    rw [if_pos rfl, get?_put_self t hne]
  · rw [if_neg he, get?_put_other t (by simpa using he)]

/-! ## Folders -/

/-- All folders and files of one tree are in another. -/
def Extends (t t' : Tree) : Prop := ∀ place e, t.get? place = some e → t'.get? place = some e

theorem Extends.trans {t t' t'' : Tree} (h : Extends t t') (h' : Extends t' t'') : Extends t t'' :=
  fun place e he => h' place e (h place e he)

theorem Extends.walk {t t' : Tree} (h : Extends t t') {place q : List String} {steps : List Path.Step}
    (hw : t.walk place steps = some q) : t'.walk place steps = some q := by
  induction steps generalizing place with
  | nil => exact hw
  | cons step steps ih =>
    rw [Tree.walk] at hw ⊢
    split at hw
    · next hf =>
      have hf' : t'.isFolder place = true := by
        rw [isFolder, beq_iff_eq] at hf ⊢
        exact h place .folder hf
      rw [if_pos hf']
      exact ih hw
    · cases hw

theorem Extends.read? {t t' : Tree} (h : Extends t t') {p : Path} {content : String}
    (hr : t.read? p = some content) : t'.read? p = some content := by
  have hfile : ∀ u : Tree, u.read? p = some content ↔ u.find? p = some (.file content) := by
    intro u
    rw [Tree.read?]
    split <;> simp_all
  rw [hfile, find?, Option.bind_eq_bind, Option.bind_eq_some_iff] at hr ⊢
  obtain ⟨place, hp, he⟩ := hr
  obtain ⟨steps, hs, hw⟩ := Option.bind_eq_some_iff.1 hp
  exact ⟨place, Option.bind_eq_some_iff.2 ⟨steps, hs, h.walk hw⟩, h place _ he⟩

theorem extends_put {t : Tree} {place : List String} (hne : place ≠ []) (h : t.get? place = none) (e : Entry) :
    Extends t (t.put place e) := by
  intro q e' he
  have hq : q ≠ place := by
    rintro rfl
    rw [h] at he
    cases he
  rw [get?_put_other t hq]
  exact he

theorem extends_makeFolders {t t' : Tree} {place : List String} {steps : List Path.Step}
    (h : t.makeFolders place steps = some t') : Extends t t' := by
  induction steps generalizing t place with
  | nil => cases h; exact fun _ _ he => he
  | cons step steps ih =>
    unfold makeFolders at h
    dsimp only at h
    split at h
    · exact ih h
    · next name hnone =>
      have hne : nextPlace place (.down name) ≠ [] := by simp [nextPlace]
      exact (extends_put hne hnone .folder).trans (ih h)
    · cases h

theorem read?_makeFolder? {t t' : Tree} {folder : Path} (h : t.makeFolder? folder = some t') {p : Path}
    {content : String} (hr : t.read? p = some content) : t'.read? p = some content := by
  obtain ⟨steps, -, hm⟩ := Option.bind_eq_some_iff.1 h
  exact (extends_makeFolders hm).read? hr

/-! ## Many files -/

/-- **The last content of a name stays.** Names that are not written keep what they have. -/
theorem read?_writeAll {t t' : Tree} {folder : Path} {files : List (String × String)}
    (hnames : ∀ f ∈ files, Path.IsName f.1) (h : t.writeAll folder files = (t', true)) {name : String}
    (hn : Path.IsName name) :
    t'.read? (Path.child folder name) = (files.reverse.lookup name).or (t.read? (Path.child folder name)) := by
  induction files generalizing t with
  | nil => cases h; rfl
  | cons f files ih =>
    obtain ⟨n, content⟩ := f
    rw [writeAll] at h
    split at h
    · next u hu =>
      have hrest := ih (fun f hf => hnames f (by simp [hf])) h
      have hfirst := read?_write?_child (hnames (n, content) (by simp)) hu hn
      rw [hrest, hfirst, List.reverse_cons, List.lookup_append, Option.or_assoc]
      congr 1
      by_cases he : name = n
      · subst he
        simp
      · have hb : (name == n) = false := by simpa using he
        simp [List.lookup_cons, hb, he]
    · cases h

end Tree

end Screenplay
