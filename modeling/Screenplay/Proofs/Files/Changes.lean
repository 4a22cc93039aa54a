/-
Which places change when files are written into a folder. Making the folder puts
new folders on the way to it and nothing else (`made_of_makeFolder?`); a file that is
written is put right into the folder (`eq_put_of_write?_child`). So after any number
of files each place that is not as before is a folder on the way, or one of the files
(`changed_of_writeAll`).
-/
import Screenplay.Proofs.Files.Writing

namespace Screenplay.Tree

/-! ## The place of a folder -/

theorem place?_congr {t t' : Tree} (h : ∀ q, t'.isFolder q = t.isFolder q) (p : Path) :
    t'.place? p = t.place? p := by
  rw [place?, place?]
  cases p.steps? with
  | none => rfl
  | some steps => exact walk_congr h [] steps

theorem walk_of_place? {t : Tree} {folder : Path} {way : List Path.Step} {place : List String}
    (hway : ∀ steps, folder.steps? = some steps → steps = way ∨ steps = way ++ [.stay])
    (h : t.place? folder = some place) : t.walk [] way = some place := by
  obtain ⟨steps, hs, hw⟩ := Option.bind_eq_some_iff.1 h
  rcases hway steps hs with rfl | rfl
  · exact hw
  · rw [walk_append, Option.bind_eq_some_iff] at hw
    obtain ⟨q, hq, hstay⟩ := hw
    rw [walk] at hstay
    split at hstay
    · rwa [← Option.some.inj hstay]
    · cases hstay

theorem eq_put_of_write?_child {t t' : Tree} {folder : Path} {place : List String} {name content : String}
    (hplace : t.place? folder = some place) (hn : Path.IsName name)
    (h : t.write? (Path.child folder name) content = some t') :
    t.isFolder (place ++ [name]) = false ∧ t' = t.put (place ++ [name]) (.file content) := by
  obtain ⟨way, hway, hchild⟩ := Path.exists_way folder
  obtain ⟨q, hq, -, hnf, rfl⟩ := exists_of_write? (hchild name hn) h
  rw [walk_of_place? hway hplace, Option.some.injEq] at hq
  subst hq
  exact ⟨hnf, rfl⟩

/-! ## Folders that are made -/

/-- A place that the steps of a path pass through. -/
def OnWay (t : Tree) (p : Path) (place : List String) : Prop :=
  ∃ front back, p.steps? = some (front ++ back) ∧ t.walk [] front = some place

theorem OnWay.congr {t t' : Tree} (h : ∀ q, t'.isFolder q = t.isFolder q) {p : Path} {place : List String}
    (hon : t.OnWay p place) : t'.OnWay p place := by
  obtain ⟨front, back, hs, hw⟩ := hon
  exact ⟨front, back, hs, by rw [walk_congr h, hw]⟩

/-- The folders that steps lead through are there once they are made, and nothing else has changed. -/
theorem made_of_makeFolders {t t' : Tree} {place : List String} {steps : List Path.Step}
    (h : t.makeFolders place steps = some t') (hf : t.isFolder place = true) :
    (∃ last, t'.walk place steps = some last ∧ t'.isFolder last = true) ∧
      ∀ q, t'.get? q ≠ t.get? q → t'.get? q = some .folder ∧
        ∃ front back, steps = front ++ back ∧ t'.walk place front = some q := by
  induction steps generalizing t place with
  | nil => cases h; exact ⟨⟨place, rfl, hf⟩, fun q hq => absurd rfl hq⟩
  | cons step steps ih =>
    have hplace : t'.isFolder place = true := by
      rw [isFolder, beq_iff_eq] at hf ⊢
      exact extends_makeFolders h place .folder hf
    -- Whatever the first step does, the rest is made from the next place on.
    have hnext : ∀ u : Tree, u.makeFolders (nextPlace place step) steps = some t' →
        u.isFolder (nextPlace place step) = true →
        (∃ last, t'.walk place (step :: steps) = some last ∧ t'.isFolder last = true) ∧
          ∀ q, t'.get? q ≠ u.get? q → t'.get? q = some .folder ∧
            ∃ front back, step :: steps = front ++ back ∧ t'.walk place front = some q := by
      intro u hu huf
      obtain ⟨⟨last, hwalk, hlast⟩, hnew⟩ := ih hu huf
      refine ⟨⟨last, by rw [walk, if_pos hplace, hwalk], hlast⟩, fun q hq => ?_⟩
      obtain ⟨hq, front, back, rfl, hfront⟩ := hnew q hq
      exact ⟨hq, step :: front, back, rfl, by rw [walk, if_pos hplace, hfront]⟩
    have hmake := h
    unfold makeFolders at hmake
    dsimp only at hmake
    split at hmake
    · next hthere => exact hnext t hmake (by rw [isFolder, hthere]; rfl)
    · next name hnone =>
      have hne : nextPlace place (.down name) ≠ [] := by simp [nextPlace]
      have hput : (t.put (nextPlace place (.down name)) .folder).isFolder (nextPlace place (.down name)) = true := by
        rw [isFolder, get?_put_self t hne]
        rfl
      obtain ⟨hlast, hnew⟩ := hnext _ hmake hput
      refine ⟨hlast, fun q hq => ?_⟩
      by_cases he : q = nextPlace place (.down name)
      · subst he
        refine ⟨extends_makeFolders hmake _ _ (get?_put_self t hne .folder), [.down name], steps, rfl, ?_⟩
        rw [walk, if_pos hplace, walk]
      · exact hnew q (by rwa [get?_put_other t he])
    · cases hmake

/-- **A folder that is made is there**, and what is new are folders on the way to it. -/
theorem made_of_makeFolder? {t t' : Tree} {folder : Path} (h : t.makeFolder? folder = some t') :
    (∃ place, t'.place? folder = some place ∧ t'.isFolder place = true) ∧
      ∀ q, t'.get? q ≠ t.get? q → t'.get? q = some .folder ∧ t'.OnWay folder q := by
  obtain ⟨steps, hs, hm⟩ := Option.bind_eq_some_iff.1 h
  obtain ⟨⟨last, hwalk, hlast⟩, hnew⟩ := made_of_makeFolders hm rfl
  refine ⟨⟨last, Option.bind_eq_some_iff.2 ⟨steps, hs, hwalk⟩, hlast⟩, fun q hq => ?_⟩
  obtain ⟨hfolder, front, back, rfl, hw⟩ := hnew q hq
  exact ⟨hfolder, front, back, hs, hw⟩

/-! ## Files that are written -/

/-- **What is new after writing into a folder are files right in it.** No folder comes or goes, also where
not all files could be written. -/
theorem changed_of_writeAll {t t' : Tree} {folder : Path} {place : List String} {files : List (String × String)}
    {done : Bool} (hplace : t.place? folder = some place) (hnames : ∀ f ∈ files, Path.IsName f.1)
    (h : t.writeAll folder files = (t', done)) :
    (∀ q, t'.isFolder q = t.isFolder q) ∧
      ∀ q, t'.get? q ≠ t.get? q → ∃ f ∈ files, q = place ++ [f.1] ∧ t'.get? q = some (.file f.2) := by
  induction files generalizing t with
  | nil =>
    rw [writeAll, Prod.mk.injEq] at h
    obtain ⟨rfl, -⟩ := h
    exact ⟨fun _ => rfl, fun q hq => absurd rfl hq⟩
  | cons f files ih =>
    obtain ⟨name, content⟩ := f
    rw [writeAll] at h
    split at h
    · next u hu =>
      obtain ⟨hnf, rfl⟩ := eq_put_of_write?_child hplace (hnames (name, content) (by simp)) hu
      have hne : place ++ [name] ≠ [] := by simp
      have hfolders := isFolder_put_file hne hnf content
      obtain ⟨hrest, hnew⟩ := ih (by rw [place?_congr hfolders, hplace]) (fun f hf => hnames f (by simp [hf])) h
      refine ⟨fun q => by rw [hrest, hfolders], fun q hq => ?_⟩
      by_cases hlater : t'.get? q = (t.put (place ++ [name]) (.file content)).get? q
      · have hq' : q = place ++ [name] := by
          by_contra hother
          exact hq (by rw [hlater, get?_put_other t hother])
        exact ⟨(name, content), by simp, hq', by rw [hlater, hq', get?_put_self t hne]⟩
      · obtain ⟨f, hf, he⟩ := hnew q hlater
        exact ⟨f, by simp [hf], he⟩
    · rw [Prod.mk.injEq] at h
      obtain ⟨rfl, -⟩ := h
      exact ⟨fun _ => rfl, fun q hq => absurd rfl hq⟩

end Screenplay.Tree
