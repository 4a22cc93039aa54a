/-
The names of the files of a report. A stem has as many candidates as there are
numbers, so among one more than are taken there is a free one; each case gets the
first candidate that no earlier case has got (`codeFiles_numbered`), and the names of
a report are therefore all different (`nodup_files`).

Across reports the names are read from the front: a name begins with the screen
in kebab case and a hyphen. Two screens can share a name only if they have the same
form, or one form begins with the other and a hyphen (`eq_or_nested_of_mem`), since the
name does not tell where the screen ends and the case begins.
-/
import Mathlib
import Screenplay.Proofs.Files.Writing
import Screenplay.Proofs.Template.Casing
import Screenplay.Proofs.Text.Blanks

namespace Screenplay

/-! ## Candidates -/

/-- What a candidate has between its stem and its ending. -/
def numbering : Nat → String
  | 0 => ""
  | k + 1 => "-" ++ toString (k + 2)

theorem candidate_eq (stem : String) (k : Nat) : candidate stem k = stem ++ numbering k ++ codeEnding := by
  cases k with
  | zero => rw [candidate, numbering, String.append_empty]
  | succ k => rw [candidate, numbering, ← String.append_assoc]

theorem numbering_injective {j k : Nat} (h : numbering j = numbering k) : j = k := by
  cases j with
  | zero =>
    cases k with
    | zero => rfl
    | succ k => simp [numbering, ← String.toList_inj] at h
  | succ j =>
    cases k with
    | zero => simp [numbering, ← String.toList_inj] at h
    | succ k =>
      have := Nat.repr_injective ((String.append_right_inj "-").1 h)
      omega

theorem candidate_injective {stem : String} {j k : Nat} (h : candidate stem j = candidate stem k) : j = k := by
  rw [candidate_eq, candidate_eq, String.append_left_inj, String.append_right_inj] at h
  exact numbering_injective h

/-! ## Free names -/

/-- The candidate of this number is free, and those before it are not. -/
structure FirstFree (taken : List String) (stem : String) (k : Nat) : Prop where
  free : candidate stem k ∉ taken
  before : ∀ j < k, candidate stem j ∈ taken

theorem le_length_of_taken {taken : List String} {stem : String} {k : Nat}
    (h : ∀ j < k, candidate stem j ∈ taken) : k ≤ taken.length := by
  have hnodup : ((List.range k).map (candidate stem)).Nodup :=
    List.pairwise_map.2 (List.nodup_range.imp fun hne he => hne (candidate_injective he))
  have hsub : (List.range k).map (candidate stem) ⊆ taken := by
    intro name hname
    obtain ⟨j, hj, rfl⟩ := List.mem_map.1 hname
    exact h j (List.mem_range.1 hj)
  have hlen := hnodup.length_le_of_subset hsub
  rwa [List.length_map, List.length_range] at hlen

theorem FirstFree.le_length {taken : List String} {stem : String} {k : Nat} (h : FirstFree taken stem k) :
    k ≤ taken.length := le_length_of_taken h.before

theorem exists_firstFree (taken : List String) (stem : String) : ∃ k, FirstFree taken stem k := by
  have hex : ∃ k, candidate stem k ∉ taken := by
    by_contra hall
    have := le_length_of_taken (k := taken.length + 1) fun j _ => Decidable.not_not.1 (not_exists.1 hall j)
    omega
  exact ⟨Nat.find hex, Nat.find_spec hex, fun j hj => Decidable.not_not.1 (Nat.find_min hex hj)⟩

/-- The search from number `k` on passes by taken candidates to a free one, if it is allowed so many tries. -/
theorem firstFree_eq {taken : List String} {stem : String} {tries k m : Nat} (hk : k ≤ m) (hm : m ≤ k + tries)
    (hfree : candidate stem m ∉ taken) (hbefore : ∀ j, k ≤ j → j < m → candidate stem j ∈ taken) :
    firstFree taken stem tries k = candidate stem m := by
  induction tries generalizing k with
  | zero => rw [Nat.le_antisymm hk hm, firstFree]
  | succ tries ih =>
    rw [firstFree]
    rcases Nat.eq_or_lt_of_le hk with rfl | hlt
    · rw [if_neg fun h => hfree (List.contains_iff_mem.1 h)]
    · rw [if_pos (List.contains_iff_mem.2 (hbefore k (Nat.le_refl k) hlt))]
      exact ih hlt (by omega) fun j hj => hbefore j (by omega)

/-- However many tries the search is allowed, it takes no more than it takes to come to the first free
candidate. -/
theorem FirstFree.search_eq {taken : List String} {stem : String} {k : Nat} (h : FirstFree taken stem k)
    {tries : Nat} (ht : k ≤ tries) : firstFree taken stem tries 0 = candidate stem k :=
  firstFree_eq (Nat.zero_le k) (by omega) h.free fun j _ => h.before j

theorem FirstFree.freshName_eq {taken : List String} {stem : String} {k : Nat} (h : FirstFree taken stem k) :
    freshName taken stem = candidate stem k := h.search_eq h.le_length

/-- **A fresh name is free.** -/
theorem freshName_not_mem (taken : List String) (stem : String) : freshName taken stem ∉ taken := by
  obtain ⟨k, hk⟩ := exists_firstFree taken stem
  rw [hk.freshName_eq]
  exact hk.free

/-! ## The names of a report -/

theorem length_fileNamesFrom (screen : String) (taken cases : List String) :
    (fileNamesFrom screen taken cases).length = cases.length := by
  induction cases generalizing taken with
  | nil => rfl
  | cons case rest ih => rw [fileNamesFrom, List.length_cons, ih, List.length_cons]

theorem length_fileNames (screen : String) (cases : List String) :
    (fileNames screen cases).length = cases.length := length_fileNamesFrom screen [] cases

theorem nodup_fileNamesFrom (screen : String) (taken cases : List String) :
    (fileNamesFrom screen taken cases).Nodup ∧ ∀ name ∈ fileNamesFrom screen taken cases, name ∉ taken := by
  induction cases generalizing taken with
  | nil => exact ⟨List.nodup_nil, fun name h => nomatch h⟩
  | cons case rest ih =>
    obtain ⟨hnodup, hnew⟩ := ih (freshName taken (fileStem screen case) :: taken)
    rw [fileNamesFrom]
    refine ⟨List.nodup_cons.2 ⟨fun h => hnew _ h (by simp), hnodup⟩, fun name hname => ?_⟩
    rcases List.mem_cons.1 hname with rfl | hname
    · exact freshName_not_mem taken _
    · exact fun h => hnew name hname (by simp [h])

theorem nodup_fileNames (screen : String) (cases : List String) : (fileNames screen cases).Nodup :=
  (nodup_fileNamesFrom screen [] cases).1

theorem exists_candidate_of_mem {screen name : String} {taken cases : List String}
    (h : name ∈ fileNamesFrom screen taken cases) :
    ∃ case ∈ cases, ∃ k, name = candidate (fileStem screen case) k := by
  induction cases generalizing taken with
  | nil => cases h
  | cons case rest ih =>
    rcases List.mem_cons.1 h with rfl | h
    · obtain ⟨k, hk⟩ := exists_firstFree taken (fileStem screen case)
      exact ⟨case, by simp, k, hk.freshName_eq⟩
    · obtain ⟨c, hc, hk⟩ := ih h
      exact ⟨c, by simp [hc], hk⟩

/-- The name of a case is the first candidate of its stem that is neither taken nor the name of an earlier
case. -/
theorem firstFree_fileNamesFrom (screen : String) (taken : List String) {cases : List String} {i : Nat}
    {case : String} (h : cases[i]? = some case) :
    ∃ k, (fileNamesFrom screen taken cases)[i]? = some (candidate (fileStem screen case) k) ∧
      FirstFree (((fileNamesFrom screen taken cases).take i).reverse ++ taken) (fileStem screen case) k := by
  induction cases generalizing taken i with
  | nil => simp at h
  | cons first rest ih =>
    rw [fileNamesFrom]
    cases i with
    | zero =>
      rw [List.getElem?_cons_zero, Option.some.injEq] at h
      subst h
      obtain ⟨k, hk⟩ := exists_firstFree taken (fileStem screen first)
      exact ⟨k, congrArg some hk.freshName_eq, hk⟩
    | succ i =>
      rw [List.getElem?_cons_succ] at h
      obtain ⟨k, hname, hk⟩ := ih (freshName taken (fileStem screen first) :: taken) h
      refine ⟨k, by rw [List.getElem?_cons_succ, hname], ?_⟩
      rwa [List.take_succ_cons, List.reverse_cons, List.append_assoc]

/-! ## The two endings -/

theorem candidate_ne_report (stem : String) (k : Nat) (slug : String) :
    candidate stem k ≠ slug ++ reportEnding := by
  intro h
  have hlast := congrArg (fun s : String => s.toList.getLast?) h
  simp [candidate_eq, codeEnding, reportEnding] at hlast

namespace Report

theorem codeFiles_names (r : Report) : r.codeFiles.map (·.1) = fileNames r.screen (r.codes.map (·.1)) := by
  refine List.map_fst_zip (Nat.le_of_eq ?_)
  rw [length_fileNames, List.length_map, List.length_map]

/-- **The files of a report have different names.** -/
theorem nodup_files (r : Report) : (r.files.map (·.1)).Nodup := by
  rw [files, List.map_append, codeFiles_names, List.map_singleton, List.nodup_append]
  refine ⟨nodup_fileNames _ _, by simp, fun name hname last hlast => ?_⟩
  obtain ⟨case, -, k, rfl⟩ := exists_candidate_of_mem hname
  rw [List.mem_singleton.1 hlast]
  exact candidate_ne_report _ k _

/-- The cases that have code. -/
def produced (r : Report) : List CaseReport := r.cases.filter (·.resolution.code?.isSome)

theorem codes_eq (r : Report) :
    r.codes.map (·.1) = r.produced.map (·.name) ∧ r.codes.map (some ·.2) = r.produced.map (·.resolution.code?) := by
  unfold codes produced
  induction r.cases with
  | nil => exact ⟨rfl, rfl⟩
  | cons c cases ih =>
    cases hc : c.resolution.code? with
    | none => simpa [hc] using ih
    | some code => simpa [hc] using ih

/-- **The files with code are numbered.** They are those of the cases that have code, in the order of the
cases, and have different names. The name of a case is the first candidate of its stem that no earlier case
has got; as many candidates as there are earlier cases are passed by at most, so the search ends by itself,
however many tries it is allowed. -/
theorem codeFiles_numbered (r : Report) :
    let names := r.codeFiles.map (·.1)
    r.codeFiles.map (some ·.2) = r.produced.map (·.resolution.code?) ∧
    names.Nodup ∧
    ∀ i c, r.produced[i]? = some c →
      let stem := fileStem r.screen c.name
      ∃ k ≤ i, names[i]? = some (candidate stem k) ∧ FirstFree (names.take i) stem k ∧
        ∀ tries, k ≤ tries → firstFree (names.take i) stem tries 0 = candidate stem k := by
  intro names
  obtain ⟨hcases, hcode⟩ := r.codes_eq
  have hnames : names = fileNames r.screen (r.produced.map (·.name)) := by rw [← hcases, ← codeFiles_names]
  refine ⟨?_, ?_, fun i c hc => ?_⟩
  · rw [← hcode]
    have hsnd : r.codeFiles.map (·.2) = r.codes.map (·.2) :=
      List.map_snd_zip (Nat.le_of_eq (by rw [length_fileNames, List.length_map, List.length_map]))
    have := congrArg (List.map some) hsnd
    rwa [List.map_map, List.map_map] at this
  · rw [hnames]
    exact nodup_fileNames _ _
  · intro stem
    have hi : (r.produced.map (·.name))[i]? = some c.name := by rw [List.getElem?_map, hc]; rfl
    obtain ⟨k, hname, hk⟩ := firstFree_fileNamesFrom r.screen [] hi
    rw [List.append_nil] at hk
    have hfirst : FirstFree (names.take i) stem k := by
      rw [hnames]
      exact ⟨fun h => hk.free (List.mem_reverse.2 h), fun j hj => List.mem_reverse.1 (hk.before j hj)⟩
    refine ⟨k, hfirst.le_length.trans (List.length_take_le i names), ?_, hfirst, fun tries => hfirst.search_eq⟩
    rw [hnames]
    exact hname

/-- Two cases of one stem, and a third whose own stem is the numbered one of the second. -/
theorem codeFiles_numbered_suffix :
    let choice : Match Float := ⟨⟨.modalDialog, 1.0, [], 0.7⟩, true, .explicit⟩
    let saved (name : String) : CaseReport := ⟨name, choice, .template .modalDialog "test();"⟩
    let r : Report := ⟨"Settings", none,
      [saved "Save", ⟨"Load", choice, .failed .noService⟩, saved "save!", saved "save-2"]⟩
    let names := r.codeFiles.map (·.1)
    names = ["settings-save.spec.ts", "settings-save-2.spec.ts", "settings-save-2-2.spec.ts"] ∧
      r.produced[2]? = some (saved "save-2") ∧
      ∃ k ≤ 2, names[2]? = some (candidate (fileStem "Settings" "save-2") k) ∧
        FirstFree (names.take 2) (fileStem "Settings" "save-2") k := by
  intro choice saved r names
  have hlast : r.produced[2]? = some (saved "save-2") := rfl
  obtain ⟨k, hk, hname, hfirst, -⟩ := r.codeFiles_numbered.2.2 2 (saved "save-2") hlast
  exact ⟨by decide +kernel, hlast, k, hk, hname, hfirst⟩

theorem mem_files_names {r : Report} {name : String} (h : name ∈ r.files.map (·.1)) :
    name = r.fileName ∨ ∃ case k, name = candidate (fileStem r.screen case) k := by
  rw [files, List.map_append, codeFiles_names, List.map_singleton, List.mem_append] at h
  rcases h with h | h
  · obtain ⟨case, -, k, hk⟩ := exists_candidate_of_mem h
    exact .inr ⟨case, k, hk⟩
  · exact .inl (List.mem_singleton.1 h)

end Report

/-! ## Names in a folder -/

/-- A character that may stand anywhere in the name of a file: it shows, and neither separates folders nor
begins an ending. -/
def Plain (c : Char) : Prop := Text.Shows c ∧ c ≠ '/' ∧ c ≠ '\\' ∧ c ≠ '.'

instance (c : Char) : Decidable (Plain c) := inferInstanceAs (Decidable (_ ∧ _))

theorem plain_kebabCase (s : String) : ∀ c ∈ (Template.kebabCase s).toList, Plain c := by
  intro c hc
  refine ⟨Template.shows_kebabCase hc, ?_⟩
  rw [Template.toList_kebabCase] at hc
  rcases Template.mem_kebabChars hc with rfl | ⟨hle, -⟩ | ⟨-, ha⟩
  · decide
  · refine ⟨?_, ?_, ?_⟩ <;> rintro rfl <;> revert hle <;> decide
  · refine ⟨?_, ?_, ?_⟩ <;> rintro rfl <;> revert ha <;> decide +kernel

theorem plain_of_isDigit {c : Char} (h : c.isDigit = true) : Plain c := by
  have hrange : 48 ≤ c.toNat ∧ c.toNat ≤ 57 := by
    rw [Char.isDigit, Bool.and_eq_true, decide_eq_true_eq, decide_eq_true_eq] at h
    exact h
  refine ⟨Text.shows_iff.2 ?_, ?_, ?_, ?_⟩
  · simp only [Text.voids, List.forall_mem_cons, List.not_mem_nil, false_implies, implies_true, and_true]
    omega
  all_goals rintro rfl; revert h; decide

theorem plain_numbering (k : Nat) : ∀ c ∈ (numbering k).toList, Plain c := by
  cases k with
  | zero => simp [numbering]
  | succ k =>
    intro c hc
    rw [numbering, String.toList_append, List.mem_append] at hc
    rcases hc with hc | hc
    · rw [List.mem_singleton.1 hc]
      decide
    · rw [Nat.toString_eq_repr, Nat.toList_repr] at hc
      exact plain_of_isDigit (Nat.isDigit_of_mem_toDigits (by decide) (by decide) hc)

theorem plain_fileStem (screen case : String) : ∀ c ∈ (fileStem screen case).toList, Plain c := by
  intro c hc
  simp only [fileStem, String.toList_append, List.mem_append] at hc
  rcases hc with (hc | hc) | hc
  · exact plain_kebabCase screen c hc
  · rw [List.mem_singleton.1 hc]
    decide
  · exact plain_kebabCase case c hc

/-- A text without slashes that is longer than two characters is a name. -/
theorem isName_of_length {name : String} (hs : '/' ∉ name.toList) (hlen : 2 < name.toList.length) :
    Path.IsName name := by
  refine ⟨hs, ?_⟩
  have hne : name ≠ "" ∧ name ≠ "." ∧ name ≠ ".." := by
    refine ⟨?_, ?_, ?_⟩ <;> rintro rfl <;> revert hlen <;> decide
  have hempty : name.isEmpty = false := by simpa using hne.1
  simp [Path.Step.ofText, hempty, hne]

/-- A name that is one component of a path, shows as it is, and has no points but those of its ending. -/
structure SafeName (ending name : String) : Prop where
  isName : Path.IsName name
  chars : ∀ c ∈ name.toList, Text.Shows c ∧ c ≠ '/' ∧ c ≠ '\\' ∧ c ≠ '\x00'
  points : ∃ front, name = front ++ ending ∧ '.' ∉ front.toList

theorem safeName_append {front ending : String} (hfront : ∀ c ∈ front.toList, Plain c)
    (hending : ending.toList.all (fun c => c = '.' ∨ Plain c) = true) (hlen : 2 < ending.toList.length) :
    SafeName ending (front ++ ending) := by
  have hchars : ∀ c ∈ (front ++ ending).toList, c = '.' ∨ Plain c := by
    intro c hc
    rw [String.toList_append, List.mem_append] at hc
    rcases hc with hc | hc
    · exact .inr (hfront c hc)
    · simpa using List.all_eq_true.1 hending c hc
  refine ⟨isName_of_length (fun h => ?_) ?_, fun c hc => ?_, front, rfl, fun h => (hfront _ h).2.2.2 rfl⟩
  · rcases hchars _ h with h | h
    · revert h; decide
    · exact h.2.1 rfl
  · rw [String.toList_append, List.length_append]
    omega
  · rcases hchars c hc with rfl | ⟨hshows, hslash, hbackslash, -⟩
    · decide
    · refine ⟨hshows, hslash, hbackslash, ?_⟩
      rintro rfl
      revert hshows
      decide

theorem safeName_report (slug : String) : SafeName reportEnding (Template.kebabCase slug ++ reportEnding) :=
  safeName_append (plain_kebabCase slug) (by decide) (by decide)

theorem safeName_candidate (screen case : String) (k : Nat) :
    SafeName codeEnding (candidate (fileStem screen case) k) := by
  rw [candidate_eq]
  refine safeName_append (fun c hc => ?_) (by decide) (by decide)
  rw [String.toList_append, List.mem_append] at hc
  exact hc.elim (plain_fileStem screen case c) (plain_numbering k c)

theorem Report.isName_of_mem {r : Report} {name : String} (h : name ∈ r.files.map (·.1)) : Path.IsName name := by
  rcases Report.mem_files_names h with rfl | ⟨case, k, rfl⟩
  · exact (safeName_report r.screen).isName
  · exact (safeName_candidate r.screen case k).isName

/-! ## Names of two reports -/

/-- The name of the screen, as the names of the files begin with it. -/
def Report.slug (r : Report) : String := Template.kebabCase r.screen

/-- One text begins with the other and a hyphen. -/
def Nested (s t : String) : Prop := s.toList ++ ['-'] <+: t.toList

instance (s t : String) : Decidable (Nested s t) := inferInstanceAs (Decidable (_ <+: _))

/-- Where two texts with a hyphen begin the same text, they are the same or one is nested in the other. -/
theorem eq_or_nested {s t : String} {x y : List Char} (h : s.toList ++ '-' :: x = t.toList ++ '-' :: y) :
    s = t ∨ Nested s t ∨ Nested t s := by
  rcases List.append_eq_append_iff.1 h with ⟨l, ht, hx⟩ | ⟨l, hs, hy⟩
  · cases l with
    | nil => exact .inl (String.toList_inj.1 (by rw [ht, List.append_nil]))
    | cons c l =>
      obtain ⟨rfl, -⟩ := List.cons.inj hx
      exact .inr (.inl ⟨l, by rw [ht, List.append_assoc]; rfl⟩)
  · cases l with
    | nil => exact .inl (String.toList_inj.1 (by rw [hs, List.append_nil]))
    | cons c l =>
      obtain ⟨rfl, -⟩ := List.cons.inj hy
      exact .inr (.inr ⟨l, by rw [hs, List.append_assoc]; rfl⟩)

theorem toList_candidate_fileStem (screen case : String) (k : Nat) :
    ∃ x, (candidate (fileStem screen case) k).toList = (Template.kebabCase screen).toList ++ '-' :: x := by
  have hhyphen : "-".toList = ['-'] := by decide
  refine ⟨(Template.kebabCase case).toList ++ ((numbering k).toList ++ codeEnding.toList), ?_⟩
  simp only [candidate_eq, fileStem, String.toList_append, List.append_assoc, hhyphen, List.cons_append,
    List.nil_append]

/-- **Only nested screens share file names.** -/
theorem Report.eq_or_nested_of_mem {r r' : Report} {name : String} (h : name ∈ r.files.map (·.1))
    (h' : name ∈ r'.files.map (·.1)) :
    r.slug = r'.slug ∨ Nested r.slug r'.slug ∨ Nested r'.slug r.slug := by
  rcases mem_files_names h with rfl | ⟨case, k, rfl⟩
  · rcases mem_files_names h' with he | ⟨case', k', he⟩
    · exact .inl ((String.append_left_inj reportEnding).1 he)
    · exact absurd he.symm (candidate_ne_report _ k' _)
  · rcases mem_files_names h' with he | ⟨case', k', he⟩
    · exact absurd he (candidate_ne_report _ k _)
    · obtain ⟨x, hx⟩ := toList_candidate_fileStem r.screen case k
      obtain ⟨y, hy⟩ := toList_candidate_fileStem r'.screen case' k'
      rw [he, hy] at hx
      exact eq_or_nested hx.symm

end Screenplay
