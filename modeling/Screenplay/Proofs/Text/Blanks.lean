/-
Texts with no blank in them, and what trimming and splitting at blanks make of
texts that are put together from such words; the pieces of a text between its
separators are those of `List.splitOn`.
-/
import Mathlib.Data.List.DropRight
import Screenplay.Proofs.Text.Search

namespace Screenplay.Text

/-- No character of the text is blank. -/
def Solid (s : List Char) : Prop := ∀ c ∈ s, isBlank c = false

instance (s : List Char) : Decidable (Solid s) :=
  decidable_of_iff (s.all (!isBlank ·) = true) (by simp [Solid])

theorem Solid.append {s t : List Char} (hs : Solid s) (ht : Solid t) : Solid (s ++ t) :=
  fun c h => (List.mem_append.1 h).elim (hs c) (ht c)

/-! ## Trimming -/

theorem dropBlanks_append {s : List Char} (hs : Solid s) (hne : s ≠ []) (t : List Char) :
    dropBlanks (s ++ t) = s ++ t := by
  cases s with
  | nil => exact absurd rfl hne
  | cons c r => simp [dropBlanks, hs c (by simp)]

theorem dropLastBlanks_append {t : List Char} (ht : Solid t) (hne : t ≠ []) (s : List Char) :
    dropLastBlanks (s ++ t) = s ++ t := by
  have hr : Solid t.reverse := fun c h => ht c (List.mem_reverse.1 h)
  have := dropBlanks_append hr (by simpa using hne) s.reverse
  rw [dropBlanks] at this
  rw [dropLastBlanks, List.reverse_append, this]
  simp

theorem trimmed_append {s t : List Char} (hs : Solid s) (hsne : s ≠ []) (ht : Solid t) (htne : t ≠ [])
    (m : List Char) : trimmed (s ++ m ++ t) = s ++ m ++ t := by
  rw [trimmed, List.append_assoc, dropBlanks_append hs hsne, ← List.append_assoc,
    dropLastBlanks_append ht htne]

theorem trimmed_of_solid {s : List Char} (hs : Solid s) : trimmed s = s := by
  by_cases hne : s = []
  · subst hne; rfl
  · have h := dropBlanks_append hs hne []
    rw [List.append_nil] at h
    rw [trimmed, h]
    simpa using dropLastBlanks_append hs hne []

theorem trimmed_cons_blank {c : Char} (hc : isBlank c = true) {s : List Char} (hs : Solid s) :
    trimmed (c :: s) = s := by
  have : trimmed (c :: s) = trimmed s := by simp [trimmed, dropBlanks, hc]
  rw [this, trimmed_of_solid hs]

theorem dropBlanks_trimmed (s : List Char) : dropBlanks (trimmed s) = trimmed s := by
  have hpre : trimmed s <+: dropBlanks s := List.rdropWhile_prefix isBlank _
  refine List.dropWhile_eq_self_iff.2 fun hl => ?_
  rw [hpre.getElem hl]
  exact List.dropWhile_get_zero_not isBlank s _

/-- What was trimmed has no blanks to trim. -/
theorem trimmed_trimmed (s : List Char) : trimmed (trimmed s) = trimmed s := by
  rw [trimmed, dropBlanks_trimmed]
  exact List.rdropWhile_idempotent isBlank _

theorem trim_trim (s : String) : trim (trim s) = trim s := by
  rw [trim, trim, String.toList_ofList, trimmed_trimmed]

theorem trimmed_part (s : List Char) : trimmed s <:+: s :=
  (List.rdropWhile_prefix isBlank _).isInfix.trans (List.dropWhile_suffix isBlank).isInfix

theorem not_blank_of_head? {s : List Char} {c : Char} (h : (trimmed s).head? = some c) : isBlank c = false := by
  have hnot := List.head?_dropWhile_not isBlank (trimmed s)
  rw [← dropBlanks, dropBlanks_trimmed, h] at hnot
  simpa using hnot

theorem exists_last_of_trimmed_ne_nil {s : List Char} (h : trimmed s ≠ []) :
    ∃ before c, trimmed s = before ++ [c] ∧ isBlank c = false := by
  have hlast : ¬ isBlank ((trimmed s).getLast h) = true := List.rdropWhile_last_not isBlank (dropBlanks s) h
  exact ⟨_, _, (List.dropLast_concat_getLast h).symm, Bool.eq_false_iff.2 hlast⟩

theorem trimmed_concat_blank {c : Char} (hc : isBlank c = true) (s : List Char) : trimmed (s ++ [c]) = trimmed s := by
  by_cases h : dropBlanks s = []
  · have hs : dropBlanks (s ++ [c]) = [] := by
      rw [dropBlanks, List.dropWhile_append, ← dropBlanks, h]
      simp [hc]
    rw [trimmed, trimmed, h, hs]
  · have hs : dropBlanks (s ++ [c]) = dropBlanks s ++ [c] := by
      rw [dropBlanks, List.dropWhile_append, ← dropBlanks, if_neg fun he => h (List.isEmpty_iff.1 he)]
    rw [trimmed, trimmed, hs]
    exact List.rdropWhile_concat_pos isBlank _ c hc

/-- Nothing is left of a text by trimming just when it is all blank. -/
theorem trimmed_eq_nil_iff {s : List Char} : trimmed s = [] ↔ ∀ c ∈ s, isBlank c = true := by
  have hr : trimmed s = [] ↔ ∀ c ∈ dropBlanks s, isBlank c = true := List.rdropWhile_eq_nil_iff
  rw [hr]
  refine ⟨fun h c hc => ?_, fun h c hc => h c ((List.dropWhile_sublist isBlank).subset hc)⟩
  rw [← List.takeWhile_append_dropWhile (p := isBlank) (l := s)] at hc
  rcases List.mem_append.1 hc with hc | hc
  · exact List.mem_takeWhile_imp hc
  · exact h c hc

theorem trim_eq_empty_iff {s : String} : trim s = "" ↔ isVacant s = true := by
  rw [trim, String.ofList_eq_empty_iff, trimmed_eq_nil_iff, isVacant, List.all_eq_true]

/-! ## Words -/

theorem takeWhile_solid {s : List Char} (hs : Solid s) {c : Char} (hc : isBlank c = true) (t : List Char) :
    (s ++ c :: t).takeWhile (!isBlank ·) = s := by
  rw [List.takeWhile_append_of_pos fun d hd => by simp [hs d hd]]
  simp [hc]

theorem dropWhile_solid {s : List Char} (hs : Solid s) {c : Char} (hc : isBlank c = true) (t : List Char) :
    (s ++ c :: t).dropWhile (!isBlank ·) = c :: t := by
  rw [List.dropWhile_append_of_pos fun d hd => by simp [hs d hd]]
  simp [hc]

theorem leadWord_append {s : List Char} (hs : Solid s) (t : List Char) :
    leadWord (s ++ t) = (s ++ (leadWord t).1, (leadWord t).2) := by
  induction s with
  | nil => rfl
  | cons c r ih =>
    have hc : isBlank c = false := hs c (by simp)
    have hr := ih fun d hd => hs d (by simp [hd])
    simp [leadWord, hc, hr]

theorem blankWords_of_solid {s : List Char} (hs : Solid s) (hne : s ≠ []) : blankWords s = [s] := by
  have h := leadWord_append hs []
  rw [List.append_nil] at h
  simp [blankWords, h, leadWord, consWord, hne]

theorem blankWords_pair {s t : List Char} (hs : Solid s) (hsne : s ≠ []) (ht : Solid t) (htne : t ≠ [])
    {c : Char} (hc : isBlank c = true) : blankWords (s ++ c :: t) = [s, t] := by
  have h := leadWord_append ht []
  rw [List.append_nil] at h
  simp [blankWords, leadWord_append hs, leadWord, hc, h, consWord, hsne, htne]

theorem flatten_consWord (w : List Char) (ws : List (List Char)) : (consWord w ws).flatten = w ++ ws.flatten := by
  unfold consWord
  split
  · next h => rw [List.isEmpty_iff.1 h, List.nil_append]
  · rw [List.flatten_cons]

theorem flatten_leadWord (s : List Char) :
    (leadWord s).1 ++ (leadWord s).2.flatten = s.filter (!isBlank ·) := by
  induction s with
  | nil => rfl
  | cons c r ih =>
    rw [leadWord]
    by_cases hc : isBlank c = true
    · simp only [hc, if_true, List.nil_append, flatten_consWord, ih]
      rw [List.filter_cons_of_neg (by simp [hc])]
    · rw [List.filter_cons_of_pos (by simp [hc]), ← ih]
      simp [hc]

/-- The words of a text, put together, are its characters that are not blank. -/
theorem flatten_blankWords (s : List Char) : (blankWords s).flatten = s.filter (!isBlank ·) := by
  rw [blankWords, flatten_consWord, flatten_leadWord]

theorem blankWords_of_blank {s : List Char} (h : ∀ c ∈ s, isBlank c = true) : blankWords s = [] := by
  have hlead : leadWord s = ([], []) := by
    induction s with
    | nil => rfl
    | cons c r ih => simp [leadWord, h c (by simp), ih fun d hd => h d (by simp [hd]), consWord]
  rw [blankWords, hlead]
  rfl

/-! ## One line -/

theorem mem_intercalate {x : Char} {sep : List Char} {l : List (List Char)} (h : x ∈ sep.intercalate l) :
    x ∈ sep ∨ ∃ w ∈ l, x ∈ w := by
  induction l with
  | nil => cases h
  | cons w l ih =>
    cases l with
    | nil => exact .inr ⟨w, by simp, by simpa using h⟩
    | cons w' l =>
      rw [List.intercalate_cons_cons, List.mem_append, List.mem_append] at h
      rcases h with (h | h) | h
      · exact .inr ⟨w, by simp, h⟩
      · exact .inl h
      · rcases ih h with h | ⟨u, hu, hx⟩
        · exact .inl h
        · exact .inr ⟨u, by simp [List.mem_cons.1 hu], hx⟩

theorem mem_intercalate_of_mem {x : Char} (sep : List Char) {l : List (List Char)} {w : List Char} (hw : w ∈ l)
    (hx : x ∈ w) : x ∈ sep.intercalate l :=
  (infix_intercalate sep hw).subset hx

theorem toList_squeezed (s : String) : (squeezed s).toList = [' '].intercalate (blankWords s.toList) := by
  rw [squeezed, String.toList_intercalate, List.map_map]
  congr 1
  simp

/-- On one line there are spaces, and what was not blank. -/
theorem mem_squeezed {x : Char} {s : String} (h : x ∈ (squeezed s).toList) : x = ' ' ∨ isBlank x = false := by
  rw [toList_squeezed] at h
  rcases mem_intercalate h with h | ⟨w, hw, hx⟩
  · exact .inl (by simpa using h)
  · have hf : x ∈ (blankWords s.toList).flatten := List.mem_flatten.2 ⟨w, hw, hx⟩
    rw [flatten_blankWords, List.mem_filter] at hf
    exact .inr (by simpa using hf.2)

theorem squeezed_eq_empty_iff {s : String} : squeezed s = "" ↔ ∀ c ∈ s.toList, isBlank c = true := by
  rw [← String.toList_inj, toList_squeezed]
  constructor
  · intro h c hc
    refine Decidable.byContradiction fun hb => ?_
    have hf : c ∈ (blankWords s.toList).flatten := by
      rw [flatten_blankWords]
      exact List.mem_filter.2 ⟨hc, by simpa using hb⟩
    obtain ⟨w, hw, hx⟩ := List.mem_flatten.1 hf
    have := mem_intercalate_of_mem [' '] hw hx
    rw [h] at this
    cases this
  · intro h
    rw [blankWords_of_blank h]
    rfl

theorem exists_of_trimmed_ne_nil {s : List Char} (h : trimmed s ≠ []) : ∃ c ∈ trimmed s, isBlank c = false := by
  rw [trimmed, dropLastBlanks] at h ⊢
  have hne : (dropBlanks s).reverse.dropWhile isBlank ≠ [] := by simpa using h
  exact ⟨_, List.mem_reverse.2 (List.head_mem hne), by simpa using List.head_dropWhile_not isBlank hne⟩

/-! ## Separators -/

/-- A text without separators stays before the first piece. -/
theorem splitOn_append_of_not_mem {sep : Char} {p s f : List Char} {fs : List (List Char)} (hp : sep ∉ p)
    (hs : s.splitOn sep = f :: fs) : (p ++ s).splitOn sep = (p ++ f) :: fs := by
  induction p with
  | nil => exact hs
  | cons c p ih =>
    have hc : ¬ (c == sep) = true := fun he => hp (by simp [beq_iff_eq.1 he])
    rw [List.cons_append, List.splitOn_cons_eq_if_modifyHead, if_neg hc, ih fun h => hp (by simp [h])]
    rfl

theorem exists_mem_splitOn {sep : Char} {s : List Char} {c : Char} (h : c ∈ s) (hc : c ≠ sep) :
    ∃ f ∈ s.splitOn sep, c ∈ f := by
  have hs : [sep].intercalate (s.splitOn sep) = s := List.intercalate_splitOn sep
  rw [← hs] at h
  exact (mem_intercalate h).resolve_left (by simpa using hc)

/-- Where a separator comes first, the parts before it are the same and so are those after it. -/
theorem eq_of_separated {c : Char} {s s' t t' : List Char} (hs : c ∉ s) (hs' : c ∉ s')
    (h : s ++ c :: t = s' ++ c :: t') : s = s' ∧ t = t' := by
  have hsplit := congrArg (List.splitOn c) h
  rw [List.splitOn_append_cons_self_of_not_mem hs, List.splitOn_append_cons_self_of_not_mem hs'] at hsplit
  obtain ⟨rfl, -⟩ := List.cons.inj hsplit
  obtain ⟨-, ht⟩ := List.cons.inj (List.append_cancel_left h)
  exact ⟨rfl, ht⟩

end Screenplay.Text

namespace Screenplay

theorem not_mem_toString {c : Char} (hc : c.isDigit = false) (n : Nat) : c ∉ (toString n).toList := by
  rw [Nat.toString_eq_repr, Nat.toList_repr]
  intro h
  have := Nat.isDigit_of_mem_toDigits (b := 10) (by decide) (by decide) h
  rw [hc] at this
  cases this

end Screenplay
