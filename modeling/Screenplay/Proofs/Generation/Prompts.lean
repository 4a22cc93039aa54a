/-
What the prompt says of a case. Texts are put into the prompt as they are, with their line breaks, so
a line of a text can be taken for a line of the prompt: a step for two (`prompt_ambiguous`). Where no
later line of a text reads like what may follow it there, each line of the prompt tells what it
belongs to, and different cases have different prompts (`ofCase_injective`). That is so for all texts
of one line.
-/
import Screenplay.Generation.Prompt
import Screenplay.Proofs.Playbook.Lines
import Screenplay.Selection.Match
import Screenplay.Spec.Validate

namespace Screenplay.Prompt

open Screenplay.Playbook (ended linesOf linesOf_ended_eq)
open Screenplay.Text (startsWith)

/-! ## Lines -/

def firstLine (s : String) : String := (linesOf s).headD ""

def laterLines (s : String) : List String := (linesOf s).tail

theorem linesOf_eq_cons (s : String) : linesOf s = firstLine s :: laterLines s := by
  obtain ⟨f, fs, h⟩ := List.exists_cons_of_ne_nil (List.splitOn_ne_nil '\n' s.toList)
  rw [firstLine, laterLines, linesOf, h]
  rfl

theorem eq_of_lines {s t : String} (hfirst : firstLine s = firstLine t) (hlater : laterLines s = laterLines t) :
    s = t := by
  have hlines : linesOf s = linesOf t := by rw [linesOf_eq_cons, linesOf_eq_cons, hfirst, hlater]
  have hpieces := List.map_injective_iff.2 (fun _ _ => String.ofList_inj.1) hlines
  refine String.toList_inj.1 ?_
  calc s.toList = ['\n'].intercalate (s.toList.splitOn '\n') := (List.intercalate_splitOn '\n').symm
    _ = ['\n'].intercalate (t.toList.splitOn '\n') := by rw [hpieces]
    _ = t.toList := List.intercalate_splitOn '\n'

theorem laterLines_of_not_mem {s : String} (h : '\n' ∉ s.toList) : laterLines s = [] := by
  rw [laterLines, linesOf, List.splitOn_eq_singleton h]
  rfl

theorem linesOf_label {label : String} (h : '\n' ∉ label.toList) (s : String) :
    linesOf (label ++ s) = (label ++ firstLine s) :: laterLines s := by
  obtain ⟨f, fs, hs⟩ := List.exists_cons_of_ne_nil (List.splitOn_ne_nil '\n' s.toList)
  rw [firstLine, laterLines, linesOf, linesOf, String.toList_append, Text.splitOn_append_of_not_mem h hs, hs]
  simp

/-! ## Where a text ends -/

/-- Up to where a mark stands first, two lists are the same, and so they are from there on. -/
theorem eq_of_marked {Mark : String → Prop} {a b s t : List String} (ha : ∀ l ∈ a, ¬ Mark l) (hb : ∀ l ∈ b, ¬ Mark l)
    (hs : ∀ l ∈ s.head?, Mark l) (ht : ∀ l ∈ t.head?, Mark l) (h : a ++ s = b ++ t) : a = b ∧ s = t := by
  induction a generalizing b with
  | nil =>
    cases b with
    | nil => exact ⟨rfl, h⟩
    | cons l b =>
      rw [List.nil_append] at h
      exact absurd (hs l (by simp [h])) (hb l (by simp))
  | cons k a ih =>
    cases b with
    | nil =>
      rw [List.nil_append] at h
      exact absurd (ht k (by simp [← h])) (ha k (by simp))
    | cons l b =>
      obtain ⟨rfl, hrest⟩ := List.cons.inj h
      obtain ⟨rfl, rfl⟩ := ih (fun l hl => ha l (by simp [hl])) (fun l hl => hb l (by simp [hl])) hrest
      exact ⟨rfl, rfl⟩

theorem eq_of_labelled {Mark : String → Prop} {label s t : String} {rest rest' : List String}
    (hs : ∀ l ∈ laterLines s, ¬ Mark l) (ht : ∀ l ∈ laterLines t, ¬ Mark l) (hrest : ∀ l ∈ rest.head?, Mark l)
    (hrest' : ∀ l ∈ rest'.head?, Mark l) (hlabel : '\n' ∉ label.toList)
    (h : linesOf (label ++ s) ++ rest = linesOf (label ++ t) ++ rest') : s = t ∧ rest = rest' := by
  rw [linesOf_label hlabel, linesOf_label hlabel] at h
  obtain ⟨hfirst, hlater⟩ := List.cons.inj h
  obtain ⟨hsame, hrest⟩ := eq_of_marked hs ht hrest hrest' hlater
  exact ⟨eq_of_lines (String.append_right_inj label |>.1 hfirst) hsame, hrest⟩

theorem startsWith_append (start s : String) : startsWith (start ++ s) start = true := by
  rw [startsWith, List.isPrefixOf_iff_prefix, String.toList_append]
  exact List.prefix_append _ _

/-! ## Numbered entries -/

/-- What stands before the entry of this number. -/
def numberMark (n : ℕ) : String := toString n ++ ". "

theorem break_not_mem_numberMark (n : ℕ) : '\n' ∉ (numberMark n).toList := by
  rw [numberMark, String.toList_append, List.mem_append]
  rintro (h | h)
  · exact not_mem_toString (by decide) n h
  · revert h
    decide

theorem numberMark_append_ne (n : ℕ) (s : String) : ¬ numberMark n ++ s = "Assertions:" := by
  intro h
  have hpoint : '.' ∈ "Assertions:".toList := by
    rw [← h]
    simp [numberMark]
  revert hpoint
  decide

/-- The line can follow an entry: it begins with this number, or is the end of the list. -/
def Follows (End : String → Prop) (n : ℕ) (line : String) : Prop :=
  startsWith line (numberMark n) = true ∨ End line

/-- Of the entries numbered from here on, no later line reads like what can follow its entry. -/
def Apart (End : String → Prop) : ℕ → List String → Prop
  | _, [] => True
  | n, s :: rest => (∀ line ∈ laterLines s, ¬ Follows End (n + 1) line) ∧ Apart End (n + 1) rest

instance {End : String → Prop} [DecidablePred End] (n : ℕ) (line : String) : Decidable (Follows End n line) :=
  inferInstanceAs (Decidable (_ ∨ _))

instance decidableApart {End : String → Prop} [DecidablePred End] :
    (n : ℕ) → (entries : List String) → Decidable (Apart End n entries)
  | _, [] => inferInstanceAs (Decidable True)
  | n, _ :: rest =>
    have : Decidable (Apart End (n + 1) rest) := decidableApart (n + 1) rest
    inferInstanceAs (Decidable (_ ∧ _))

section

variable {End : String → Prop} {n : ℕ} {entries entries' rest rest' : List String}

theorem apart_of_one_line (h : ∀ s ∈ entries, '\n' ∉ s.toList) : Apart End n entries := by
  induction entries generalizing n with
  | nil => trivial
  | cons s entries ih =>
    obtain ⟨hs, hentries⟩ := List.forall_mem_cons.1 h
    refine ⟨fun line hline => ?_, ih hentries⟩
    rw [laterLines_of_not_mem hs] at hline
    cases hline

theorem numbered_cons (n : ℕ) (s : String) (entries : List String) :
    numbered n (s :: entries) = (numberMark n ++ s) :: numbered (n + 1) entries := rfl

/-- A list of entries begins with its first number, and no list with its end. -/
theorem follows_numbered (hrest : ∀ line ∈ rest.head?, End line) :
    ∀ line ∈ ((numbered n entries).flatMap linesOf ++ rest).head?, Follows End n line := by
  cases entries with
  | nil => exact fun line hline => .inr (hrest line hline)
  | cons s entries =>
    rw [numbered_cons, List.flatMap_cons, linesOf_label (break_not_mem_numberMark n)]
    rintro line ⟨⟩
    exact .inl (startsWith_append _ _)

/-- **Entries that keep apart are told from their lines.** -/
theorem eq_of_numbered (hend : ∀ n s, ¬ End (numberMark n ++ s)) (h : Apart End n entries) (h' : Apart End n entries')
    (hrest : ∀ line ∈ rest.head?, End line) (hrest' : ∀ line ∈ rest'.head?, End line)
    (hlines : (numbered n entries).flatMap linesOf ++ rest = (numbered n entries').flatMap linesOf ++ rest') :
    entries = entries' ∧ rest = rest' := by
  -- the end of one list cannot be an entry of the other
  have hnone {n : ℕ} {s : String} {entries lines rest : List String} (hrest : ∀ line ∈ rest.head?, End line) :
      rest ≠ (numbered n (s :: entries)).flatMap linesOf ++ lines := by
    rintro rfl
    rw [numbered_cons, List.flatMap_cons, linesOf_label (break_not_mem_numberMark n)] at hrest
    exact hend n _ (hrest _ rfl)
  induction entries generalizing n entries' with
  | nil =>
    cases entries' with
    | nil => exact ⟨rfl, hlines⟩
    | cons s' entries' => exact absurd hlines (hnone hrest)
  | cons s entries ih =>
    cases entries' with
    | nil => exact absurd hlines.symm (hnone hrest')
    | cons s' entries' =>
      obtain ⟨hs, hentries⟩ := h
      obtain ⟨hs', hentries'⟩ := h'
      rw [numbered_cons, numbered_cons, List.flatMap_cons, List.flatMap_cons, List.append_assoc,
        List.append_assoc] at hlines
      obtain ⟨rfl, hothers⟩ := eq_of_labelled hs hs' (follows_numbered hrest) (follows_numbered hrest')
        (break_not_mem_numberMark n) hlines
      obtain ⟨rfl, rfl⟩ := ih hentries hentries' hothers
      exact ⟨rfl, rfl⟩

end

/-! ## The case -/

/-- No later line of a text of the case reads like a line that can follow the text in the prompt. -/
structure Plain (c : Case) : Prop where
  name : ∀ line ∈ laterLines c.name, ¬ (startsWith line "Description: " = true ∨ line = "Steps:")
  description : ∀ line ∈ laterLines c.description, ¬ line = "Steps:"
  steps : Apart (· = "Assertions:") 1 c.steps
  assertions : Apart (fun _ => False) 1 c.assertions

variable {c d : Case}

theorem plain_of_one_line (h : ∀ text ∈ c.texts, '\n' ∉ text.toList) : Plain c := by
  have hnone {s : String} (hs : s ∈ c.texts) {P : String → Prop} : ∀ line ∈ laterLines s, P line := by
    rw [laterLines_of_not_mem (h s hs)]
    exact List.forall_mem_nil _
  exact ⟨hnone (by simp [Case.texts]), hnone (by simp [Case.texts]),
    apart_of_one_line fun s hs => h s (by simp [Case.texts, hs]),
    apart_of_one_line fun s hs => h s (by simp [Case.texts, hs])⟩

def descriptionLines (c : Case) : List String :=
  if c.description.isEmpty then [] else linesOf ("Description: " ++ c.description)

theorem flatMap_caseLines (c : Case) : (caseLines c).flatMap linesOf =
    linesOf ("Name: " ++ c.name) ++ (descriptionLines c ++ "Steps:" ::
      ((numbered 1 c.steps).flatMap linesOf ++ "Assertions:" :: (numbered 1 c.assertions).flatMap linesOf)) := by
  have hsteps : linesOf "Steps:" = ["Steps:"] := by decide
  have hassertions : linesOf "Assertions:" = ["Assertions:"] := by decide
  rw [caseLines, descriptionLines]
  split <;> simp [hsteps, hassertions]

/-- What follows the name is the description, if there is one, and the steps otherwise. -/
theorem mark_descriptionLines (rest : List String) :
    ∀ line ∈ (descriptionLines c ++ "Steps:" :: rest).head?,
      startsWith line "Description: " = true ∨ line = "Steps:" := by
  rw [descriptionLines]
  split
  · rintro line ⟨⟩
    exact .inr rfl
  · rw [linesOf_label (by decide)]
    rintro line ⟨⟩
    exact .inl (startsWith_append _ _)

theorem eq_of_descriptionLines (hc : Plain c) (hd : Plain d) {rest rest' : List String}
    (h : descriptionLines c ++ "Steps:" :: rest = descriptionLines d ++ "Steps:" :: rest') :
    c.description = d.description ∧ rest = rest' := by
  have hnone {s : String} {rest lines : List String} :
      "Steps:" :: rest ≠ linesOf ("Description: " ++ s) ++ lines := by
    rw [linesOf_label (by decide)]
    intro h
    have hstart := startsWith_append "Description: " (firstLine s)
    rw [← (List.cons.inj h).1] at hstart
    revert hstart
    decide
  rw [descriptionLines, descriptionLines] at h
  split at h
  · next hempty =>
    split at h
    · next hempty' =>
      rw [String.isEmpty_iff.1 hempty, String.isEmpty_iff.1 hempty']
      exact ⟨rfl, (List.cons.inj h).2⟩
    · exact absurd h hnone
  · split at h
    · exact absurd h.symm hnone
    · have hmark (rest : List String) : ∀ line ∈ ("Steps:" :: rest).head?, line = "Steps:" := by
        rintro line ⟨⟩
        rfl
      obtain ⟨hdescription, hrest⟩ := eq_of_labelled hc.description hd.description (hmark _) (hmark _) (by decide) h
      exact ⟨hdescription, (List.cons.inj hrest).2⟩

theorem eq_of_ofCase_eq (h : ofCase c = ofCase d) : (caseLines c).flatMap linesOf = (caseLines d).flatMap linesOf := by
  have hended : ended (caseLines c) = ended (caseLines d) := (String.append_right_inj preface).1 h
  have hlines := congrArg linesOf hended
  rw [linesOf_ended_eq, linesOf_ended_eq] at hlines
  exact List.append_cancel_right hlines

/-- **Plain cases have different prompts.** If two cases in which no later line of a text reads like what can follow the
text have the same prompt, they have the same name and description and the same lists of steps and assertions. Cases
with texts of one line are such. -/
theorem ofCase_injective :
    (∀ c : Case, (∀ text ∈ c.texts, '\n' ∉ text.toList) → Plain c) ∧
    ∀ c d : Case, Plain c → Plain d → ofCase c = ofCase d →
      c.name = d.name ∧ c.description = d.description ∧ c.steps = d.steps ∧ c.assertions = d.assertions := by
  refine ⟨fun c => plain_of_one_line, fun c d hc hd h => ?_⟩
  have hlines := eq_of_ofCase_eq h
  rw [flatMap_caseLines, flatMap_caseLines] at hlines
  obtain ⟨hname, hlines⟩ := eq_of_labelled hc.name hd.name (mark_descriptionLines _) (mark_descriptionLines _)
    (by decide) hlines
  obtain ⟨hdescription, hlines⟩ := eq_of_descriptionLines hc hd hlines
  obtain ⟨hsteps, hlines⟩ := eq_of_numbered numberMark_append_ne hc.steps hd.steps (by simp) (by simp) hlines
  have hend : (numbered 1 c.assertions).flatMap linesOf ++ [] = (numbered 1 d.assertions).flatMap linesOf ++ [] := by
    rw [(List.cons.inj hlines).2]
  obtain ⟨hassertions, -⟩ := eq_of_numbered (fun _ _ => id) hc.assertions hd.assertions (by simp) (by simp) hend
  exact ⟨hname, hdescription, hsteps, hassertions⟩

/-- A description of several lines, and a step with an item in it. -/
theorem ofCase_injective_lines :
    let c : Case :=
      ⟨"adds a row", "Rows:\n1. old\n2. new", ["type:\n1. a name", "save"], ["it is there"], none, none, false⟩
    let d : Case := { c with priority := some .high, skipIfEmpty := true }
    Plain c ∧ Plain d ∧ ofCase c = ofCase d ∧ c.steps = d.steps := by
  intro c d
  have hc : Plain c := ⟨by decide, by decide, by decide, by decide⟩
  have hd : Plain d := ⟨hc.name, hc.description, hc.steps, hc.assertions⟩
  exact ⟨hc, hd, rfl, (ofCase_injective.2 c d hc hd rfl).2.2.1⟩

/-- Two cases of one screen: what is one step with a line break for one of them are two steps for the other. -/
theorem prompt_ambiguous :
    let joined : CaseDraft := ⟨some "sends", none, some ["open it\n2. send it"], some ["it is sent"], none, none, none⟩
    let apart : CaseDraft := ⟨some "sends", none, some ["open it", "send it"], some ["it is sent"], none, none, none⟩
    let page : Draft := ⟨some "Mail", some "Letters", none, some [joined, apart]⟩
    validate page = .ok page.normal ∧ page.normal.cases = [joined.normal, apart.normal] ∧
      ofCase joined.normal = ofCase apart.normal ∧ joined.normal.steps ≠ apart.normal.steps := by
  decide +kernel

end Screenplay.Prompt
