/-
A valid screen, written as JSON and read as a draft, is found valid again and is
the same screen (`validate_again`). The screens that validation gives are just
those whose texts are trimmed and, where they have to be there, not empty
(`Screen.Normal`); the draft that is read back says each of its fields.
-/
import Screenplay.Proofs.Json.Fields
import Screenplay.Proofs.Spec.Defects
import Screenplay.Proofs.Spec.Validity

namespace Screenplay

/-! ## Normal screens -/

/-- A text that validation leaves as it is: not empty, and without blanks at its ends. -/
structure Text.Proper (s : String) : Prop where
  trim_eq : Text.trim s = s
  ne_empty : s ≠ ""

theorem Text.Proper.not_vacant {s : String} (h : Text.Proper s) : Text.isVacant s ≠ true := by
  intro hv
  rw [← Text.trim_eq_empty_iff, h.trim_eq] at hv
  exact h.ne_empty hv

theorem Text.proper_trim {s : String} (h : Text.isVacant s ≠ true) : Text.Proper (Text.trim s) :=
  ⟨Text.trim_trim s, fun he => h (Text.trim_eq_empty_iff.1 he)⟩

/-- The entries of a list of a case: at least one, and none of them blank. -/
structure Text.ProperList (entries : List String) : Prop where
  ne_nil : entries ≠ []
  proper : ∀ s ∈ entries, Text.Proper s

structure Case.Normal (c : Case) : Prop where
  name : Text.Proper c.name
  description : Text.trim c.description = c.description
  steps : Text.ProperList c.steps
  assertions : Text.ProperList c.assertions

structure Screen.Normal (s : Screen) : Prop where
  name : Text.Proper s.name
  description : Text.Proper s.description
  route : ∀ r, s.route = some r → Text.Proper r
  cases_ne_nil : s.cases ≠ []
  cases : ∀ c ∈ s.cases, c.Normal

/-! ## Validation gives normal screens -/

theorem proper_of_sound {s : Option String} (h : ∀ e, ¬ TextDefect s e) : Text.Proper (trimmedText s) := by
  cases s with
  | none => exact absurd .missing (h _)
  | some s => exact Text.proper_trim fun hv => h _ (.blank hv)

theorem CaseDraft.properList_of_sound {c : CaseDraft} {i : Nat} (h : ∀ p e, ¬ c.Defective i p e) (l : Listing) :
    Text.ProperList (trimmedEntries (c.listed l)) := by
  cases hl : c.listed l with
  | none => exact absurd (.noEntries (.inl hl)) (h _ _)
  | some entries =>
    refine ⟨fun hn => ?_, fun s hs => ?_⟩
    · have hnil : entries = [] := List.map_eq_nil_iff.1 hn
      exact h _ _ (.noEntries (.inr (hnil ▸ hl)))
    · obtain ⟨t, ht, rfl⟩ := List.mem_map.1 hs
      obtain ⟨j, hj⟩ := List.getElem?_of_mem ht
      exact Text.proper_trim fun hv => h _ _ (.blankEntry hl hj hv)

theorem CaseDraft.normal_of_sound {c : CaseDraft} {i : Nat} (h : ∀ p e, ¬ c.Defective i p e) :
    c.normal.Normal where
  name := proper_of_sound fun _ he => h _ _ (.name he)
  description := by
    obtain ⟨t, ht⟩ := trimmedText_eq_trim c.description
    rw [normal, ht, Text.trim_trim]
  steps := properList_of_sound h .steps
  assertions := properList_of_sound h .assertions

theorem Draft.normal_of_sound {d : Draft} (h : ∀ p e, ¬ d.Defective p e) : d.normal.Normal where
  name := proper_of_sound fun _ he => h _ _ (.screen he)
  description := proper_of_sound fun _ he => h _ _ (.description he)
  route r hr := by
    obtain ⟨hm, hne⟩ := Option.filter_eq_some_iff.1 hr
    obtain ⟨t, -, rfl⟩ := Option.map_eq_some_iff.1 hm
    exact ⟨Text.trim_trim t, by simpa using hne⟩
  cases_ne_nil hn := by
    cases ht : d.tests with
    | none => exact h _ _ (.missingTests ht)
    | some drafts =>
      rw [normal, ht, Option.getD_some, List.map_eq_nil_iff] at hn
      exact h _ _ (.noTests (hn ▸ ht))
  cases c hc := by
    obtain ⟨cd, hcd, rfl⟩ := List.mem_map.1 hc
    cases ht : d.tests with
    | none => rw [ht] at hcd; cases hcd
    | some drafts =>
      rw [ht] at hcd
      obtain ⟨i, hi⟩ := List.getElem?_of_mem hcd
      exact CaseDraft.normal_of_sound fun p e he => h p e (.test ht hi he)

/-! ## A normal screen as a draft -/

/-- A case, written out again. -/
def Case.draft (c : Case) : CaseDraft where
  name := some c.name
  description := some c.description
  steps := some c.steps
  assertions := some c.assertions
  hint := c.hint.map Hint.name
  priority := c.priority.map Priority.name
  skipIfEmpty := some c.skipIfEmpty

/-- A screen, written out again. -/
def Screen.draft (s : Screen) : Draft where
  screen := some s.name
  description := some s.description
  route := s.route
  tests := some (s.cases.map Case.draft)

theorem Hint.foldName_name (h : Hint) : foldName h.name = h.name := by
  cases h with
  | generative => decide +kernel
  | flow f => cases f <;> decide +kernel

theorem Priority.foldName_name (p : Priority) : foldName p.name = p.name := by
  cases p <;> decide +kernel

example : foldName " Form-Submission\t" = "form-submission" ∧ foldName "HIGH" = "high" := by decide +kernel

theorem Text.Proper.no_defect {s : String} (h : Text.Proper s) (e : Defect) : ¬ TextDefect (some s) e := by
  intro he
  cases he with
  | blank hv => exact h.not_vacant hv

theorem Case.Normal.sound {c : Case} (h : c.Normal) (i : Nat) (p : Place) (e : Defect) :
    ¬ c.draft.Defective i p e := by
  have hlisted (l : Listing) : ∃ entries, c.draft.listed l = some entries ∧ Text.ProperList entries := by
    cases l with
    | steps => exact ⟨c.steps, rfl, h.steps⟩
    | assertions => exact ⟨c.assertions, rfl, h.assertions⟩
  intro he
  cases he with
  | name he => exact h.name.no_defect _ he
  | @noEntries l hn =>
    obtain ⟨entries, hl, hp⟩ := hlisted l
    rw [hl] at hn
    rcases hn with hn | hn
    · cases hn
    · exact hp.ne_nil (Option.some.inj hn)
  | @blankEntry l entries j s he hj hs =>
    obtain ⟨entries', hl, hp⟩ := hlisted l
    rw [hl] at he
    cases he
    exact (hp.proper s (List.mem_of_getElem? hj)).not_vacant hs
  | hint hs hne =>
    obtain ⟨v, -, rfl⟩ := Option.map_eq_some_iff.1 hs
    exact hne v v.foldName_name.symm
  | priority hs hne =>
    obtain ⟨v, -, rfl⟩ := Option.map_eq_some_iff.1 hs
    exact hne v v.foldName_name.symm

theorem Screen.Normal.sound {s : Screen} (h : s.Normal) (p : Place) (e : Defect) : ¬ s.draft.Defective p e := by
  intro he
  cases he with
  | screen he => exact h.name.no_defect _ he
  | description he => exact h.description.no_defect _ he
  | missingTests ht => cases ht
  | noTests ht => exact h.cases_ne_nil (List.map_eq_nil_iff.1 (Option.some.inj ht))
  | test ht hi he =>
    cases ht
    obtain ⟨c, hc, rfl⟩ := List.mem_map.1 (List.mem_of_getElem? hi)
    exact (h.cases c hc).sound _ _ _ he

theorem trimmedEntries_proper {entries : List String} (h : Text.ProperList entries) :
    trimmedEntries (some entries) = entries := by
  rw [trimmedEntries, Option.getD_some, List.map_congr_left fun s hs => (h.proper s hs).trim_eq]
  exact List.map_id _

theorem Knows.bind_parse {β : Type} {parse : String → Except UnknownName β} {name : β → String}
    {unknown : String → UnknownName} (h : Knows parse name unknown) (hfold : ∀ b, foldName (name b) = name b)
    (value : Option β) : (value.map name).bind (fun s => (parse (foldName s)).toOption) = value := by
  cases value with
  | none => rfl
  | some b =>
    rw [Option.map_some, Option.bind_some, hfold, h.parse_name]
    rfl

theorem Case.Normal.normal_draft {c : Case} (h : c.Normal) : c.draft.normal = c := by
  have hname : trimmedText (some c.name) = c.name := h.name.trim_eq
  have hdescription : trimmedText (some c.description) = c.description := h.description
  have hhint := Hint.knows.bind_parse Hint.foldName_name c.hint
  have hpriority := Priority.knows.bind_parse Priority.foldName_name c.priority
  rw [CaseDraft.normal, draft, hname, hdescription, trimmedEntries_proper h.steps,
    trimmedEntries_proper h.assertions, hhint, hpriority]
  rfl

theorem Screen.Normal.normal_draft {s : Screen} (h : s.Normal) : s.draft.normal = s := by
  have hname : trimmedText (some s.name) = s.name := h.name.trim_eq
  have hdescription : trimmedText (some s.description) = s.description := h.description.trim_eq
  have hroute : (s.route.map Text.trim).filter (· ≠ "") = s.route := by
    cases hr : s.route with
    | none => rfl
    | some r =>
      have hp := h.route r hr
      rw [Option.map_some, hp.trim_eq, Option.filter_some, if_pos (by simpa using hp.ne_empty)]
  have hcases : (s.cases.map Case.draft).map CaseDraft.normal = s.cases := by
    rw [List.map_map]
    exact (List.map_congr_left fun c hc => (h.cases c hc).normal_draft).trans (List.map_id _)
  rw [Draft.normal, draft, hname, hdescription, hroute, Option.getD_some, hcases]

theorem Screen.Normal.validate_draft {s : Screen} (h : s.Normal) : validate s.draft = .ok s := by
  have hd : s.draft.defects = [] := List.eq_nil_iff_forall_not_mem.2 fun v hv => h.sound _ _ (Draft.mem_defects.1 hv)
  rw [validate, if_pos hd, h.normal_draft]

/-- **The screens that validation gives are the normal ones.** -/
theorem Screen.valid_iff_normal {s : Screen} : s.Valid ↔ s.Normal := by
  refine ⟨fun h => ?_, fun h => ⟨s.draft, h.validate_draft⟩⟩
  obtain ⟨d, hd, rfl⟩ := h.exists_draft
  refine Draft.normal_of_sound fun p e he => ?_
  have hmem : ⟨p, e⟩ ∈ d.defects := Draft.mem_defects.2 he
  rw [hd] at hmem
  cases hmem

/-! ## Reading a screen as a draft -/

open Document

/-- The fields of a case, as they are written. -/
def Case.fields (c : Case) : List (String × Option Json) := [
  ("name", some (.string c.name)),
  ("description", some (.string c.description)),
  ("steps", some (.ofStrings c.steps)),
  ("assertions", some (.ofStrings c.assertions)),
  ("templateHint", c.hint.map (.string ·.name)),
  ("priority", c.priority.map (.string ·.name)),
  ("skipIfEmpty", some (.bool c.skipIfEmpty))]

/-- The fields of a screen, as they are written. -/
def Screen.fields (s : Screen) : List (String × Option Json) := [
  ("screen", some (.string s.name)),
  ("description", some (.string s.description)),
  ("route", s.route.map .string),
  ("tests", some (.array (s.cases.map Case.toJson)))]

theorem optional_text?_map {β : Type} (name : β → String) (value : Option β) :
    optional (text? : Json → Option String) (value.map fun b => .string (name b)) = some (value.map name) := by
  cases value <;> rfl

theorem optional_listOf_ofStrings (l : List String) :
    optional (listOf (text? : Json → Option String)) (some (Json.ofStrings l)) = some (some l) := by
  have h : optional (listOf (text? : Json → Option String)) (some (Json.ofStrings l)) =
      (listOf text? (Json.ofStrings l)).map some := rfl
  rw [h, listOf_ofStrings, Option.map_some]

theorem CaseDraft.read?_of_fields {c : Case} {v : Json} (h : record? caseFields v = some (c.fields.map (·.2))) :
    CaseDraft.read? v = some c.draft := by
  have hhint := optional_text?_map Hint.name c.hint
  have hpriority := optional_text?_map Priority.name c.priority
  rw [read?, h]
  simp only [Case.fields, List.map_cons, List.map_nil, Option.bind_eq_bind, Option.bind_some,
    optional_listOf_ofStrings, hhint, hpriority]
  rfl

theorem Draft.read?_of_fields {s : Screen} {write : Case → Json} {v : Json}
    (h : record? ["screen", "description", "route", "tests"] v = some [some (.string s.name),
      some (.string s.description), s.route.map .string, some (.array (s.cases.map write))])
    (hcases : ∀ c ∈ s.cases, CaseDraft.read? (write c) = some c.draft) : Draft.read? v = some s.draft := by
  have hroute := optional_text?_map (fun r => r) s.route
  have htests : optional (listOf CaseDraft.read?) (some (Json.array (s.cases.map write))) =
      (listOf CaseDraft.read? (Json.array (s.cases.map write))).map some := rfl
  rw [listOf_array hcases, Option.map_some] at htests
  rw [read?, h]
  simp only [Option.bind_eq_bind, Option.bind_some, hroute, htests, Option.map_id']
  rfl

theorem Json.canonical_ofStrings (l : List String) : (Json.ofStrings l).canonical = Json.ofStrings l := by
  have hitems : Json.canonicalItems (l.map .string) = l.map .string := by
    induction l with
    | nil => rfl
    | cons s l ih => exact congrArg (Json.string s :: ·) ih
  exact congrArg Json.array hitems

theorem Json.canonicalItems_eq_map (items : List Json) : Json.canonicalItems items = items.map Json.canonical := by
  induction items with
  | nil => rfl
  | cons j items ih => exact congrArg (j.canonical :: ·) ih

theorem Case.nodup_fields (c : Case) : (c.fields.map (·.1)).Nodup :=
  (by decide : caseFields.Nodup)

theorem Screen.nodup_fields (s : Screen) : (s.fields.map (·.1)).Nodup :=
  (by decide : ["screen", "description", "route", "tests"].Nodup)

theorem CaseDraft.read?_toJson (c : Case) : CaseDraft.read? c.toJson = some c.draft :=
  read?_of_fields (record?_objectOf c.nodup_fields)

theorem Case.fields_canonical (c : Case) : c.fields.map (·.2.map Json.canonical) = c.fields.map (·.2) := by
  have hnamed {β : Type} (name : β → String) (value : Option β) :
      (value.map fun b => Json.string (name b)).map Json.canonical = value.map fun b => .string (name b) := by
    cases value <;> rfl
  simp only [fields, List.map_cons, List.map_nil, Option.map_some, Json.canonical_ofStrings, hnamed]
  rfl

theorem CaseDraft.read?_canonical (c : Case) : CaseDraft.read? c.toJson.canonical = some c.draft :=
  read?_of_fields ((record?_canonical c.nodup_fields).trans (congrArg some c.fields_canonical))

/-- A screen that is read as a draft gives the draft that says its fields. -/
theorem Draft.read?_toJson (s : Screen) : Draft.read? s.toJson = some s.draft :=
  read?_of_fields (record?_objectOf s.nodup_fields) fun c _ => CaseDraft.read?_toJson c

/-- So does one whose members are in order. -/
theorem Draft.read?_canonical (s : Screen) : Draft.read? s.toJson.canonical = some s.draft := by
  have hroute : (s.route.map Json.string).map Json.canonical = s.route.map .string := by
    cases s.route <;> rfl
  have htests : (Json.array (s.cases.map Case.toJson)).canonical =
      .array (s.cases.map fun c => c.toJson.canonical) := by
    rw [Json.canonical, Json.canonicalItems_eq_map, List.map_map]
    rfl
  have h := record?_canonical s.nodup_fields
  simp only [Screen.fields, List.map_cons, List.map_nil, Option.map_some, hroute, htests] at h
  exact read?_of_fields h fun c _ => CaseDraft.read?_canonical c

/-! ## The round trip -/

/-- **A valid screen is read back as it is.** Written as JSON, with the members of its objects in the order
of the fields or in that of their names, it is read as a draft, and validation gives the same screen. -/
theorem validate_again {d : Draft} {s : Screen} (h : validate d = .ok s) :
    ∃ d', Draft.read? s.toJson = some d' ∧ Draft.read? s.toJson.canonical = some d' ∧ validate d' = .ok s := by
  have hs : s.Normal := Screen.valid_iff_normal.1 ⟨d, h⟩
  exact ⟨s.draft, Draft.read?_toJson s, Draft.read?_canonical s, hs.validate_draft⟩

/-- A hint and a priority in capitals, a blank route, and neither a description nor a flag. -/
theorem validate_again_unfolded :
    let d : Draft := ⟨some " Inbox ", some "The mail\n", some "\t", some [
      ⟨some "opens", none, some [" open it"], some ["it opens ", "it closes"], some " Modal-Dialog ", some "HIGH", none⟩,
      ⟨some "Σ", some "  ", some ["a", "b"], some ["c"], some "GENERATIVE", none, some true⟩]⟩
    let s : Screen := ⟨"Inbox", "The mail", none, [
      ⟨"opens", "", ["open it"], ["it opens", "it closes"], some (.flow .modalDialog), some .high, false⟩,
      ⟨"Σ", "", ["a", "b"], ["c"], some .generative, none, true⟩]⟩
    validate d = .ok s ∧
      ∃ d', Draft.read? s.toJson = some d' ∧ Draft.read? s.toJson.canonical = some d' ∧ validate d' = .ok s := by
  intro d s
  have h : validate d = .ok s := by decide +kernel
  exact ⟨h, validate_again h⟩

end Screenplay
