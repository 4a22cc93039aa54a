/-
The code that is taken out of a completion. A block begins with a mark, a label of letters and
blanks and a line break, and ends with a mark (`Fenced`). The search finds the first place where a
block begins, and takes it up to the first mark (`block?_eq_some_iff`). What is found has no mark
in it, so nothing is left to take out of the code (`codeOf_clean`).

A label is narrower than what stands behind a mark in practice. After any other text there the
mark opens nothing, and the search goes on at the mark that was to close the block
(`codeOf_fenced`, `codeOf_misses_label`).
-/
import Screenplay.Generation.Refine
import Screenplay.Proofs.Text.Blanks
import Screenplay.Proofs.Text.Search

namespace Screenplay.Fence

open Screenplay.Text

/-! ## Blocks -/

/-- What an opening fence may have between its mark and its line break. -/
def IsLabel (label : List Char) : Prop :=
  ∃ letters blanks ending, label = letters ++ blanks ++ ending ∧ letters.all isAsciiLetter = true ∧
    blanks.all isSpaceOrTab = true ∧ (ending = [] ∨ ending = ['\r'])

/-- The text begins with an opening fence, this body, and a mark. -/
def Fenced (s body : List Char) : Prop :=
  ∃ label after, IsLabel label ∧ s = mark ++ label ++ '\n' :: body ++ mark ++ after

/-- There is a block in the text. -/
def HasBlock (s : List Char) : Prop := ∃ before rest body, s = before ++ rest ∧ Fenced rest body

/-- A block of a text that is cut in two, at the beginning of its second part. No block begins before it, and its
body is the shortest it can have there. -/
structure Leading (before rest body : List Char) : Prop where
  fenced : Fenced rest body
  shortest : ∀ other, Fenced rest other → body <+: other
  first : ∀ start, start ≠ [] → start <:+ before → ∀ other, ¬ Fenced (start ++ rest) other

/-- This is the body of the first block of the text. -/
def FirstBlock (s body : List Char) : Prop := ∃ before rest, s = before ++ rest ∧ Leading before rest body

/-! ## Opening fences -/

theorem afterBreak?_eq_some_iff {s rest : List Char} :
    afterBreak? s = some rest ↔ ∃ ending, (ending = [] ∨ ending = ['\r']) ∧ s = ending ++ '\n' :: rest := by
  constructor
  · intro h
    unfold afterBreak? at h
    split at h
    · cases h
      exact ⟨['\r'], .inr rfl, rfl⟩
    · cases h
      exact ⟨[], .inl rfl, rfl⟩
    · cases h
  · rintro ⟨ending, rfl | rfl, rfl⟩ <;> rfl

theorem isAsciiLetter_of_isSpaceOrTab {c : Char} (h : isSpaceOrTab c = true) : isAsciiLetter c = false := by
  rw [isSpaceOrTab, Bool.or_eq_true, decide_eq_true_iff, decide_eq_true_iff] at h
  rcases h with rfl | rfl <;> decide

theorem IsLabel.dropWhile {letters blanks ending : List Char} (hletters : letters.all isAsciiLetter = true)
    (hblanks : blanks.all isSpaceOrTab = true) (hending : ending = [] ∨ ending = ['\r']) (rest : List Char) :
    ((letters ++ blanks ++ ending ++ '\n' :: rest).dropWhile isAsciiLetter).dropWhile isSpaceOrTab =
      ending ++ '\n' :: rest := by
  have hend : (ending ++ '\n' :: rest).dropWhile isAsciiLetter = ending ++ '\n' :: rest ∧
      (ending ++ '\n' :: rest).dropWhile isSpaceOrTab = ending ++ '\n' :: rest := by
    rcases hending with rfl | rfl <;> exact ⟨rfl, rfl⟩
  have hmid : (blanks ++ (ending ++ '\n' :: rest)).dropWhile isAsciiLetter = blanks ++ (ending ++ '\n' :: rest) := by
    cases blanks with
    | nil => exact hend.1
    | cons c r => simp [isAsciiLetter_of_isSpaceOrTab (List.all_eq_true.1 hblanks c (by simp))]
  rw [List.append_assoc, List.append_assoc, List.dropWhile_append_of_pos (List.all_eq_true.1 hletters), hmid,
    List.dropWhile_append_of_pos (List.all_eq_true.1 hblanks), hend.2]

theorem afterOpening?_eq_some_iff {s rest : List Char} :
    afterOpening? s = some rest ↔ ∃ label, IsLabel label ∧ s = mark ++ label ++ '\n' :: rest := by
  constructor
  · intro h
    unfold afterOpening? at h
    split at h
    · next hmark =>
      obtain ⟨t, rfl⟩ := isPrefixOf_iff.1 hmark
      rw [List.drop_left] at h
      obtain ⟨ending, hending, htail⟩ := afterBreak?_eq_some_iff.1 h
      refine ⟨t.takeWhile isAsciiLetter ++ (t.dropWhile isAsciiLetter).takeWhile isSpaceOrTab ++ ending,
        ⟨_, _, ending, rfl, List.all_takeWhile, List.all_takeWhile, hending⟩, ?_⟩
      rw [List.append_assoc, List.append_assoc _ ending, ← htail, List.append_assoc, List.takeWhile_append_dropWhile,
        List.takeWhile_append_dropWhile]
    · cases h
  · rintro ⟨label, ⟨letters, blanks, ending, rfl, hletters, hblanks, hending⟩, rfl⟩
    rw [afterOpening?, List.append_assoc, if_pos (isPrefixOf_iff.2 ⟨_, rfl⟩), List.drop_left,
      IsLabel.dropWhile hletters hblanks hending]
    exact afterBreak?_eq_some_iff.2 ⟨ending, hending, rfl⟩

theorem fenced_iff {s body : List Char} :
    Fenced s body ↔ ∃ after, afterOpening? s = some (body ++ mark ++ after) := by
  constructor
  · rintro ⟨label, after, hlabel, rfl⟩
    exact ⟨after, afterOpening?_eq_some_iff.2 ⟨label, hlabel, by simp⟩⟩
  · rintro ⟨after, h⟩
    obtain ⟨label, hlabel, rfl⟩ := afterOpening?_eq_some_iff.1 h
    exact ⟨label, after, hlabel, by simp⟩

/-! ## The search -/

theorem blockHere?_of_opening {s rest : List Char} (h : afterOpening? s = some rest) :
    blockHere? s = (cut mark rest).map (·.1) := by
  rw [blockHere?, h, Option.map_eq_bind]
  rfl

theorem blockHere?_eq_none_iff {s : List Char} : blockHere? s = none ↔ ∀ body, ¬ Fenced s body := by
  constructor
  · intro h body hbody
    obtain ⟨after, ho⟩ := fenced_iff.1 hbody
    rw [blockHere?_of_opening ho, Option.map_eq_none_iff, cut_eq_none_iff] at h
    exact h (List.infix_append body mark after)
  · intro h
    cases ho : afterOpening? s with
    | none => rw [blockHere?, ho]; rfl
    | some rest =>
      rw [blockHere?_of_opening ho, Option.map_eq_none_iff, cut_eq_none_iff]
      rintro ⟨body, after, rfl⟩
      exact h body (fenced_iff.2 ⟨after, ho⟩)

theorem blockHere?_eq_some_iff {s body : List Char} :
    blockHere? s = some body ↔ Fenced s body ∧ ∀ other, Fenced s other → body <+: other := by
  have hfound {b : List Char} (h : blockHere? s = some b) :
      Fenced s b ∧ ∀ other, Fenced s other → b <+: other := by
    obtain ⟨rest, hrest, h⟩ := Option.bind_eq_some_iff.1 h
    obtain ⟨⟨_, after⟩, hcut, h⟩ := Option.bind_eq_some_iff.1 h
    cases h
    refine ⟨fenced_iff.2 ⟨after, by rw [hrest, eq_of_cut hcut]⟩, fun other hother => ?_⟩
    obtain ⟨after', ho⟩ := fenced_iff.1 hother
    exact prefix_of_cut hcut (Option.some.inj (hrest.symm.trans ho))
  refine ⟨hfound, fun ⟨hbody, hshortest⟩ => ?_⟩
  cases hb : blockHere? s with
  | none => exact absurd hbody (blockHere?_eq_none_iff.1 hb body)
  | some b =>
    obtain ⟨hfenced, hleast⟩ := hfound hb
    rw [(hleast body hbody).eq_of_length_le (hshortest b hfenced).length_le]

theorem not_fenced_nil (body : List Char) : ¬ Fenced [] body := by
  rintro ⟨label, after, -, h⟩
  simp [mark] at h

theorem block?_of_fenced {s body : List Char} (h : Fenced s body) :
    block? s = (blockHere? s).or (block? s.tail) := by
  cases s with
  | nil => exact absurd h (not_fenced_nil body)
  | cons c r => rfl

/-- **The search finds the first block**, with the shortest body it can have. -/
theorem block?_eq_some_iff {s body : List Char} : block? s = some body ↔ FirstBlock s body := by
  constructor
  · intro h
    induction s with
    | nil => cases h
    | cons c r ih =>
      rw [block?, Option.or_eq_some_iff] at h
      rcases h with h | ⟨hnone, h⟩
      · obtain ⟨hfenced, hshortest⟩ := blockHere?_eq_some_iff.1 h
        refine ⟨[], c :: r, rfl, hfenced, hshortest, fun start hne hstart => ?_⟩
        exact absurd (List.suffix_nil.1 hstart) hne
      · obtain ⟨before, rest, rfl, hlead⟩ := ih h
        refine ⟨c :: before, rest, rfl, hlead.fenced, hlead.shortest, fun start hne hstart => ?_⟩
        rcases List.suffix_cons_iff.1 hstart with rfl | hstart
        · exact blockHere?_eq_none_iff.1 hnone
        · exact hlead.first start hne hstart
  · rintro ⟨before, rest, rfl, hlead⟩
    induction before with
    | nil =>
      rw [List.nil_append, block?_of_fenced hlead.fenced,
        blockHere?_eq_some_iff.2 ⟨hlead.fenced, hlead.shortest⟩, Option.some_or]
    | cons c before ih =>
      have hhere : blockHere? (c :: (before ++ rest)) = none :=
        blockHere?_eq_none_iff.2 (hlead.first (c :: before) (List.cons_ne_nil _ _) (List.suffix_refl _))
      rw [List.cons_append, block?, hhere, Option.none_or]
      exact ih ⟨hlead.fenced, hlead.shortest, fun start hne hstart =>
        hlead.first start hne (hstart.trans (List.suffix_cons c before))⟩

theorem block?_eq_none_iff {s : List Char} : block? s = none ↔ ¬ HasBlock s := by
  induction s with
  | nil =>
    refine iff_of_true rfl ?_
    rintro ⟨before, rest, body, h, hbody⟩
    rw [(List.append_eq_nil_iff.1 h.symm).2] at hbody
    exact not_fenced_nil body hbody
  | cons c r ih =>
    rw [block?, Option.or_eq_none_iff, blockHere?_eq_none_iff, ih]
    constructor
    · rintro ⟨hhere, hrest⟩ ⟨before, rest, body, h, hbody⟩
      cases before with
      | nil => exact hhere body (h ▸ hbody)
      | cons d before => exact hrest ⟨before, rest, body, (List.cons.inj h).2, hbody⟩
    · intro h
      refine ⟨fun body hbody => h ⟨[], c :: r, body, rfl, hbody⟩, ?_⟩
      rintro ⟨before, rest, body, rfl, hbody⟩
      exact h ⟨c :: before, rest, body, rfl, hbody⟩

theorem Fenced.mark_prefix {s body : List Char} (h : Fenced s body) : mark <+: s := by
  obtain ⟨label, after, -, rfl⟩ := h
  simp only [List.append_assoc]
  exact List.prefix_append _ _

/-- The body of the first block has no mark in it, or it would have ended there. -/
theorem FirstBlock.not_mark {s body : List Char} (h : FirstBlock s body) : ¬ mark <:+: body := by
  rintro ⟨b, a, rfl⟩
  obtain ⟨before, rest, -, hlead⟩ := h
  obtain ⟨label, after, hlabel, rfl⟩ := hlead.fenced
  have hlen := (hlead.shortest b ⟨label, a ++ mark ++ after, hlabel, by simp⟩).length_le
  simp only [List.length_append, mark, List.length_cons] at hlen
  omega

/-! ## Texts without blocks -/

theorem not_hasBlock_of_not_mark {s : List Char} (h : ¬ mark <:+: s) : ¬ HasBlock s := by
  rintro ⟨before, rest, body, rfl, hbody⟩
  exact h (hbody.mark_prefix.isInfix.trans (List.suffix_append before rest).isInfix)

theorem HasBlock.mono {s t : List Char} (h : HasBlock s) (hst : s <:+: t) : HasBlock t := by
  obtain ⟨before, rest, body, rfl, label, after, hlabel, rfl⟩ := h
  obtain ⟨u, v, rfl⟩ := hst
  exact ⟨u ++ before, mark ++ label ++ '\n' :: body ++ mark ++ (after ++ v), body, by simp, label, after ++ v, hlabel,
    rfl⟩

theorem HasBlock.of_break {s : List Char} (h : HasBlock (s ++ ['\n'])) : HasBlock s := by
  obtain ⟨before, rest, body, hs, label, after, hlabel, rfl⟩ := h
  rcases List.eq_nil_or_concat' after with rfl | ⟨after, c, rfl⟩
  · have hend : before ++ (mark ++ label ++ '\n' :: body ++ mark ++ []) =
        before ++ mark ++ label ++ '\n' :: body ++ ['\x60', '\x60'] ++ ['\x60'] := by simp [mark]
    cases (List.append_inj' (hs.trans hend) rfl).2
  · refine ⟨before, _, body, ?_, label, after, hlabel, rfl⟩
    simp only [← List.append_assoc] at hs ⊢
    exact (List.append_inj' hs rfl).1

theorem not_mark_break {s : List Char} (h : ¬ mark <:+: s) : ¬ mark <:+: s ++ ['\n'] := by
  rw [List.infix_concat_iff, not_or]
  refine ⟨fun ⟨u, hu⟩ => ?_, h⟩
  have hlast := congrArg List.getLast? hu
  simp [mark] at hlast

/-! ## The code -/

/-- What is made of the text that code is taken from. -/
def finished (s : List Char) : String :=
  if s.all isBlank = true then "" else .ofList (trimmed s ++ ['\n'])

/-- Code is taken from the first block of a text, or from the whole text when it has none. -/
def IsSource (s source : List Char) : Prop := FirstBlock s source ∨ ¬ HasBlock s ∧ source = s

/-- A text that begins with no blank, ends with one line break behind what is no blank, and has no block. -/
structure Finished (code : List Char) : Prop where
  begins : ∀ c, code.head? = some c → isBlank c = false
  ends : ∃ before c, code = before ++ [c, '\n'] ∧ isBlank c = false
  plain : ¬ HasBlock code

theorem finished_eq (s : List Char) : finished s = if trimmed s = [] then "" else .ofList (trimmed s ++ ['\n']) := by
  rw [finished]
  simp only [trimmed_eq_nil_iff, List.all_eq_true]

theorem finished_congr {s t : List Char} (h : trimmed s = trimmed t) : finished s = finished t := by
  rw [finished_eq, finished_eq, h]

theorem finished_eq_empty_iff {s : List Char} : finished s = "" ↔ s.all isBlank = true := by
  rw [finished]
  split
  · next h => exact iff_of_true rfl h
  · next h => exact iff_of_false (by simp) h

theorem toList_finished {s : List Char} (h : finished s ≠ "") : (finished s).toList = trimmed s ++ ['\n'] := by
  rw [finished, if_neg fun hs => h (finished_eq_empty_iff.2 hs), String.toList_ofList]

theorem codeOf_eq (text : String) : codeOf text = finished ((block? text.toList).getD text.toList) := by
  rw [codeOf, finished_eq]
  simp only [List.isEmpty_iff]

theorem isSource_iff {s source : List Char} : IsSource s source ↔ (block? s).getD s = source := by
  unfold IsSource
  rw [← block?_eq_some_iff, ← block?_eq_none_iff]
  cases block? s with
  | none => simp [eq_comm]
  | some body => simp

theorem IsSource.codeOf_eq {text : String} {source : List Char} (h : IsSource text.toList source) :
    codeOf text = finished source := by
  rw [Fence.codeOf_eq, isSource_iff.1 h]

theorem exists_isSource (s : List Char) : ∃ source, IsSource s source := ⟨_, isSource_iff.2 rfl⟩

theorem finished_finished (s : List Char) : finished (finished s).toList = finished s := by
  by_cases h : finished s = ""
  · rw [h]
    rfl
  · rw [toList_finished h]
    exact finished_congr (by rw [trimmed_concat_blank (by decide), trimmed_trimmed])

/-- No block arises where code is finished, be it the body of a block or a text without any. -/
theorem IsSource.not_hasBlock {s source : List Char} (h : IsSource s source) : ¬ HasBlock (finished source).toList := by
  by_cases hempty : finished source = ""
  · rw [hempty]
    exact not_hasBlock_of_not_mark (by decide)
  rw [toList_finished hempty]
  rcases h with h | ⟨h, rfl⟩
  · exact not_hasBlock_of_not_mark (not_mark_break fun hm => h.not_mark (hm.trans (trimmed_part _)))
  · exact fun hb => h (hb.of_break.mono (trimmed_part _))

theorem IsSource.finished {s source : List Char} (h : IsSource s source) (hne : Fence.finished source ≠ "") :
    Finished (Fence.finished source).toList := by
  have hplain := h.not_hasBlock
  rw [toList_finished hne] at hplain ⊢
  have htrimmed : trimmed source ≠ [] := fun hnil =>
    hne (finished_eq_empty_iff.2 (List.all_eq_true.2 (trimmed_eq_nil_iff.1 hnil)))
  obtain ⟨before, last, hlast, hblank⟩ := exists_last_of_trimmed_ne_nil htrimmed
  refine ⟨fun c hc => not_blank_of_head? (s := source) ?_, ⟨before, last, by rw [hlast]; simp, hblank⟩, hplain⟩
  rwa [List.head?_append_of_ne_nil _ htrimmed] at hc

/-- **Code is clean.** It is empty, or begins with no blank, ends with one line break, and has no block in it. It is
empty just when what it was taken from is blank, the first block or else the whole text. So nothing changes when code
is taken out of code. -/
theorem codeOf_clean (text : String) :
    (codeOf text = "" ∨ Finished (codeOf text).toList) ∧
    (codeOf text = "" ↔ ∃ source, IsSource text.toList source ∧ source.all isBlank = true) ∧
    codeOf (codeOf text) = codeOf text := by
  obtain ⟨source, hsource⟩ := exists_isSource text.toList
  have hcode := hsource.codeOf_eq
  refine ⟨?_, ⟨fun h => ⟨source, hsource, ?_⟩, ?_⟩, ?_⟩
  · rw [hcode]
    exact Classical.or_iff_not_imp_left.2 hsource.finished
  · exact finished_eq_empty_iff.1 (hcode ▸ h)
  · rintro ⟨source', hsource', hblank⟩
    rw [hsource'.codeOf_eq, finished_eq_empty_iff]
    exact hblank
  · have hself : IsSource (finished source).toList (finished source).toList := .inr ⟨hsource.not_hasBlock, rfl⟩
    rw [hcode, hself.codeOf_eq, finished_finished]

/-! ## A block with any label -/

/-- No mark begins in the text, whatever follows it. -/
def Free (s : List Char) : Prop := ∀ start, start ≠ [] → start <:+ s → ∀ t, ¬ mark <+: start ++ t

theorem Free.append {s t : List Char} (hs : Free s) (ht : Free t) : Free (s ++ t) := by
  rintro start hne ⟨w, hw⟩ u
  rcases List.append_eq_append_iff.1 hw with ⟨v, rfl, rfl⟩ | ⟨v, rfl, rfl⟩
  · by_cases hv : v = []
    · subst hv
      exact ht t (by simpa using hne) (List.suffix_refl t) u
    · rw [List.append_assoc]
      exact hs v hv (List.suffix_append w v) (t ++ u)
  · exact ht start hne (List.suffix_append v start) u

theorem Free.of_cons {c : Char} {s : List Char} (h : Free (c :: s)) : Free s :=
  fun start hne hstart => h start hne (hstart.trans (List.suffix_cons c s))

theorem free_of_not_mark {s : List Char} (h : ¬ mark <:+: s) (hend : s.getLast? ≠ some '\x60') : Free s := by
  intro start hne hstart t hmark
  rcases List.prefix_or_prefix_of_prefix hmark (List.prefix_append start t) with hin | hout
  · exact h (hin.isInfix.trans hstart.isInfix)
  · -- The text would end in the first characters of the mark, which are all alike.
    have hlast : start.getLast hne = '\x60' := by
      have hmem := hout.subset (List.getLast_mem hne)
      simpa [mark] using hmem
    obtain ⟨w, rfl⟩ := hstart
    rw [List.getLast?_append_of_ne_nil _ hne, List.getLast?_eq_some_getLast hne, hlast] at hend
    exact hend rfl

theorem free_line {s : List Char} (h : ¬ mark <:+: s) : Free (s ++ ['\n']) :=
  free_of_not_mark (not_mark_break h) (by simp)

theorem cut_append_of_free {s : List Char} (h : Free s) (t : List Char) :
    cut mark (s ++ t) = (cut mark t).map fun p => (s ++ p.1, p.2) := by
  induction s with
  | nil => simp
  | cons c r ih =>
    have hmark : ¬ mark.isPrefixOf (c :: (r ++ t)) = true := fun hp =>
      h (c :: r) (List.cons_ne_nil c r) (List.suffix_refl _) t (List.isPrefixOf_iff_prefix.1 hp)
    rw [List.cons_append, cut, if_neg hmark, ih h.of_cons, Option.map_map]
    rfl

theorem block?_append_of_free {s : List Char} (h : Free s) (t : List Char) : block? (s ++ t) = block? t := by
  induction s with
  | nil => rfl
  | cons c r ih =>
    have hhere : blockHere? (c :: (r ++ t)) = none := blockHere?_eq_none_iff.2 fun body hbody =>
      h (c :: r) (List.cons_ne_nil c r) (List.suffix_refl _) t hbody.mark_prefix
    rw [List.cons_append, block?, hhere, Option.none_or, ih h.of_cons]

/-- A block with a label is taken up to the mark behind its body. -/
theorem block?_of_label {label body after : List Char} (hlabel : IsLabel label) (hbody : Free body) :
    block? (mark ++ label ++ '\n' :: body ++ mark ++ after) = some body := by
  have hopen : afterOpening? (mark ++ label ++ '\n' :: body ++ mark ++ after) = some (body ++ (mark ++ after)) :=
    afterOpening?_eq_some_iff.2 ⟨label, hlabel, by simp⟩
  have hcut : cut mark (body ++ (mark ++ after)) = some (body, after) := by
    rw [cut_append_of_free hbody]
    simp [cut, mark]
  rw [block?_of_fenced ⟨label, after, hlabel, rfl⟩, blockHere?_of_opening hopen, hcut, Option.map_some,
    Option.some_or]

theorem not_mem_of_isLabel {label : List Char} (h : IsLabel label) : '\n' ∉ label := by
  obtain ⟨letters, blanks, ending, rfl, hletters, hblanks, hending⟩ := h
  simp only [List.mem_append, not_or]
  refine ⟨⟨fun h => ?_, fun h => ?_⟩, ?_⟩
  · cases List.all_eq_true.1 hletters _ h
  · cases List.all_eq_true.1 hblanks _ h
  · rcases hending with rfl | rfl <;> decide

/-- After a mark with another text behind it, the search goes on at the mark that was to close the block. -/
theorem block?_of_not_label {label body after : List Char} (hlabel : ¬ IsLabel label) (hmark : '\x60' ∉ label)
    (hbreak : '\n' ∉ label) (hbody : ¬ mark <:+: body) :
    block? (mark ++ label ++ '\n' :: body ++ '\n' :: mark ++ after) = block? (mark ++ after) := by
  have hhere : blockHere? (mark ++ label ++ '\n' :: body ++ '\n' :: mark ++ after) = none := by
    refine blockHere?_eq_none_iff.2 fun other hother => ?_
    obtain ⟨label', after', hlabel', h⟩ := hother
    simp only [List.append_assoc, List.cons_append] at h
    obtain ⟨rfl, -⟩ := eq_of_separated hbreak (not_mem_of_isLabel hlabel') (List.append_cancel_left h)
    exact hlabel hlabel'
  -- With the label behind them, the last two characters of the mark are too few for another one.
  have hopening : ¬ mark <:+: '\x60' :: '\x60' :: label := by
    intro h
    have hcount := h.count_le '\x60'
    simp [mark, List.count_eq_zero.2 hmark] at hcount
  have hfree : Free (('\x60' :: '\x60' :: label) ++ ['\n'] ++ (body ++ ['\n'])) :=
    (free_line hopening).append (free_line hbody)
  have htail : block? (('\x60' :: '\x60' :: label) ++ ['\n'] ++ (body ++ ['\n']) ++ (mark ++ after)) =
      block? (mark ++ after) := block?_append_of_free hfree _
  have hcons : mark ++ label ++ '\n' :: body ++ '\n' :: mark ++ after =
      '\x60' :: (('\x60' :: '\x60' :: label) ++ ['\n'] ++ (body ++ ['\n']) ++ (mark ++ after)) := by simp [mark]
  rw [hcons] at hhere ⊢
  rw [block?, hhere, Option.none_or, htail]

/-- **The code of a completion is its first block, if the block has a label.** Then the text before it, the text
behind it and the label do not matter. If what stands behind the first mark is no label, the block is missed: the
first block from its closing mark on is taken, and when there is none, the whole text. -/
theorem codeOf_fenced {before label body after : List Char} (hbefore : ¬ mark <:+: before)
    (hlast : before.getLast? ≠ some '\x60') (hmark : '\x60' ∉ label) (hbreak : '\n' ∉ label)
    (hbody : ¬ mark <:+: body) :
    let text := before ++ (mark ++ label ++ '\n' :: body ++ '\n' :: mark ++ after)
    (IsLabel label → codeOf (.ofList text) = finished body) ∧
    (¬ IsLabel label →
      (∀ other, FirstBlock (mark ++ after) other → codeOf (.ofList text) = finished other) ∧
      (¬ HasBlock (mark ++ after) → codeOf (.ofList text) = finished text)) := by
  intro text
  have htext : block? text = block? (mark ++ label ++ '\n' :: body ++ '\n' :: mark ++ after) :=
    block?_append_of_free (free_of_not_mark hbefore hlast) _
  refine ⟨fun hlabel => ?_, fun hlabel => ?_⟩
  · have hblock : block? (mark ++ label ++ '\n' :: (body ++ ['\n']) ++ mark ++ after) = some (body ++ ['\n']) :=
      block?_of_label hlabel (free_line hbody)
    have hsame : mark ++ label ++ '\n' :: (body ++ ['\n']) ++ mark ++ after =
        mark ++ label ++ '\n' :: body ++ '\n' :: mark ++ after := by simp
    rw [codeOf_eq, String.toList_ofList, htext, ← hsame, hblock, Option.getD_some]
    exact finished_congr (trimmed_concat_blank (by decide) body)
  · rw [block?_of_not_label hlabel hmark hbreak hbody] at htext
    refine ⟨fun other hother => ?_, fun hnone => ?_⟩
    · rw [codeOf_eq, String.toList_ofList, htext, block?_eq_some_iff.2 hother, Option.getD_some]
    · rw [codeOf_eq, String.toList_ofList, htext, block?_eq_none_iff.2 hnone, Option.getD_none]

/-- A completion with another block behind its code. -/
theorem codeOf_fenced_typescript :
    ¬ mark <:+: "Here you go:\n".toList ∧ "Here you go:\n".toList.getLast? ≠ some '\x60' ∧
      '\x60' ∉ "typescript".toList ∧ '\n' ∉ "typescript".toList ∧ ¬ mark <:+: "const a = 1;".toList ∧
      codeOf "Here you go:\n```typescript\nconst a = 1;\n```\nand\n```ts\nother\n```" = "const a = 1;\n" := by
  have hlabel : IsLabel "typescript".toList := ⟨"typescript".toList, [], [], by decide, by decide, by decide, .inl rfl⟩
  refine ⟨by decide, by decide, by decide, by decide, by decide, ?_⟩
  have h := (@codeOf_fenced "Here you go:\n".toList "typescript".toList "const a = 1;".toList
    "\nand\n```ts\nother\n```".toList (by decide) (by decide) (by decide) (by decide) (by decide)).1 hlabel
  exact h.trans (by decide +kernel)

/-- The file name behind the language is no label. The text between this block and the next one is taken for the
code. -/
theorem codeOf_misses_label :
    let before := "Here it is:\n".toList
    let label := "typescript login.spec.ts".toList
    let body := "const a = 1;".toList
    let after := "\nRun it:\n```bash\nnpx playwright test\n```".toList
    ¬ mark <:+: before ∧ before.getLast? ≠ some '\x60' ∧ '\x60' ∉ label ∧ '\n' ∉ label ∧ ¬ mark <:+: body ∧
      finished body = "const a = 1;\n" ∧
      codeOf (.ofList (before ++ (mark ++ label ++ '\n' :: body ++ '\n' :: mark ++ after))) = "Run it:\n" := by
  decide +kernel

end Screenplay.Fence
