/-
Where the words of a text end. The words hold the letters and numbers of the text in their order, so
the word that a letter or number stands in is told by how many precede it (`wordAt`). Two that stand
side by side are in two words just when the second begins one (`wordAt_adjacent`); two with something
else between them always are (`wordAt_apart`).

The words can also be read from left to right, with the word that has been begun kept aside. The
character before a capital is then looked up by its place, a look-up that could fail: at the first
place there is nothing to find. It never does, and the words are the same (`readWords?_eq`).
-/
import Screenplay.Proofs.Template.Hyphens

namespace Screenplay.Template

open Screenplay.Text

/-! ## Blocks of a list -/

section Blocks

variable {α : Type}

/-- The number of the block, among consecutive blocks of a list, that holds the member with `n` others
before it. -/
def blockAt : List (List α) → Nat → Nat
  | [], _ => 0
  | b :: bs, n => if n < b.length then 0 else blockAt bs (n - b.length) + 1

theorem blockAt_zero {bs : List (List α)} (h : ∀ b ∈ bs, b ≠ []) : blockAt bs 0 = 0 := by
  cases bs with
  | nil => rfl
  | cons b bs => rw [blockAt, if_pos (List.length_pos_iff.2 (h b (by simp)))]

theorem blockAt_nil_cons (bs : List (List α)) (n : Nat) : blockAt ([] :: bs) n = blockAt bs n + 1 := by
  simp [blockAt]

theorem blockAt_cons_succ (x : α) (b : List α) (bs : List (List α)) (n : Nat) :
    blockAt ((x :: b) :: bs) (n + 1) = blockAt (b :: bs) n := by
  simp [blockAt]

/-- A member stands in its block, behind the blocks before it and a part of its own. -/
theorem exists_block {bs : List (List α)} {before after : List α} {x : α} (h : bs.flatten = before ++ x :: after) :
    ∃ us u v vs, bs = us ++ (u ++ x :: v) :: vs ∧ us.length = blockAt bs before.length ∧ us.flatten ++ u = before := by
  induction bs generalizing before with
  | nil => simp at h
  | cons b bs ih =>
    rw [List.flatten_cons] at h
    rcases List.append_eq_append_iff.1 h with ⟨rest, rfl, hrest⟩ | ⟨v, rfl, hv⟩
    · obtain ⟨us, u, v, vs, rfl, hlen, rfl⟩ := ih hrest
      refine ⟨b :: us, u, v, vs, rfl, ?_, by simp⟩
      rw [blockAt, if_neg (by simp), List.length_append, Nat.add_sub_cancel_left, List.length_cons, hlen]
    · cases v with
      | nil =>
        rw [List.append_nil] at h ⊢
        obtain ⟨us, u, v, vs, rfl, hlen, hu⟩ := @ih [] hv.symm
        refine ⟨before :: us, u, v, vs, rfl, ?_, by rw [List.flatten_cons, List.append_assoc, hu, List.append_nil]⟩
        rw [blockAt, if_neg (Nat.lt_irrefl _), Nat.sub_self, List.length_cons, hlen]
        rfl
      | cons y v =>
        obtain ⟨rfl, -⟩ := List.cons.inj hv
        exact ⟨[], before, v, bs, rfl, by simp [blockAt], rfl⟩

end Blocks

/-! ## The word at a place -/

/-- The number of the word that the letter or number at this place stands in. -/
def wordAt (s : List Char) (place : Nat) : Nat := blockAt (wordsOf s) ((s.take place).countP isAlphanumeric)

theorem exists_word {s before after : List Char} {c : Char} (h : s = before ++ c :: after)
    (hc : isAlphanumeric c = true) :
    ∃ ws u v ws', wordsOf s = ws ++ (u ++ c :: v) :: ws' ∧ ws.length = wordAt s before.length ∧
      ws.flatten ++ u = before.filter isAlphanumeric := by
  have hflat : (wordsOf s).flatten = before.filter isAlphanumeric ++ c :: after.filter isAlphanumeric := by
    rw [flatten_wordsOf, h, List.filter_append, List.filter_cons_of_pos hc]
  obtain ⟨ws, u, v, ws', hws, hlen, hu⟩ := exists_block hflat
  refine ⟨ws, u, v, ws', hws, ?_, hu⟩
  rw [hlen, wordAt, h, List.take_left, List.countP_eq_length_filter]

/-- The word at the very start, possibly empty, counts as the first block. -/
def leadBlocks (s : List Char) : List (List Char) := (leadIdentifier s).1 :: (leadIdentifier s).2

theorem blockAt_leadBlocks (s : List Char) (n : Nat) :
    blockAt (leadBlocks s) n = blockAt (wordsOf s) n + if (leadIdentifier s).1.isEmpty then 1 else 0 := by
  rw [leadBlocks, wordsOf, consWord]
  split
  · next h => rw [List.isEmpty_iff.1 h, blockAt_nil_cons]
  · rfl

theorem leadBlocks_gap {c : Char} (hc : isAlphanumeric c = false) (r : List Char) :
    leadBlocks (c :: r) = [] :: wordsOf r := by
  rw [leadBlocks, leadIdentifier_gap hc]

theorem leadBlocks_break {c : Char} {r : List Char} (hc : isAlphanumeric c = true) (h : breaksAfter c r = true) :
    leadBlocks (c :: r) = [c] :: wordsOf r := by
  rw [leadBlocks, leadIdentifier_break hc h]

theorem leadBlocks_join {c : Char} {r : List Char} (hc : isAlphanumeric c = true) (h : breaksAfter c r = false) :
    leadBlocks (c :: r) = (c :: (leadIdentifier r).1) :: (leadIdentifier r).2 := by
  rw [leadBlocks, leadIdentifier_join hc h]

theorem blockAt_leadBlocks_zero {c : Char} (hc : isAlphanumeric c = true) (r : List Char) :
    blockAt (leadBlocks (c :: r)) 0 = 0 := by
  cases h : breaksAfter c r with
  | true => rw [leadBlocks_break hc h]; rfl
  | false => rw [leadBlocks_join hc h]; rfl

/-- A character in front moves all blocks behind it by the same number. -/
theorem exists_shift (c : Char) (r : List Char) : ∃ d e, ∀ n,
    blockAt (leadBlocks (c :: r)) ((if isAlphanumeric c then 1 else 0) + n) + e = blockAt (leadBlocks r) n + d := by
  cases hc : isAlphanumeric c with
  | false =>
    refine ⟨1, if (leadIdentifier r).1.isEmpty then 1 else 0, fun n => ?_⟩
    rw [leadBlocks_gap hc, blockAt_nil_cons, blockAt_leadBlocks, if_neg Bool.false_ne_true, Nat.zero_add]
    omega
  | true =>
    cases hb : breaksAfter c r with
    | false =>
      refine ⟨0, 0, fun n => ?_⟩
      rw [leadBlocks_join hc hb, if_pos rfl, Nat.add_comm 1 n, blockAt_cons_succ]
      rfl
    | true =>
      refine ⟨1, if (leadIdentifier r).1.isEmpty then 1 else 0, fun n => ?_⟩
      rw [leadBlocks_break hc hb, if_pos rfl, Nat.add_comm 1 n, blockAt_cons_succ, blockAt_nil_cons,
        blockAt_leadBlocks]
      omega

theorem blockAt_adjacent (before after : List Char) {a b : Char} (ha : isAlphanumeric a = true)
    (hb : isAlphanumeric b = true) :
    blockAt (leadBlocks (before ++ a :: b :: after)) (before.countP isAlphanumeric + 1) =
      blockAt (leadBlocks (before ++ a :: b :: after)) (before.countP isAlphanumeric) +
        if breaksAfter a (b :: after) then 1 else 0 := by
  induction before with
  | nil =>
    rw [List.nil_append, List.countP_nil, blockAt_leadBlocks_zero ha]
    cases h : breaksAfter a (b :: after) with
    | false =>
      rw [leadBlocks_join ha h, blockAt_cons_succ]
      exact blockAt_leadBlocks_zero hb after
    | true =>
      rw [leadBlocks_break ha h, blockAt_cons_succ, blockAt_nil_cons, blockAt_zero fun _ => ne_nil_of_mem_wordsOf]
      rfl
  | cons c r ih =>
    obtain ⟨d, e, hshift⟩ := exists_shift c (r ++ a :: b :: after)
    have hfirst := hshift (r.countP isAlphanumeric)
    have hsecond := hshift (r.countP isAlphanumeric + 1)
    rw [List.cons_append, List.countP_cons, Nat.add_comm (r.countP isAlphanumeric), Nat.add_assoc]
    omega

/-- Behind a character that is neither letter nor number the first word has ended. -/
theorem blockAt_pos {before : List Char} {g : Char} (hg : isAlphanumeric g = false) (h : g ∈ before)
    (after : List Char) : 0 < blockAt (leadBlocks (before ++ after)) (before.countP isAlphanumeric) := by
  induction before with
  | nil => cases h
  | cons c r ih =>
    rw [List.cons_append]
    cases hc : isAlphanumeric c with
    | false =>
      rw [leadBlocks_gap hc, blockAt_nil_cons]
      exact Nat.succ_pos _
    | true =>
      rw [List.countP_cons_of_pos hc]
      cases hb : breaksAfter c (r ++ after) with
      | true =>
        rw [leadBlocks_break hc hb, blockAt_cons_succ, blockAt_nil_cons]
        exact Nat.succ_pos _
      | false =>
        rw [leadBlocks_join hc hb, blockAt_cons_succ]
        refine ih ((List.mem_cons.1 h).resolve_left ?_)
        rintro rfl
        rw [hc] at hg
        cases hg

theorem blockAt_apart (before between after : List Char) {a g : Char} (ha : isAlphanumeric a = true)
    (hg : isAlphanumeric g = false) (h : g ∈ between) :
    blockAt (leadBlocks (before ++ a :: (between ++ after))) (before.countP isAlphanumeric) <
      blockAt (leadBlocks (before ++ a :: (between ++ after)))
        (before.countP isAlphanumeric + (a :: between).countP isAlphanumeric) := by
  induction before with
  | nil =>
    rw [List.nil_append, List.countP_nil, blockAt_leadBlocks_zero ha, Nat.zero_add]
    exact blockAt_pos hg (List.mem_cons_of_mem a h) after
  | cons c r ih =>
    obtain ⟨d, e, hshift⟩ := exists_shift c (r ++ a :: (between ++ after))
    have hfirst := hshift (r.countP isAlphanumeric)
    have hsecond := hshift (r.countP isAlphanumeric + (a :: between).countP isAlphanumeric)
    rw [List.cons_append, List.countP_cons, Nat.add_comm (r.countP isAlphanumeric), Nat.add_assoc]
    omega

/-- Side by side, the second of two letters or numbers is in the next word just when it begins one. -/
theorem wordAt_adjacent {s before after : List Char} {a b : Char} (h : s = before ++ a :: b :: after)
    (ha : isAlphanumeric a = true) (hb : isAlphanumeric b = true) :
    wordAt s (before.length + 1) = wordAt s before.length + if startsWord a b after.head? then 1 else 0 := by
  have hadjacent := blockAt_adjacent before after ha hb
  have hsecond : (s.take (before.length + 1)).countP isAlphanumeric = before.countP isAlphanumeric + 1 := by
    rw [h, List.take_length_add_append, List.countP_append, List.take_succ_cons, List.take_zero,
      List.countP_cons_of_pos ha, List.countP_nil]
  have hbreak : breaksAfter a (b :: after) = startsWord a b after.head? := by rw [breaksAfter, hb, Bool.true_and]
  rw [← h, blockAt_leadBlocks, blockAt_leadBlocks, hbreak] at hadjacent
  rw [wordAt, wordAt, hsecond, h, List.take_left, ← h]
  omega

/-- Two letters or numbers with anything else between them are in two words. -/
theorem wordAt_apart {s before between after : List Char} {a g : Char} (h : s = before ++ a :: (between ++ after))
    (ha : isAlphanumeric a = true) (hg : isAlphanumeric g = false) (hmem : g ∈ between) :
    wordAt s before.length < wordAt s (before.length + 1 + between.length) := by
  have hapart := blockAt_apart before between after ha hg hmem
  have hsecond : (s.take (before.length + 1 + between.length)).countP isAlphanumeric =
      before.countP isAlphanumeric + (a :: between).countP isAlphanumeric := by
    have hs : s = (before ++ a :: between) ++ after := by rw [h, List.append_assoc, List.cons_append]
    have hlen : before.length + 1 + between.length = (before ++ a :: between).length := by
      rw [List.length_append, List.length_cons]
      omega
    rw [hs, hlen, List.take_left, List.countP_append]
  rw [← h, blockAt_leadBlocks, blockAt_leadBlocks] at hapart
  rw [wordAt, wordAt, hsecond, h, List.take_left, ← h]
  omega

/-! ## From left to right -/

/-- The character before a place of the text. There is none before the first place. -/
def charBefore? (text : List Char) : Nat → Option Char
  | 0 => none
  | place + 1 => text[place]?

theorem charBefore?_append {before w : List Char} {p : Char} (h : w ++ [p] <:+ before) (rest : List Char) :
    charBefore? (before ++ rest) before.length = some p := by
  obtain ⟨u, rfl⟩ := h
  rw [← List.append_assoc, List.length_append, List.length_singleton, charBefore?, List.append_assoc,
    List.getElem?_append_right (Nat.le_refl _), Nat.sub_self]
  rfl

theorem getElem?_append_cons (before : List Char) (c : Char) (rest : List Char) :
    (before ++ c :: rest)[before.length + 1]? = rest.head? := by
  rw [List.getElem?_append_right (Nat.le_succ _), Nat.succ_sub (Nat.le_refl _), Nat.sub_self,
    List.getElem?_cons_succ, List.head?_eq_getElem?]

/-- What reading has come to: the words that have ended, and the one that has been begun, possibly empty. -/
structure Reading where
  ended : List (List Char)
  begun : List Char

namespace Reading

/-- The words, if none goes on. -/
def words (r : Reading) : List (List Char) := r.ended ++ consWord r.begun []

/-- Reads the character at a place. A capital inside a word is compared with the character before it;
reading fails if there is none. -/
def step? (text : List Char) (r : Reading) (place : Nat) (c : Char) : Option Reading :=
  if !isAlphanumeric c then some ⟨r.words, []⟩
  else if !r.begun.isEmpty && isUppercase c then
    (charBefore? text place).map fun before =>
      if startsWord before c text[place + 1]? then ⟨r.words, [c]⟩ else ⟨r.ended, r.begun ++ [c]⟩
  else some ⟨r.ended, r.begun ++ [c]⟩

/-- Reads the characters from a place on. -/
def run? (text : List Char) (r : Reading) (place : Nat) : List Char → Option (List (List Char))
  | [] => some r.words
  | c :: rest => (r.step? text place c).bind fun next => next.run? text (place + 1) rest

end Reading

/-- The words of a text, read from left to right. -/
def readWords? (text : List Char) : Option (List (List Char)) := Reading.run? text ⟨[], []⟩ 0 text

/-- The words of what follows a word that has been begun, that word included. -/
def wordsBehind (begun rest : List Char) : List (List Char) :=
  if begun.getLast?.any (breaksAfter · rest) then begun :: wordsOf rest
  else consWord (begun ++ (leadIdentifier rest).1) (leadIdentifier rest).2

theorem wordsBehind_nil (rest : List Char) : wordsBehind [] rest = wordsOf rest := rfl

theorem wordsBehind_end (begun : List Char) : wordsBehind begun [] = consWord begun [] := by
  cases h : begun.getLast? <;> simp [wordsBehind, h, breaksAfter, leadIdentifier]

theorem wordsBehind_gap {c : Char} (hc : isAlphanumeric c = false) (begun rest : List Char) :
    wordsBehind begun (c :: rest) = consWord begun [] ++ wordsBehind [] rest := by
  have hgoes : begun.getLast?.any (breaksAfter · (c :: rest)) = false := by
    cases begun.getLast? <;> simp [breaksAfter, hc]
  rw [wordsBehind, if_neg (by simp [hgoes]), leadIdentifier_gap hc, List.append_nil, wordsBehind_nil, consWord,
    consWord]
  split <;> rfl

theorem wordsBehind_join {c : Char} (hc : isAlphanumeric c = true) {begun rest : List Char}
    (h : begun.getLast?.any (breaksAfter · (c :: rest)) = false) :
    wordsBehind begun (c :: rest) = wordsBehind (begun ++ [c]) rest := by
  rw [wordsBehind, if_neg (by simp [h]), wordsBehind, List.getLast?_concat, Option.any_some]
  cases hb : breaksAfter c rest with
  | true =>
    rw [leadIdentifier_break hc hb, if_pos rfl, consWord, if_neg (by simp)]
  | false =>
    rw [leadIdentifier_join hc hb, if_neg Bool.false_ne_true, List.append_assoc, List.singleton_append]

theorem wordsBehind_break {c : Char} (hc : isAlphanumeric c = true) {begun rest : List Char}
    (h : begun.getLast?.any (breaksAfter · (c :: rest)) = true) :
    wordsBehind begun (c :: rest) = begun :: wordsBehind [c] rest := by
  rw [wordsBehind, if_pos h, ← wordsBehind_nil, wordsBehind_join hc rfl]
  rfl

/-- **One step.** The word that has been begun is what was read last, so the character before a capital
is found; the words to come stay the same. -/
theorem Reading.exists_step {text before rest : List Char} {c : Char} (htext : text = before ++ c :: rest)
    {r : Reading} (hbegun : r.begun <:+ before) :
    ∃ next, r.step? text before.length c = some next ∧ next.begun <:+ before ++ [c] ∧
      r.ended ++ wordsBehind r.begun (c :: rest) = next.ended ++ wordsBehind next.begun rest := by
  unfold Reading.step?
  cases hc : isAlphanumeric c with
  | false =>
    refine ⟨⟨r.words, []⟩, rfl, List.nil_suffix, ?_⟩
    rw [wordsBehind_gap hc, Reading.words, List.append_assoc]
  | true =>
    have hjoin : r.begun ++ [c] <:+ before ++ [c] := by
      obtain ⟨u, hu⟩ := hbegun
      exact ⟨u, by rw [← hu, List.append_assoc]⟩
    cases hlast : r.begun.getLast? with
    | none =>
      rw [List.getLast?_eq_none_iff.1 hlast] at hjoin ⊢
      refine ⟨⟨r.ended, [c]⟩, rfl, hjoin, ?_⟩
      rw [wordsBehind_join hc rfl]
      rfl
    | some p =>
      obtain ⟨w, hw⟩ := List.getLast?_eq_some_iff.1 hlast
      have hbefore : charBefore? text before.length = some p := by
        rw [htext, charBefore?_append (hw ▸ hbegun)]
      have hne : r.begun.isEmpty = false := by simp [hw]
      have hbreaks : r.begun.getLast?.any (breaksAfter · (c :: rest)) = startsWord p c rest.head? := by
        rw [hlast, Option.any_some, breaksAfter, hc, Bool.true_and]
      have hended : r.words = r.ended ++ [r.begun] := by
        rw [Reading.words, consWord, if_neg (by simp [hne])]
      rw [hne, hbefore, htext, getElem?_append_cons]
      cases hstarts : startsWord p c rest.head? with
      | true =>
        have hupper : isUppercase c = true := (Bool.and_eq_true_iff.1 hstarts).1
        refine ⟨⟨r.words, [c]⟩, by simp [hupper, hstarts], List.suffix_append _ _, ?_⟩
        rw [wordsBehind_break hc (hbreaks.trans hstarts), hended, List.append_assoc]
        rfl
      | false =>
        refine ⟨⟨r.ended, r.begun ++ [c]⟩, by simp [hstarts], hjoin, ?_⟩
        rw [wordsBehind_join hc (hbreaks.trans hstarts)]

/-- **A run** finds the words that have ended, and those of the rest behind the word that has been begun. -/
theorem Reading.run?_eq {text before rest : List Char} (htext : text = before ++ rest) {r : Reading}
    (hbegun : r.begun <:+ before) :
    r.run? text before.length rest = some (r.ended ++ wordsBehind r.begun rest) := by
  induction rest generalizing before r with
  | nil => rw [Reading.run?, wordsBehind_end, Reading.words]
  | cons c rest ih =>
    obtain ⟨next, hstep, hnext, hwords⟩ := Reading.exists_step htext hbegun
    have hrun := ih (by rw [htext, List.append_assoc, List.singleton_append]) hnext
    rw [List.length_append, List.length_singleton] at hrun
    rw [Reading.run?, hstep, Option.bind_some, hrun, hwords]

theorem readWords?_eq (s : List Char) : readWords? s = some (wordsOf s) :=
  Reading.run?_eq (List.nil_append s).symm (List.suffix_refl [])

/-! ## The cut of a text -/

theorem startsWord_eq_true_iff {before c : Char} {after : Option Char} :
    startsWord before c after = true ↔
      isUppercase c = true ∧ (isLowercase before = true ∨ isNumeric before = true ∨
        isUppercase before = true ∧ ∃ d, after = some d ∧ isLowercase d = true) := by
  rw [startsWord, Bool.and_eq_true, Bool.or_eq_true, Bool.or_eq_true, Bool.and_eq_true, Option.any_eq_true,
    or_assoc]

/-- **A text is cut into words without loss.** The words are the letters and numbers of the text in
their order, and each one stands in the word that `wordAt` tells. Any other character ends a word;
between letters and numbers a word ends just where a capital begins the next. Reading the words from
left to right finds the character before each capital. -/
theorem wordsOf_boundaries (s : List Char) :
    (∀ w ∈ wordsOf s, w ≠ [] ∧ ∀ c ∈ w, isAlphanumeric c = true) ∧
      (wordsOf s).flatten = s.filter isAlphanumeric ∧
      (∀ before c after, s = before ++ c :: after → isAlphanumeric c = true →
        ∃ ws u v ws', wordsOf s = ws ++ (u ++ c :: v) :: ws' ∧ ws.length = wordAt s before.length ∧
          ws.flatten ++ u = before.filter isAlphanumeric) ∧
      (∀ before a between b after, s = before ++ a :: (between ++ b :: after) → isAlphanumeric a = true →
        isAlphanumeric b = true → (∃ g ∈ between, isAlphanumeric g = false) →
        wordAt s before.length ≠ wordAt s (before.length + 1 + between.length)) ∧
      (∀ before a b after, s = before ++ a :: b :: after → isAlphanumeric a = true → isAlphanumeric b = true →
        (wordAt s before.length ≠ wordAt s (before.length + 1) ↔
          isUppercase b = true ∧ (isLowercase a = true ∨ isNumeric a = true ∨
            isUppercase a = true ∧ ∃ d, after.head? = some d ∧ isLowercase d = true))) ∧
      readWords? s = some (wordsOf s) := by
  refine ⟨fun w hw => ⟨ne_nil_of_mem_wordsOf hw, fun c hc => (mem_of_mem_wordsOf hw hc).2⟩,
    flatten_wordsOf s, fun before c after hs hc => exists_word hs hc, ?_, ?_, readWords?_eq s⟩
  · rintro before a between b after hs ha - ⟨g, hmem, hg⟩
    exact (wordAt_apart hs ha hg hmem).ne
  · intro before a b after hs ha hb
    rw [← startsWord_eq_true_iff, wordAt_adjacent hs ha hb]
    split
    · next h => simp [h]
    · next h => simp [h]

example : (wordsOf "HTTPServer's v2Beta".toList).map String.ofList = ["HTTP", "Server", "s", "v2", "Beta"] := by
  decide +kernel

end Screenplay.Template
