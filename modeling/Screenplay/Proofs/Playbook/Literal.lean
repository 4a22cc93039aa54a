/-
The body of a string between single quotes, and the text it denotes. A text that stays in its
string is a body whatever it was made from: it is on one line, and what its backslashes escape is
told by counting them (`mode_of_scan`). Decoding the escapes of a quoted text gives the text back
without its carriage returns (`denoted?_quoteChars`), so two texts without carriage returns are
quoted apart.
-/
import Mathlib.Algebra.Ring.Parity
import Screenplay.Proofs.Playbook.Scanner

namespace Screenplay.Playbook

/-! ## Bodies -/

/-- How many backslashes the text ends with. -/
def backslashesAtEnd (s : List Char) : Nat := (s.rtakeWhile (· = '\\')).length

theorem backslashesAtEnd_concat (s : List Char) (c : Char) :
    backslashesAtEnd (s ++ [c]) = if c = '\\' then backslashesAtEnd s + 1 else 0 := by
  unfold backslashesAtEnd
  by_cases hc : c = '\\'
  · rw [List.rtakeWhile_concat_pos _ _ _ (by simpa using hc), if_pos hc, List.length_append]
    rfl
  · rw [List.rtakeWhile_concat_neg _ _ _ (by simpa using hc), if_neg hc]
    rfl

theorem body_of_scan_cons {m last : Mode} {c : Char} {r : List Char} (h : scan m (c :: r) = some (last, [])) :
    ∃ next, m.next? c = some next ∧ m.inBody c = true ∧ scan next r = some (last, []) := by
  rw [scan, Option.bind_eq_some_iff] at h
  obtain ⟨next, hn, hr⟩ := h
  obtain ⟨⟨last', k⟩, hk, he⟩ := Option.map_eq_some_iff.1 hr
  simp only [Prod.mk.injEq] at he
  obtain ⟨rfl, hkept⟩ := he
  split at hkept
  · next hb => exact ⟨next, hn, hb, hkept ▸ hk⟩
  · cases hkept

/-- **Backslashes tell the mode.** Behind a part of a body the string goes on; the next character is
escaped just when the part ends with an odd number of backslashes. -/
theorem mode_of_scan {s : List Char} {m : Mode} (h : scan .quoted s = some (m, [])) :
    m = .quoted ∧ Even (backslashesAtEnd s) ∨ m = .escaped ∧ Odd (backslashesAtEnd s) := by
  induction s using List.reverseRecOn generalizing m with
  | nil =>
    cases h
    exact .inl ⟨rfl, .zero⟩
  | append_singleton s c ih =>
    obtain ⟨between, k, k', hs, hc, hk⟩ := exists_scan_of_append h
    obtain ⟨rfl, rfl⟩ := List.append_eq_nil_iff.1 hk.symm
    obtain ⟨next, hn, hbody, hend⟩ := body_of_scan_cons hc
    cases hend
    rw [backslashesAtEnd_concat]
    rcases ih hs with ⟨rfl, heven⟩ | ⟨rfl, hodd⟩
    · have hquote : c ≠ '\'' := by simpa [Mode.inBody] using hbody
      simp only [Mode.next?, Option.ite_none_left_eq_some, if_neg hquote, Option.some.injEq] at hn
      obtain ⟨-, rfl⟩ := hn
      by_cases hc : c = '\\'
      · rw [if_pos hc, if_pos hc]
        exact .inr ⟨rfl, heven.add_one⟩
      · rw [if_neg hc, if_neg hc]
        exact .inl ⟨rfl, .zero⟩
    · simp only [Mode.next?, Option.ite_none_left_eq_some, Option.some.injEq] at hn
      obtain ⟨-, rfl⟩ := hn
      refine .inl ⟨rfl, ?_⟩
      split
      · exact hodd.add_one
      · exact .zero

/-- What precedes a character of a body, and what the body has at that place. -/
theorem body_at {s before after : List Char} {c : Char} {last : Mode} (h : scan .quoted s = some (last, []))
    (hs : s = before ++ c :: after) :
    endsLine c = false ∧ (c = '\'' → Odd (backslashesAtEnd before)) := by
  subst hs
  obtain ⟨between, k, k', hbefore, hafter, hk⟩ := exists_scan_of_append h
  obtain ⟨rfl, rfl⟩ := List.append_eq_nil_iff.1 hk.symm
  obtain ⟨next, hn, hbody, -⟩ := body_of_scan_cons hafter
  rcases mode_of_scan hbefore with ⟨rfl, -⟩ | ⟨rfl, hodd⟩
  · have hquote : c ≠ '\'' := by simpa [Mode.inBody] using hbody
    simp only [Mode.next?, Option.ite_none_left_eq_some] at hn
    exact ⟨Bool.eq_false_iff.2 hn.1, fun h => absurd h hquote⟩
  · simp only [Mode.next?, Option.ite_none_left_eq_some] at hn
    exact ⟨Bool.eq_false_iff.2 hn.1, fun _ => hodd⟩

/-! ## What a body denotes -/

/-- The text that a body denotes: a backslash and an `n` are a line feed, a backslash and any other
character are that character. A body that ends in the middle of an escape denotes nothing. -/
def denoted? : List Char → Option (List Char)
  | [] => some []
  | '\\' :: c :: r => (denoted? r).map ((if c = 'n' then '\n' else c) :: ·)
  | ['\\'] => none
  | c :: r => (denoted? r).map (c :: ·)

theorem denoted?_escape (c : Char) (r : List Char) :
    denoted? ('\\' :: c :: r) = (denoted? r).map ((if c = 'n' then '\n' else c) :: ·) := by
  rw [denoted?]

theorem denoted?_cons {c : Char} (h : c ≠ '\\') (r : List Char) : denoted? (c :: r) = (denoted? r).map (c :: ·) := by
  rw [denoted?]
  · exact fun _ _ he => absurd he h
  · exact fun he => absurd he h

theorem denoted?_quoteChar_append (c : Char) (r : List Char) :
    denoted? (quoteChar c ++ r) = (denoted? r).map (([c].filter (· ≠ '\r')) ++ ·) := by
  unfold quoteChar
  split
  · next h => subst h; exact denoted?_escape '\\' r
  · next hslash =>
    split
    · next h => subst h; exact denoted?_escape '\'' r
    · split
      · next h => subst h; exact denoted?_escape 'n' r
      · split
        · next h => subst h; simp
        · next hreturn =>
          rw [List.filter_cons_of_pos (by simpa using hreturn)]
          exact denoted?_cons hslash r

theorem denoted?_quoteChars (s : List Char) : denoted? (quoteChars s) = some (s.filter (· ≠ '\r')) := by
  induction s with
  | nil => rfl
  | cons c r ih =>
    rw [quoteChars, List.flatMap_cons, denoted?_quoteChar_append, ← quoteChars, ih, Option.map_some,
      ← List.filter_append, List.singleton_append]

theorem denoted?_quote (s : String) : denoted? (quote s).toList = some (s.toList.filter (· ≠ '\r')) := by
  rw [quote, String.toList_ofList, denoted?_quoteChars]

theorem filter_eq_of_no_return {s : List Char} (h : '\r' ∉ s) : s.filter (· ≠ '\r') = s :=
  List.filter_eq_self.2 fun c hc => by simpa using fun he : c = '\r' => h (he ▸ hc)

/-- **A quoted text denotes the text.** The quoted text is the body of one string: it is on one line,
each quote in it is escaped, and no escape is left open at its end. What it denotes is the text
without its carriage returns. -/
theorem quote_denotes (text : String) :
    ('\n' ∉ (quote text).toList ∧ '\r' ∉ (quote text).toList) ∧
      (∀ before after, (quote text).toList = before ++ '\'' :: after → Odd (backslashesAtEnd before)) ∧
      Even (backslashesAtEnd (quote text).toList) ∧
      denoted? (quote text).toList = some (text.toList.filter (· ≠ '\r')) ∧
      ('\r' ∉ text.toList → ∀ other : String, '\r' ∉ other.toList → quote other = quote text → other = text) := by
  have hscan := scan_quote text
  have hline (c : Char) (hc : c ∈ (quote text).toList) : endsLine c = false := by
    obtain ⟨before, after, hs⟩ := List.append_of_mem hc
    exact (body_at hscan hs).1
  refine ⟨⟨fun h => ?_, fun h => ?_⟩, fun before after hs => (body_at hscan hs).2 rfl, ?_, denoted?_quote text,
    fun htext other hother hquote => ?_⟩
  · cases hline _ h
  · cases hline _ h
  · rcases mode_of_scan hscan with ⟨-, heven⟩ | ⟨hm, -⟩
    · exact heven
    · cases hm
  · have hdenoted := denoted?_quote other
    rw [hquote, denoted?_quote, filter_eq_of_no_return htext, filter_eq_of_no_return hother] at hdenoted
    exact String.toList_inj.1 (Option.some.inj hdenoted).symm

/-- A backslash before an `n`, a quote and a line break keep apart. -/
example : quote "\\n'\n" = "\\\\n\\'\\n" ∧ denoted? (quote "\\n'\n").toList = some ['\\', 'n', '\'', '\n'] := by
  decide

end Screenplay.Playbook
