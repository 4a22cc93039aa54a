/-
Reading a script as far as its strings and comments go. The scanner is in code,
behind a slash that may begin a comment, in a string between single quotes,
behind a backslash in one, or in a comment that ends with its line. `scan` gives
the mode in which a text ends and what the text is without the bodies of its
strings and comments; a line that ends inside a string is a fault.

The last section is about text that came from an author: quoted it stays in a
string, on one line it stays in a comment, and an identifier stays in a string
without being quoted.
-/
import Screenplay.Playbook.Script
import Screenplay.Proofs.Template.Casing

namespace Screenplay.Playbook

inductive Mode
  | code
  | slash
  | quoted
  | escaped
  | comment
  deriving Repr, DecidableEq

def endsLine (c : Char) : Bool := c == '\n' || c == '\r'

/-- The line separators of Unicode end a comment too, though not a string. -/
def endsComment (c : Char) : Bool := endsLine c || c == '\u2028' || c == '\u2029'

namespace Mode

/-- The mode behind a character. -/
def next? : Mode → Char → Option Mode
  | code, c => some (if c = '\'' then quoted else if c = '/' then slash else code)
  | slash, c => some (if c = '\'' then quoted else if c = '/' then comment else code)
  | quoted, c =>
    if endsLine c then none
    else some (if c = '\'' then code else if c = '\\' then escaped else quoted)
  | escaped, c => if endsLine c then none else some quoted
  | comment, c => some (if endsComment c then code else comment)

/-- Whether a character belongs to the body of a string or of a comment. -/
def inBody : Mode → Char → Bool
  | code, _ | slash, _ => false
  | quoted, c => c != '\''
  | escaped, _ => true
  | comment, c => !endsComment c

end Mode

/-- The mode at the end of a text, and the text without bodies. -/
def scan : Mode → List Char → Option (Mode × List Char)
  | m, [] => some (m, [])
  | m, c :: r =>
    (m.next? c).bind fun next =>
      (scan next r).map fun (last, kept) => (last, if m.inBody c then kept else c :: kept)

/-! ## Texts one after another -/

theorem scan_append_eq (m : Mode) (s t : List Char) :
    scan m (s ++ t) = (scan m s).bind fun p => (scan p.1 t).map fun q => (q.1, p.2 ++ q.2) := by
  induction s generalizing m with
  | nil => simp [scan]
  | cons c r ih =>
    rw [List.cons_append, scan, scan]
    cases m.next? c with
    | none => rfl
    | some next =>
      rw [Option.bind_some, Option.bind_some, ih]
      cases scan next r with
      | none => rfl
      | some p =>
        rw [Option.bind_some, Option.map_some, Option.bind_some, Option.map_map]
        congr 1
        funext q
        dsimp only [Function.comp_apply]
        split <;> rfl

theorem scan_append {m m' m'' : Mode} {s t kept kept' : List Char} (hs : scan m s = some (m', kept))
    (ht : scan m' t = some (m'', kept')) : scan m (s ++ t) = some (m'', kept ++ kept') := by
  rw [scan_append_eq, hs, Option.bind_some, ht, Option.map_some]

theorem exists_scan_of_append {m last : Mode} {s t kept : List Char} (h : scan m (s ++ t) = some (last, kept)) :
    ∃ between k k', scan m s = some (between, k) ∧ scan between t = some (last, k') ∧ kept = k ++ k' := by
  rw [scan_append_eq, Option.bind_eq_some_iff] at h
  obtain ⟨⟨between, k⟩, hs, hrest⟩ := h
  obtain ⟨⟨last', k'⟩, ht, he⟩ := Option.map_eq_some_iff.1 hrest
  cases he
  exact ⟨between, k, k', hs, ht, rfl⟩

/-- Texts that each leave the mode as it is, and nothing but their bodies, do so together. -/
theorem scan_flatMap {α : Type} {m : Mode} (f : α → List Char) {l : List α}
    (h : ∀ a ∈ l, scan m (f a) = some (m, [])) : scan m (l.flatMap f) = some (m, []) := by
  induction l with
  | nil => rfl
  | cons a l ih =>
    rw [List.flatMap_cons]
    exact scan_append (h a (by simp)) (ih fun b hb => h b (by simp [hb]))

theorem scan_of_body {m : Mode} {s : List Char} (h : ∀ c ∈ s, m.next? c = some m ∧ m.inBody c = true) :
    scan m s = some (m, []) := by
  induction s with
  | nil => rfl
  | cons c r ih =>
    obtain ⟨hn, hb⟩ := h c (by simp)
    rw [scan, hn, Option.bind_some, ih fun d hd => h d (by simp [hd])]
    simp [hb]

/-! ## The text of an author -/

theorem scan_quoteChar (c : Char) : scan .quoted (quoteChar c) = some (.quoted, []) := by
  unfold quoteChar
  split
  · rfl
  · split
    · rfl
    · split
      · rfl
      · split
        · rfl
        · refine scan_of_body fun d hd => ?_
          rw [List.mem_singleton.1 hd]
          simp_all [Mode.next?, Mode.inBody, endsLine]

/-- A quoted text stays in its string. -/
theorem scan_quote (s : String) : scan .quoted (quote s).toList = some (.quoted, []) := by
  rw [quote, String.toList_ofList]
  exact scan_flatMap quoteChar fun c _ => scan_quoteChar c

theorem not_endsComment_of_not_blank {c : Char} (h : Text.isBlank c = false) : endsComment c = false := by
  refine Bool.eq_false_iff.2 fun he => ?_
  simp only [endsComment, endsLine, Bool.or_eq_true, beq_iff_eq] at he
  rcases he with ((rfl | rfl) | rfl) | rfl <;> revert h <;> decide

/-- A text on one line stays in its comment. -/
theorem scan_comment (s : String) : scan .comment (comment s).toList = some (.comment, []) := by
  refine scan_of_body fun c hc => ?_
  have he : endsComment c = false := by
    rcases Text.mem_squeezed hc with rfl | hb
    · decide
    · exact not_endsComment_of_not_blank hb
  simp [Mode.next?, Mode.inBody, he]

theorem scan_repr (n : Nat) : scan .comment (toString n).toList = some (.comment, []) := by
  refine scan_of_body fun c hc => ?_
  have hd : c.isDigit = true := by
    rw [Nat.toString_eq_repr, Nat.toList_repr] at hc
    exact Nat.isDigit_of_mem_toDigits (b := 10) (by decide) (by decide) hc
  have he : endsComment c = false := by
    refine Bool.eq_false_iff.2 fun he => ?_
    simp only [endsComment, endsLine, Bool.or_eq_true, beq_iff_eq] at he
    rcases he with ((rfl | rfl) | rfl) | rfl <;> revert hd <;> decide
  simp [Mode.next?, Mode.inBody, he]

/-- An identifier with hyphens stays in a string: it has neither quotes nor backslashes, and is on
one line. -/
theorem scan_kebabCase (s : String) : scan .quoted (Template.kebabCase s).toList = some (.quoted, []) := by
  refine scan_of_body fun c hc => ?_
  rw [Template.toList_kebabCase] at hc
  have hne : c ≠ '\'' ∧ c ≠ '\\' ∧ c ≠ '\n' ∧ c ≠ '\r' := by
    rcases Template.mem_kebabChars hc with rfl | ⟨hle, -⟩ | ⟨-, ha⟩
    · decide
    · refine ⟨?_, ?_, ?_, ?_⟩ <;> rintro rfl <;> revert hle <;> decide
    · refine ⟨?_, ?_, ?_, ?_⟩ <;> rintro rfl <;> revert ha <;> decide +kernel
  simp [Mode.next?, Mode.inBody, endsLine, hne]

end Screenplay.Playbook
