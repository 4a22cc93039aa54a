/-
Operations on text as a list of characters: trimming, splitting at blanks and
at separators, searching. Each is defined by recursion on the characters, and
each comes with the law that nothing of the text is lost or made up. The
versions on strings go through the list.
-/
import Screenplay.Text.Character

namespace Screenplay.Text

/-! ## Blanks -/

def dropBlanks (s : List Char) : List Char := s.dropWhile isBlank

def dropLastBlanks (s : List Char) : List Char := (s.reverse.dropWhile isBlank).reverse

/-- The text without the blanks at its two ends. -/
def trimmed (s : List Char) : List Char := dropLastBlanks (dropBlanks s)

def trim (s : String) : String := .ofList (trimmed s.toList)

/-- Whether nothing is left after trimming. -/
def isVacant (s : String) : Bool := s.toList.all isBlank

/-- Puts a word before others, unless it is empty. -/
def consWord (w : List Char) (ws : List (List Char)) : List (List Char) :=
  if w.isEmpty then ws else w :: ws

/-- The word at the very start of the text, possibly empty, and the words after it. -/
def leadWord : List Char → List Char × List (List Char)
  | [] => ([], [])
  | c :: r =>
    let (w, ws) := leadWord r
    if isBlank c then ([], consWord w ws) else (c :: w, ws)

/-- The runs of characters that are not blank. -/
def blankWords (s : List Char) : List (List Char) := consWord (leadWord s).1 (leadWord s).2

/-- The words of a text with one space between them. -/
def squeezed (s : String) : String :=
  " ".intercalate ((blankWords s.toList).map String.ofList)

/-! ## Separators -/

/-- Cuts the text at the first occurrence of a separator. -/
def cut (sep : List Char) : List Char → Option (List Char × List Char)
  | [] => if sep.isEmpty then some ([], []) else none
  | s@(c :: r) =>
    if sep.isPrefixOf s then some ([], s.drop sep.length)
    else (cut sep r).map fun (before, after) => (c :: before, after)

/-- The text after a line break, which a carriage return may precede. -/
def afterBreak? : List Char → Option (List Char)
  | '\r' :: '\n' :: rest | '\n' :: rest => some rest
  | _ => none

/-- Whether one text occurs in another. -/
def occurs (needle : List Char) : List Char → Bool
  | [] => needle.isEmpty
  | s@(_ :: r) => needle.isPrefixOf s || occurs needle r

def contains (s needle : String) : Bool := occurs needle.toList s.toList

theorem isPrefixOf_iff {p s : List Char} : p.isPrefixOf s = true ↔ ∃ r, s = p ++ r := by
  rw [List.isPrefixOf_iff_prefix]
  exact ⟨fun ⟨r, h⟩ => ⟨r, h.symm⟩, fun ⟨r, h⟩ => ⟨r, h.symm⟩⟩

/-- A cut loses nothing: the text is the two parts with the separator between them. -/
theorem eq_of_cut {sep s before after : List Char} (h : cut sep s = some (before, after)) :
    s = before ++ sep ++ after := by
  induction s generalizing before with
  | nil =>
    simp only [cut] at h
    split at h
    · rename_i hp
      simp only [Option.some.injEq, Prod.mk.injEq] at h
      obtain ⟨rfl, rfl⟩ := h
      rw [List.isEmpty_iff.1 hp]; rfl
    · cases h
  | cons c r ih =>
    simp only [cut] at h
    split at h
    · rename_i hp
      obtain ⟨t, ht⟩ := isPrefixOf_iff.1 hp
      simp only [Option.some.injEq, Prod.mk.injEq] at h
      obtain ⟨rfl, rfl⟩ := h
      rw [ht]; simp
    · obtain ⟨⟨b, a⟩, hb, hp⟩ := Option.map_eq_some_iff.1 h
      simp only [Prod.mk.injEq] at hp
      obtain ⟨rfl, rfl⟩ := hp
      rw [ih hb]; rfl

/-- What follows a separator is shorter than the whole. -/
theorem length_of_cut {sep s before after : List Char} (hs : sep ≠ [])
    (h : cut sep s = some (before, after)) : after.length < s.length := by
  have := eq_of_cut h
  have hpos : 0 < sep.length := List.length_pos_iff.2 hs
  rw [this]; simp only [List.length_append]; omega

/-! ## Bytes -/

/-- The number of bytes of a text in UTF-8. -/
def byteLength : List Char → Nat
  | [] => 0
  | c :: r => c.utf8Size + byteLength r

@[simp] theorem byteLength_nil : byteLength [] = 0 := rfl

@[simp] theorem byteLength_append (s t : List Char) :
    byteLength (s ++ t) = byteLength s + byteLength t := by
  induction s with
  | nil => simp
  | cons c r ih => simp [byteLength, ih, Nat.add_assoc]

/-! ## Order -/

/-- The order of texts by code point, which is also that of their bytes in UTF-8. -/
def precedes (s t : String) : Bool := decide (s < t)

/-- Puts a text into an ordered list without repetition. -/
def insertName (s : String) : List String → List String
  | [] => [s]
  | t :: ts =>
    if precedes s t then s :: t :: ts
    else if s == t then t :: ts
    else t :: insertName s ts

/-- The texts of a list, in order and each once. -/
def ordered (l : List String) : List String := l.foldl (fun names s => insertName s names) []

/-! ## Joining and repeating -/

def join (sep : String) (parts : List String) : String := sep.intercalate parts

def joinLines (lines : List String) : String := join "\n" lines

def repeated (c : Char) (n : Nat) : String := .ofList (List.replicate n c)

/-- The first so many characters. -/
def firstChars (n : Nat) (s : String) : String := .ofList (s.toList.take n)

def startsWith (s start : String) : Bool := start.toList.isPrefixOf s.toList

def endsWith (s ending : String) : Bool := ending.toList.reverse.isPrefixOf s.toList.reverse

end Screenplay.Text
