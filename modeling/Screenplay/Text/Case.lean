/-
Upper and lower case. A character may map to several (`ß` to `SS`), and a
capital sigma maps to the final form `ς` where it ends a word: a cased
character stands before it, none after it, characters that case ignores apart.
Only the mapping of a whole text knows that rule; that of one character does
not.
-/
import Screenplay.Text.Table.Case
import Screenplay.Text.Basic

namespace Screenplay.Text

def mapCase (shifts : List Shift) (expansions : List (Nat × List Nat)) (c : Char) : List Char :=
  match Shift.search shifts c.toNat with
  | some n => [Char.ofNat n]
  | none =>
    match expansions.find? (·.1 == c.toNat) with
    | some (_, ns) => ns.map Char.ofNat
    | none => [c]

def lowerChar (c : Char) : List Char := mapCase Table.lowerRuns Table.lowerExpansions c

def upperChar (c : Char) : List Char := mapCase Table.upperRuns Table.upperExpansions c

/-- Whether the first character that case does not ignore is cased. -/
def startsCased (s : List Char) : Bool :=
  match s.dropWhile isCaseIgnorable with
  | c :: _ => isCased c
  | [] => false

/-- Lowercases a text that follows others; `word` tells whether a cased
character precedes, those that case ignores apart. -/
def lowerAfter (word : Bool) : List Char → List Char
  | [] => []
  | c :: r =>
    (if c = 'Σ' then [if word && !startsCased r then 'ς' else 'σ'] else lowerChar c) ++
      lowerAfter (if isCaseIgnorable c then word else isCased c) r

def lowered (s : List Char) : List Char := lowerAfter false s

def lower (s : String) : String := .ofList (lowered s.toList)

def uppered (s : List Char) : List Char := s.flatMap upperChar

def upper (s : String) : String := .ofList (uppered s.toList)

end Screenplay.Text
