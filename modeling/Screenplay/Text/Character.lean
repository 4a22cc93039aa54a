/-
What the program asks of one character: whether it is blank, a letter, a
number, upper or lower case, and how many bytes it takes in UTF-8.
-/
import Screenplay.Text.Table.Class

namespace Screenplay.Text

/-- White space: the 25 characters of the White_Space property. -/
def isBlank (c : Char) : Bool :=
  let n := c.toNat
  n == 0x20 || (0x09 ≤ n && n ≤ 0x0D) || n == 0x85 || n == 0xA0 || n == 0x1680 ||
    (0x2000 ≤ n && n ≤ 0x200A) || n == 0x2028 || n == 0x2029 || n == 0x202F || n == 0x205F ||
    n == 0x3000

def isAlphabetic (c : Char) : Bool := Run.search Table.alphabetic c.toNat

def isNumeric (c : Char) : Bool := Run.search Table.numeric c.toNat

/-- Letters and numbers of every script. -/
def isAlphanumeric (c : Char) : Bool := isAlphabetic c || isNumeric c

def isUppercase (c : Char) : Bool := Run.search Table.uppercase c.toNat

def isLowercase (c : Char) : Bool := Run.search Table.lowercase c.toNat

def isCased (c : Char) : Bool := Run.search Table.cased c.toNat

def isCaseIgnorable (c : Char) : Bool := Run.search Table.caseIgnorable c.toNat

/-- The control characters: those below the space, delete, and the block after it. -/
def isControl (c : Char) : Bool := c.toNat < 0x20 || (0x7F ≤ c.toNat && c.toNat ≤ 0x9F)

/-- A decimal digit of the first Unicode block. -/
def isDigit (c : Char) : Bool := '0' ≤ c && c ≤ '9'

def isAsciiLetter (c : Char) : Bool := ('a' ≤ c && c ≤ 'z') || ('A' ≤ c && c ≤ 'Z')

/-- The value of a digit in a base of at most sixteen. -/
def digitValue? (base : Nat) (c : Char) : Option Nat :=
  let value? :=
    if '0' ≤ c && c ≤ '9' then some (c.toNat - '0'.toNat)
    else if 'a' ≤ c && c ≤ 'f' then some (c.toNat - 'a'.toNat + 10)
    else if 'A' ≤ c && c ≤ 'F' then some (c.toNat - 'A'.toNat + 10)
    else none
  value?.filter (· < base)

/-- The character of a code point, unless it is a surrogate or out of range. -/
def charOf? (n : Nat) : Option Char :=
  if n.isValidChar then some (Char.ofNat n) else none

end Screenplay.Text
