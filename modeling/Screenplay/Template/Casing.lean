/-
The words of a text and the identifiers made of them. A word ends where the
text has a character that is neither letter nor number, and where the case
changes: before a capital that follows a small letter or a number, and before
the last capital of a run of capitals that a small letter follows, so that
`HTTPServer` is two words.
-/
import Screenplay.Text.Case

namespace Screenplay.Template

open Screenplay.Text

/-- Whether a capital begins a word, by the character before it and the one after it. -/
def startsWord (before c : Char) (after : Option Char) : Bool :=
  isUppercase c &&
    (isLowercase before || isNumeric before || (isUppercase before && after.any isLowercase))

/-- The word at the very start of the text, possibly empty, and the words after it. -/
def leadIdentifier : List Char → List Char × List (List Char)
  | [] => ([], [])
  | c :: r =>
    let (w, ws) := leadIdentifier r
    if !isAlphanumeric c then ([], consWord w ws)
    else match r with
      | n :: after =>
        if isAlphanumeric n && startsWord c n after.head? then ([c], consWord w ws)
        else (c :: w, ws)
      | [] => (c :: w, ws)

/-- The words of a text. -/
def wordsOf (s : List Char) : List (List Char) :=
  consWord (leadIdentifier s).1 (leadIdentifier s).2

/-- The first character in upper case, the others in lower case, each by itself. -/
def capitalized : List Char → List Char
  | [] => []
  | c :: r => upperChar c ++ r.flatMap lowerChar

/-- `submitLoginForm` -/
def camelChars (s : List Char) : List Char :=
  match wordsOf s with
  | [] => []
  | w :: ws => lowered w ++ ws.flatMap capitalized

/-- `SubmitLoginForm` -/
def pascalChars (s : List Char) : List Char := (wordsOf s).flatMap capitalized

/-- `submit-login-form` -/
def kebabChars (s : List Char) : List Char := ['-'].intercalate ((wordsOf s).map lowered)

def camelCase (s : String) : String := .ofList (camelChars s.toList)

def pascalCase (s : String) : String := .ofList (pascalChars s.toList)

def kebabCase (s : String) : String := .ofList (kebabChars s.toList)

/-- A transformation that a template can apply to a value, `{{name value}}`. -/
inductive Helper
  | upper
  | lower
  | camelCase
  | pascalCase
  | kebabCase
  deriving Repr, DecidableEq

namespace Helper

def all : List Helper := [upper, lower, camelCase, pascalCase, kebabCase]

def name : Helper → String
  | upper => "upper"
  | lower => "lower"
  | camelCase => "camelCase"
  | pascalCase => "pascalCase"
  | kebabCase => "kebabCase"

def named? (s : String) : Option Helper := all.find? (·.name == s)

def apply : Helper → String → String
  | upper => Text.upper
  | lower => Text.lower
  | camelCase => Template.camelCase
  | pascalCase => Template.pascalCase
  | kebabCase => Template.kebabCase

end Helper

end Screenplay.Template
