/-
The texts of a TOML document: bare keys, quoted texts on one line and on many,
line ends and comments. Each reader takes the rest of the document and gives
what it has read with what is left.
-/
import Screenplay.Text.Basic

namespace Screenplay.Toml

/-- A reader of the rest of a document. -/
abbrev Reader (α : Type) := List Char → Option (α × List Char)

def isBlankChar (c : Char) : Bool := c = ' ' || c = '\t'

def skipBlanks (s : List Char) : List Char := s.dropWhile isBlankChar

/-- A character that may stand in a comment or a text as it is. -/
def isPlain (c : Char) : Bool := c = '\t' || (' ' ≤ c && c ≤ '~') || '\x80' ≤ c

/-- The rest after blanks and a comment, if there is one. -/
def skipComment (s : List Char) : List Char :=
  match skipBlanks s with
  | '#' :: r => r.dropWhile isPlain
  | r => r

/-- The rest after the end of a line. -/
def afterLine? (s : List Char) : Option (List Char) :=
  match skipComment s with
  | [] => some []
  | r => Text.afterBreak? r

/-- The rest after blanks, comments and line breaks. -/
def skipLines : Nat → List Char → List Char
  | 0, s => s
  | fuel + 1, s =>
    match Text.afterBreak? (skipComment s) with
    | some r => skipLines fuel r
    | none => skipBlanks s

/-- The rest after blanks and line breaks. -/
def skipSpace : List Char → List Char
  | '\r' :: '\n' :: r => skipSpace r
  | c :: r => if isBlankChar c || c = '\n' then skipSpace r else c :: r
  | [] => []

/-! ## Escapes -/

/-- The value of hexadecimal digits. -/
def hexValue? (digits : List Char) : Option Nat :=
  digits.foldl (fun value c => do return (← value) * 16 + (← Text.digitValue? 16 c)) (some 0)

def codePoint? (count : Nat) (s : List Char) : Option (Char × List Char) := do
  let digits := s.take count
  if digits.length < count then none
  else return (← Text.charOf? (← hexValue? digits), s.drop count)

/-- The character of an escape, after its backslash. -/
def escape? : Reader Char
  | 'b' :: r => some ('\x08', r)
  | 't' :: r => some ('\t', r)
  | 'n' :: r => some ('\n', r)
  | 'f' :: r => some ('\x0c', r)
  | 'r' :: r => some ('\r', r)
  | '"' :: r => some ('"', r)
  | '\\' :: r => some ('\\', r)
  | 'u' :: r => codePoint? 4 r
  | 'U' :: r => codePoint? 8 r
  | _ => none

/-! ## Quoted texts -/

def prepend (cs : List Char) : Option (List Char × List Char) → Option (List Char × List Char) :=
  Option.map fun (text, rest) => (cs ++ text, rest)

/-- A text on one line, after its opening quote. -/
def basicLine : Nat → Reader (List Char)
  | 0, _ => none
  | _ + 1, '"' :: r => some ([], r)
  | fuel + 1, '\\' :: r => do
    let (c, r) ← escape? r
    prepend [c] (basicLine fuel r)
  | fuel + 1, c :: r => if isPlain c then prepend [c] (basicLine fuel r) else none
  | _ + 1, [] => none

/-- A text on one line taken as it is, after its opening quote. -/
def literalLine : Reader (List Char)
  | '\'' :: r => some ([], r)
  | c :: r => if isPlain c then prepend [c] (literalLine r) else none
  | [] => none

/-- The end of a text of many lines, if this many quotes are one: three quotes
close the text, up to two more belong to it. -/
def closing? (quotes : List Char) (rest : List Char) : Option (Option (List Char × List Char)) :=
  if quotes.length < 3 then none
  else if quotes.length ≤ 5 then some (some (quotes.drop 3, rest))
  else some none

/-- A text of many lines, after its opening quotes. -/
def basicBlock : Nat → Reader (List Char)
  | 0, _ => none
  | _ + 1, [] => none
  | fuel + 1, '"' :: r =>
    let quotes := '"' :: r.takeWhile (· = '"')
    let rest := r.dropWhile (· = '"')
    (closing? quotes rest).getD (prepend quotes (basicBlock fuel rest))
  | fuel + 1, '\\' :: r =>
    match Text.afterBreak? (skipBlanks r) with
    | some next => basicBlock fuel (skipSpace next)
    | none => do
      let (c, r) ← escape? r
      prepend [c] (basicBlock fuel r)
  | fuel + 1, '\r' :: '\n' :: r | fuel + 1, '\n' :: r => prepend ['\n'] (basicBlock fuel r)
  | fuel + 1, c :: r => if isPlain c then prepend [c] (basicBlock fuel r) else none

/-- A text of many lines taken as it is, after its opening quotes. -/
def literalBlock : Nat → Reader (List Char)
  | 0, _ => none
  | _ + 1, [] => none
  | fuel + 1, '\'' :: r =>
    let quotes := '\'' :: r.takeWhile (· = '\'')
    let rest := r.dropWhile (· = '\'')
    (closing? quotes rest).getD (prepend quotes (literalBlock fuel rest))
  | fuel + 1, '\r' :: '\n' :: r | fuel + 1, '\n' :: r => prepend ['\n'] (literalBlock fuel r)
  | fuel + 1, c :: r => if isPlain c then prepend [c] (literalBlock fuel r) else none

/-- The rest after a line break right at the start. -/
def dropBreak (s : List Char) : List Char := (Text.afterBreak? s).getD s

/-- A quoted text, on one line or on many. -/
def quoted? (s : List Char) : Option (String × List Char) :=
  let fuel := s.length + 1
  let text := match s with
    | '"' :: '"' :: '"' :: r => basicBlock fuel (dropBreak r)
    | '\'' :: '\'' :: '\'' :: r => literalBlock fuel (dropBreak r)
    | '"' :: r => basicLine fuel r
    | '\'' :: r => literalLine r
    | _ => none
  text.map fun (cs, rest) => (.ofList cs, rest)

/-! ## Keys -/

def isBareChar (c : Char) : Bool :=
  Text.isAsciiLetter c || Text.isDigit c || c = '_' || c = '-'

/-- One part of a key. -/
def keyPart? (s : List Char) : Option (String × List Char) :=
  match s with
  | '"' :: r => (basicLine (s.length + 1) r).map fun (cs, rest) => (.ofList cs, rest)
  | '\'' :: r => (literalLine r).map fun (cs, rest) => (.ofList cs, rest)
  | _ =>
    let bare := s.takeWhile isBareChar
    if bare.isEmpty then none else some (.ofList bare, s.dropWhile isBareChar)

/-- The parts of a dotted key, at most so many. -/
def keyParts : Nat → Reader (List String)
  | 0, _ => none
  | parts + 1, s => do
    let (part, r) ← keyPart? (skipBlanks s)
    match skipBlanks r with
    | '.' :: r => do
      let (rest, r) ← keyParts parts r
      return (part :: rest, r)
    | r => return ([part], r)

end Screenplay.Toml
