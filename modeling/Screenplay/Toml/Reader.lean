/-
Reading TOML documents. A document is a list of statements, each a header or a
key with its value; they are added to the table of the document one by one.
Values may be nested less than eighty deep, and so many parts may a key have.
-/
import Screenplay.Toml.Scalar

namespace Screenplay.Toml

/-- What is nested so deep is not read. -/
def depthLimit : Nat := 80

def key? (s : List Char) : Option (Key × List Char) := do
  let (parts, rest) ← keyParts (depthLimit - 1) s
  return (⟨parts.dropLast, ← parts.getLast?⟩, rest)

/-- The rest after an expected character, blanks before it skipped. -/
def after? (c : Char) (s : List Char) : Option (List Char) :=
  match skipBlanks s with
  | d :: r => if d = c then some r else none
  | [] => none

/-! ## Values -/

mutual

/-- A value, nested at most `depth` deep. -/
def value? : Nat → Nat → Reader Toml
  | 0, _, _ => none
  | fuel + 1, depth, s =>
    match s with
    | '"' :: _ | '\'' :: _ => (quoted? s).map fun (text, rest) => (.string text, rest)
    | '[' :: r =>
      match depth with
      | 0 => none
      | depth + 1 => (items? fuel depth r).map fun (items, rest) => (.array false items, rest)
    | '\x7b' :: r =>
      match depth with
      | 0 => none
      | depth + 1 =>
        match skipBlanks r with
        | '\x7d' :: rest => some (.table .inline [], rest)
        | r => members? fuel depth (.table .inline []) r
    | s => scalar? s

/-- The items of an array, after its opening bracket or a comma. -/
def items? : Nat → Nat → Reader (List Toml)
  | 0, _, _ => none
  | fuel + 1, depth, s =>
    match skipLines s.length s with
    | ']' :: rest => some ([], rest)
    | s => do
      let (item, r) ← value? fuel depth s
      match skipLines r.length r with
      | ']' :: rest => some ([item], rest)
      | ',' :: r => do
        let (items, rest) ← items? fuel depth r
        return (item :: items, rest)
      | _ => none

/-- The members of a table in braces, added to those before. -/
def members? : Nat → Nat → Toml → Reader Toml
  | 0, _, _, _ => none
  | fuel + 1, depth, before, s => do
    let (key, r) ← key? s
    let (value, r) ← value? fuel depth (skipBlanks (← after? '=' r))
    let now ← addValue key value before
    match skipBlanks r with
    | '\x7d' :: rest => some (now, rest)
    | ',' :: r => members? fuel depth now r
    | _ => none

end

/-! ## Statements -/

/-- A document as far as it is read: its table, and the path of the last header. -/
structure State where
  root : Toml
  header : List String

/-- The state after a line. -/
def line? (state : State) (s : List Char) : Option (State × List Char) :=
  match s with
  | '[' :: '[' :: r => do
    let (key, r) ← key? r
    let r ← after? ']' r
    match r with
    | ']' :: r => return (⟨← addElement key state.root, key.path⟩, ← afterLine? r)
    | _ => none
  | '[' :: r => do
    let (key, r) ← key? r
    return (⟨← addHeader key state.root, key.path⟩, ← afterLine? (← after? ']' r))
  | s => do
    let (key, r) ← key? s
    let (value, r) ← value? (2 * s.length + 2) (depthLimit - 1) (skipBlanks (← after? '=' r))
    let root ← change false (addValue key value) state.header state.root
    return (⟨root, state.header⟩, ← afterLine? r)

def lines? : Nat → State → List Char → Option State
  | 0, _, _ => none
  | fuel + 1, state, s =>
    match skipLines s.length s with
    | [] => some state
    | '#' :: r => if (r.dropWhile isPlain).isEmpty then some state else none
    | s => do
      let (state, rest) ← line? state s
      lines? fuel state rest

/-- The table of a document. -/
def document? (text : String) : Option Toml := do
  let s := match text.toList with
    | '\ufeff' :: r => r
    | s => s
  return (← lines? (s.length + 1) ⟨.table .header [], []⟩ s).root

end Screenplay.Toml
