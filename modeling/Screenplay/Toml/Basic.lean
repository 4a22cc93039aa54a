/-
TOML values, and the rules by which headers and dotted keys add to a table. A
table remembers how it came to be: some tables may be added to later, others
are closed.
-/
import Screenplay.Document

namespace Screenplay

namespace Toml

/-- How a table came to be. -/
inductive Origin
  /-- Written in braces. -/
  | inline
  /-- On the way to the table of a header. -/
  | implied
  /-- On the way to the value of a dotted key. -/
  | dotted
  /-- Named by a header of its own. -/
  | header
  deriving Repr, DecidableEq

end Toml

inductive Toml
  | string (s : String)
  | integer (n : Int)
  | float (x : Float)
  | boolean (b : Bool)
  /-- A date, a time, or both. -/
  | moment
  /-- An open array is one of headers, which may go on. -/
  | array (isOpen : Bool) (items : List Toml)
  | table (origin : Toml.Origin) (members : List (String × Toml))
  deriving Repr, Inhabited

/-- A record may be an array of its fields, which may go on. A date has parts, none
of them the field of a record. -/
instance : Document Toml where
  isNothing? _ := some false
  text?
    | .string s => some s
    | _ => none
  flag?
    | .boolean b => some b
    | _ => none
  integer?
    | .integer n => some n
    | _ => none
  real?
    | .integer n => some (Float.ofInt n)
    | .float x => some x
    | _ => none
  items?
    | .array _ items => some items
    | _ => none
  fields?
    | .table _ members => some (.named members)
    | .array _ items => some (.ordered items true)
    | .moment => some (.named [])
    | _ => none

namespace Toml

/-! ## Members -/

def find? (members : List (String × Toml)) (key : String) : Option Toml :=
  (members.find? (·.1 == key)).map (·.2)

/-- Puts a value for a key in place of its old one, or at the end. -/
def put (key : String) (value : Toml) : List (String × Toml) → List (String × Toml)
  | [] => [(key, value)]
  | (k, v) :: rest => if k == key then (key, value) :: rest else (k, v) :: put key value rest

/-! ## Paths -/

/-- Whether a path may go through a table. A dotted key does not reach into the
table of a header. -/
def passable (isDotted : Bool) : Origin → Bool
  | .inline => false
  | .header => !isDotted
  | _ => true

/-- Changes the table at the end of a path; tables that are missing on the way
are made. A path goes through the last table of an array of headers. -/
def change (isDotted : Bool) (f : Toml → Option Toml) : List String → Toml → Option Toml
  | [], t => f t
  | key :: path, .table origin members => do
    let child ← match find? members key with
      | none => change isDotted f path (.table (if isDotted then .dotted else .implied) [])
      | some (.table o ms) =>
        if passable isDotted o then change isDotted f path (.table o ms) else none
      | some (.array true items) =>
        match items.getLast? with
        | some last =>
          (change isDotted f path last).map fun changed => .array true (items.dropLast ++ [changed])
        | none => none
      | some _ => none
    return .table origin (put key child members)
  | _, _ => none

/-- Gives a key its value in a table. A dotted key may add to the tables that
dotted keys have made, and only a dotted key may. -/
def assign (isDotted : Bool) (key : String) (value : Toml) : Toml → Option Toml
  | .table origin members =>
    if (origin == .dotted) != isDotted then none
    else match find? members key with
      | some _ => none
      | none => some (.table origin (put key value members))
  | _ => none

/-- A key, which has at least one part. -/
structure Key where
  front : List String
  last : String
  deriving Repr

def Key.path (k : Key) : List String := k.front ++ [k.last]

/-- Adds the value of a key to a table. -/
def addValue (key : Key) (value : Toml) : Toml → Option Toml :=
  change true (assign (!key.front.isEmpty) key.last value) key.front

/-- Opens the table of a header. -/
def addHeader (key : Key) : Toml → Option Toml :=
  change false (fun
    | .table origin members =>
      match find? members key.last with
      | none => some (.table origin (put key.last (.table .header []) members))
      | some (.table .implied ms) =>
        some (.table origin (put key.last (.table .header ms) members))
      | some _ => none
    | _ => none) key.front

/-- Opens one more table in an array of headers. -/
def addElement (key : Key) : Toml → Option Toml :=
  change false (fun
    | .table origin members =>
      let opened : Toml := .table .header []
      match find? members key.last with
      | none => some (.table origin (put key.last (.array true [opened]) members))
      | some (.array true items) =>
        some (.table origin (put key.last (.array true (items ++ [opened])) members))
      | some _ => none
    | _ => none) key.front

end Toml

end Screenplay
