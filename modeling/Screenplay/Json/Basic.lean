/-
JSON values. An object is the list of its members as they are written, so that
a reader can tell a repeated name; `canonical` keeps the last member of each
name and puts the members in order.
-/
import Screenplay.Text.Basic

namespace Screenplay

/-- A number: an integer that fits in 64 bits, signed or not, or a float. -/
inductive Json.Number
  | int (n : Int)
  | float (x : Float)
  deriving Repr, Inhabited

inductive Json
  | null
  | bool (b : Bool)
  | number (n : Json.Number)
  | string (s : String)
  | array (items : List Json)
  | object (members : List (String × Json))
  /-- A value that is well formed and stands for nothing: a number beyond the
  floats, or a text with half of a surrogate pair. -/
  | unusable
  deriving Repr, Inhabited

namespace Json

def int (n : Int) : Json := .number (.int n)

def nat (n : Nat) : Json := .number (.int n)

def float (x : Float) : Json := .number (.float x)

/-- The text, or null. -/
def optional : Option Json → Json
  | some j => j
  | none => .null

def ofStrings (l : List String) : Json := .array (l.map .string)

/-- The members that are there. -/
def objectOf (members : List (String × Option Json)) : Json :=
  .object (members.filterMap fun (name, value) => value.map fun v => (name, v))

/-- The last member of a name. -/
def member? (members : List (String × Json)) (name : String) : Option Json :=
  (members.reverse.find? (·.1 == name)).map (·.2)

def get? (j : Json) (name : String) : Option Json :=
  match j with
  | .object members => member? members name
  | _ => none

/-! ## Ordered members -/

/-- Sets a member of an ordered list of members. -/
def setMember (name : String) (value : Json) : List (String × Json) → List (String × Json)
  | [] => [(name, value)]
  | (n, v) :: rest =>
    if Text.precedes name n then (name, value) :: (n, v) :: rest
    else if name == n then (name, value) :: rest
    else (n, v) :: setMember name value rest

def orderMembers (members : List (String × Json)) : List (String × Json) :=
  members.foldl (fun done (name, value) => setMember name value done) []

mutual

/-- Every object with its members in order of name, the last one of a name. -/
def canonical : Json → Json
  | .array items => .array (canonicalItems items)
  | .object members => .object (orderMembers (canonicalMembers members))
  | j => j

def canonicalItems : List Json → List Json
  | [] => []
  | j :: js => canonical j :: canonicalItems js

def canonicalMembers : List (String × Json) → List (String × Json)
  | [] => []
  | (name, j) :: rest => (name, canonical j) :: canonicalMembers rest

end

mutual

/-- Whether a value can be held whole: no part of it is unusable, and arrays and
objects are nested less than `limit` deep. -/
def usable (limit : Nat) : Json → Bool
  | .unusable => false
  | .array items => 1 < limit && usableItems (limit - 1) items
  | .object members => 1 < limit && usableMembers (limit - 1) members
  | _ => true

def usableItems (limit : Nat) : List Json → Bool
  | [] => true
  | j :: js => usable limit j && usableItems limit js

def usableMembers (limit : Nat) : List (String × Json) → Bool
  | [] => true
  | (_, j) :: rest => usable limit j && usableMembers limit rest

end

end Json

end Screenplay
