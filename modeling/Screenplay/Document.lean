/-
Reading records from documents. A document format says what its values are: a
text, a truth value, a number, a list, or a record. A record comes with named
fields, or, in some formats, as the list of its fields in their order. What a
field demands, and what stands for it when it is missing, is said once for all
formats.
-/
import Screenplay.Json.Basic

namespace Screenplay

/-- The fields of a record, by name or in order. -/
inductive Fields (α : Type)
  | named (members : List (String × α))
  /-- `open` lists may go on after the last field. -/
  | ordered (items : List α) (isOpen : Bool)

/-- What the values of a document format are. -/
class Document (α : Type) where
  /-- Whether the value stands for nothing where it may be missing; no answer when
  it says that it does and does not. -/
  isNothing? : α → Option Bool
  text? : α → Option String
  flag? : α → Option Bool
  integer? : α → Option Int
  real? : α → Option Float
  items? : α → Option (List α)
  fields? : α → Option (Fields α)

namespace Document

variable {α : Type}

/-- The value of each name; a name that occurs twice is a fault. -/
def pick (members : List (String × α)) (name : String) : Option (Option α) :=
  match members.filter (·.1 == name) with
  | [] => some none
  | [(_, v)] => some (some v)
  | _ => none

def inOrder : List String → List α → List (Option α)
  | [], _ => []
  | _ :: names, [] => none :: inOrder names []
  | _ :: names, v :: vs => some v :: inOrder names vs

/-- The values of the declared fields, each possibly missing. -/
def resolve (names : List String) : Fields α → Option (List (Option α))
  | .named members => names.mapM (pick members)
  | .ordered items isOpen =>
    if !isOpen && names.length < items.length then none else some (inOrder names items)

/-- The declared fields of a record. -/
def record? [Document α] (names : List String) (v : α) : Option (List (Option α)) := do
  resolve names (← fields? v)

/-! ## Fields -/

/-- A field that has to be there. -/
def required {β : Type} (read : α → Option β) : Option α → Option β
  | some v => read v
  | none => none

/-- A field with a value of its own for when it is missing. -/
def defaulting {β : Type} (read : α → Option β) (value : β) : Option α → Option β
  | some v => read v
  | none => some value

/-- A field that may be missing or stand for nothing. -/
def optional {β : Type} [Document α] (read : α → Option β) : Option α → Option (Option β)
  | some v => do if ← isNothing? v then some none else (read v).map some
  | none => some none

/-- A list of values of one kind. -/
def listOf {β : Type} [Document α] (read : α → Option β) (v : α) : Option (List β) := do
  (← items? v).mapM read

/-- A natural number of at most so many bits. -/
def natural? [Document α] (bits : Nat) (v : α) : Option Nat := do
  let n ← integer? v
  if 0 ≤ n ∧ n < (Nat.pow 2 bits : Nat) then some n.toNat else none

end Document

/-- In JSON null stands for nothing, and a record may be an array of its fields. -/
instance : Document Json where
  isNothing?
    | .null => some true
    | _ => some false
  text?
    | .string s => some s
    | _ => none
  flag?
    | .bool b => some b
    | _ => none
  integer?
    | .number (.int n) => some n
    | _ => none
  real?
    | .number (.int n) => some (Float.ofInt n)
    | .number (.float x) => some x
    | _ => none
  items?
    | .array items => some items
    | _ => none
  fields?
    | .object members => some (.named members)
    | .array items => some (.ordered items false)
    | _ => none

end Screenplay
