/-
Reading values from YAML documents: records, lists and texts, in which plain
texts count as what they are written for, and any value as JSON.
-/
import Screenplay.Document
import Screenplay.Yaml.Node
import Screenplay.Yaml.Plain

namespace Screenplay.Yaml

/-- A node of a document. -/
structure Value where
  document : Document
  node : Node

namespace Value

/-- The node that is meant: an alias means the node of its anchor. -/
def meant? (v : Value) : Option Node :=
  match v.node with
  | .alias number => v.document.target? number
  | n => some n

def nullTag : String := "tag:yaml.org,2002:null"

def boolTag : String := "tag:yaml.org,2002:bool"

def intTag : String := "tag:yaml.org,2002:int"

def floatTag : String := "tag:yaml.org,2002:float"

/-- The text of a node that is one, however it is written. -/
def text? (v : Value) : Option String :=
  match v.meant? with
  | some (.scalar _ _ s) => some s
  | _ => none

/-- Whether a node is plain and empty. -/
def isVacant : Node → Bool
  | .scalar _ .plain s => s.isEmpty
  | _ => false

/-- A plain text stands for nothing if it says so; one that is marked as nothing
has to. -/
def isNothing? (v : Value) : Option Bool := do
  match ← v.meant? with
  | .scalar none .plain s => return s.isEmpty || Plain.isNull s
  | .scalar (some t) .plain s =>
    if t = nullTag then (if Plain.isNull s then return true else none) else return false
  | _ => return false

def flag? (v : Value) : Option Bool :=
  match v.meant? with
  | some (.scalar _ .plain s) => Plain.bool? s
  | some (.scalar (some t) .literal s) => if t = boolTag then Plain.bool? s else none
  | _ => none

def integer? (v : Value) : Option Int :=
  match v.meant? with
  | some (.scalar _ .plain s) => Plain.integer? s.toList
  | _ => none

def real? (v : Value) : Option Float :=
  match v.meant? with
  | some (.scalar _ .plain s) =>
    match Plain.ofString s with
    | .integer n => some (Float.ofInt n)
    | .float x => some x
    | _ => none
  | _ => none

/-- The items of a sequence; an empty plain text has none. -/
def items? (v : Value) : Option (List Value) :=
  match v.meant? with
  | some (.sequence _ items) => some (items.map (⟨v.document, ·⟩))
  | some n => if isVacant n then some [] else none
  | none => none

/-- The fields of a mapping, whose keys have to be texts; an empty plain text has
none. -/
def fields? (v : Value) : Option (Fields Value) :=
  match v.meant? with
  | some (.mapping _ entries) => do
    let members ← entries.mapM fun (key, value) => do
      return (← text? ⟨v.document, key⟩, (⟨v.document, value⟩ : Value))
    return .named members
  | some n => if isVacant n then some (.named []) else none
  | none => none

end Value

instance : Screenplay.Document Value where
  isNothing? := Value.isNothing?
  text? := Value.text?
  flag? := Value.flag?
  integer? := Value.integer?
  real? := Value.real?
  items? := Value.items?
  fields? := Value.fields?

/-- The root of the document of a text. -/
def value? (text : String) : Option Value := do
  let d ← document? text
  return ⟨d, d.root⟩

/-! ## JSON -/

/-- An integer as JSON, which has those of 64 bits. -/
def integerJson? (n : Int) : Option Json :=
  if -(Nat.pow 2 63 : Nat) ≤ n ∧ n < (Nat.pow 2 64 : Nat) then some (.int n) else none

/-- A float as JSON; one that JSON does not have is null. -/
def floatJson (x : Float) : Json := if x.isFinite then .float x else .null

/-- A plain text as JSON. -/
def plainJson? (s : String) : Option Json :=
  match Plain.ofString s with
  | .null => some .null
  | .bool b => some (.bool b)
  | .integer n => integerJson? n
  | .float x => some (floatJson x)
  | .text => some (.string s)

/-- Whether a tag belongs to the document alone; such a value is none of JSON. -/
def isLocal (tag : Option String) : Bool := tag.any fun t => t.startsWith "!" && 1 < t.length

/-- A text as JSON. A tag may say what it has to be. -/
def scalarJson? (tag : Option String) (style : Style) (s : String) : Option Json :=
  match tag with
  | some t =>
    if isLocal tag then none
    else if t = Value.boolTag then (Plain.bool? s).map .bool
    else if t = Value.intTag then (Plain.integer? s.toList).bind integerJson?
    else if t = Value.floatTag then (Plain.float? s.toList).map floatJson
    else if t = Value.nullTag then (if Plain.isNull s then some .null else none)
    else some (.string s)
  | none => if style = .plain then plainJson? s else some (.string s)

mutual

/-- A node as JSON. Collections may be nested `depth` deep. -/
def json? (d : Document) : Nat → Nat → Node → Option Json
  | 0, _, _ => none
  | fuel + 1, depth, n =>
    match n with
    | .alias number =>
      match d.target? number with
      | some target => json? d fuel depth target
      | none => none
    | .scalar tag style s => scalarJson? tag style s
    | .sequence tag items =>
      if isLocal tag || depth = 0 then none
      else (itemsJson? d fuel (depth - 1) items).map .array
    | .mapping tag entries =>
      if isLocal tag || depth = 0 then none
      else (membersJson? d fuel (depth - 1) entries).map fun ms => .object (Json.orderMembers ms)

def itemsJson? (d : Document) : Nat → Nat → List Node → Option (List Json)
  | 0, _, _ => none
  | _ + 1, _, [] => some []
  | fuel + 1, depth, n :: rest => do
    return (← json? d fuel depth n) :: (← itemsJson? d fuel depth rest)

def membersJson? (d : Document) : Nat → Nat → List (Node × Node) → Option (List (String × Json))
  | 0, _, _ => none
  | _ + 1, _, [] => some []
  | fuel + 1, depth, (key, value) :: rest => do
    let name ← Value.text? ⟨d, key⟩
    return (name, ← json? d fuel depth value) :: (← membersJson? d fuel depth rest)

end

/-- How deep collections may be nested. -/
def depthLimit : Nat := 128

/-- The one document of a text as JSON. -/
def toJson? (text : String) : Option Json := do
  let d ← document? text
  json? d (depthLimit * (text.length + 4)) depthLimit d.root

end Screenplay.Yaml
