/-
Rendering a template. Names are looked up in the items of the enclosing `each`
blocks, innermost first, then in the context; `this` is the innermost item.
Text that was put in for a name is never read as template text again.
-/
import Screenplay.Template.Node
import Screenplay.Json.Writer

namespace Screenplay

/-- The values that a template can name, in order of name. -/
structure Context where
  bindings : List (String × Json)
  deriving Repr, Inhabited

namespace Context

def empty : Context := ⟨[]⟩

/-- The context of an object; any other value is given back. -/
def ofJson (j : Json) : Except Json Context :=
  match j with
  | .object members => .ok ⟨Json.orderMembers members⟩
  | j => .error j

def get? (c : Context) (name : String) : Option Json := Json.member? c.bindings name

def insert (c : Context) (name : String) (value : Json) : Context :=
  ⟨Json.setMember name value c.bindings⟩

def toJson (c : Context) : Json := .object c.bindings

/-- What a value is, for the message that it is no context. -/
def kindOf : Json → String
  | .null | .unusable => "null"
  | .bool _ => "a boolean"
  | .number _ => "a number"
  | .string _ => "a string"
  | .array _ => "a sequence"
  | .object _ => "a mapping"

def mismatchMessage (j : Json) : String := "render context must be a mapping, got " ++ kindOf j

end Context

namespace Template

/-! ## Values -/

/-- Between the items of a list that is put into a text. -/
def itemSeparator : String := ", "

mutual

/-- The text of a value. An object is written as JSON. -/
def textOf : Json → String
  | .null | .unusable => ""
  | .bool b => if b then "true" else "false"
  | .number n => n.text
  | .string s => s
  | .array items => itemSeparator.intercalate (textsOf items)
  | .object members => (Json.object members).compact

def textsOf : List Json → List String
  | [] => []
  | j :: js => textOf j :: textsOf js

end

/-- A value holds unless it is missing, null, false, or an empty text or list. -/
def holds : Option Json → Bool
  | none | some .null | some .unusable => false
  | some (.bool b) => b
  | some (.string s) => !s.isEmpty
  | some (.array items) => !items.isEmpty
  | some _ => true

/-! ## Names -/

/-- The name of the current item. -/
def currentItem : String := "this"

/-- A position in a list: decimal digits, a plus sign allowed, within 64 bits. -/
def index? (part : List Char) : Option Nat :=
  let digits := match part with
    | '+' :: r => r
    | r => r
  if digits.isEmpty || !digits.all Text.isDigit then none
  else
    let n := digits.foldl (fun n c => n * 10 + (c.toNat - '0'.toNat)) 0
    if n < Nat.pow 2 64 then some n else none

/-- One step of a path: a member of an object or an item of a list. -/
def step? (value : Json) (part : String) : Option Json :=
  match value with
  | .object members => Json.member? members part
  | .array items => do items[← index? part.toList]?
  | _ => none

def follow? (value : Json) : List String → Option Json
  | [] => some value
  | part :: parts => do follow? (← step? value part) parts

/-- The parts of a dotted name. -/
def parts (name : String) : List String := (name.toList.splitOn '.').map String.ofList

/-- The first part of a dotted name. -/
def headOf (name : String) : String := (parts name).head?.getD ""

/-- The items of the enclosing blocks, innermost first, and the context around them. -/
structure Scope where
  items : List Json
  root : Context

namespace Scope

def enter (s : Scope) (item : Json) : Scope := ⟨item :: s.items, s.root⟩

/-- The innermost binding of a first part. -/
def find? (s : Scope) (head : String) : Option Json :=
  if head == currentItem then s.items.head?
  else (s.items.findSome? (·.get? head)).or (s.root.get? head)

/-- The value of a dotted name. -/
def lookup? (s : Scope) (name : String) : Option Json :=
  match parts name with
  | [] => none
  | head :: rest => do follow? (← s.find? head) rest

end Scope

/-! ## Rendering -/

mutual

def renderNode (s : Scope) : Node → String
  | .text t => t
  | .variable name => (s.lookup? name).elim "" textOf
  | .helper h name => (s.lookup? name).elim "" fun v => h.apply (textOf v)
  | .block .whenTrue name body => if holds (s.lookup? name) then renderNodes s body else ""
  | .block .whenFalse name body => if holds (s.lookup? name) then "" else renderNodes s body
  | .block .each name body =>
    match s.lookup? name with
    | some (.array items) => String.join (items.map fun item => renderNodes (s.enter item) body)
    | _ => ""

def renderNodes (s : Scope) : List Node → String
  | [] => ""
  | n :: ns => renderNode s n ++ renderNodes s ns

end

end Template

/-- A template with its tree, ready to be rendered. -/
structure Template where
  nodes : List Template.Node
  deriving Repr

namespace Template

/-- The template of a text. -/
def compile (source : String) : Except SyntaxError Template := do
  return ⟨← treeOf (tokens source)⟩

def render (t : Template) (context : Context) : String := renderNodes ⟨[], context⟩ t.nodes

/-! ## References -/

/-- The name that a token refers to. -/
def Token.reference? : Token → Option String
  | .variable name => some name
  | .openBlock _ name _ => if name.isEmpty then none else some name
  | .pair first second _ => (Helper.named? first).map fun _ => second
  | _ => none

/-- The names that a template refers to, those of the current item apart, in order. -/
def references (source : String) : List String :=
  Text.ordered (((tokens source).filterMap Token.reference?).filter (headOf · != currentItem))

end Template

end Screenplay
