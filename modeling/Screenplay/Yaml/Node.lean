/-
The nodes of a YAML document: texts, sequences, mappings, and aliases of nodes
that have an anchor. An alias keeps the number of its anchor; the node is looked
up when it is read, so that a node may hold an alias of itself.
-/
import Screenplay.Yaml.Token

namespace Screenplay.Yaml

inductive Node
  | scalar (tag : Option String) (style : Style) (text : String)
  | sequence (tag : Option String) (items : List Node)
  | mapping (tag : Option String) (entries : List (Node × Node))
  | alias (number : Nat)
  deriving Repr, Inhabited

namespace Node

/-- What stands where nothing is written. -/
def empty : Node := .scalar none .plain ""

end Node

/-- An anchored node: the number of its anchor, and how many anchors came before. -/
structure Anchored where
  number : Nat
  order : Nat
  node : Node
  deriving Repr

/-- A document as far as it is read. -/
structure Parse where
  tokens : List Token
  /-- The starts of tags that handles stand for. -/
  handles : List (List Char × List Char)
  /-- The names of the anchors so far with their numbers. -/
  names : List (List Char × Nat)
  /-- How many anchors there were. -/
  order : Nat
  anchored : List Anchored

/-- Reads a part of a document. -/
abbrev Reading := StateT Parse Option

namespace Reading

def fail {α : Type} : Reading α := fun _ => none

/-- The next token, which is left in place. -/
def peek : Reading (Option Token) := do return (← get).tokens.head?

def drop : Reading Unit := modify fun p => { p with tokens := p.tokens.tail }

/-- Whether the next token is the given one, which is then taken. -/
def take (t : Token) : Reading Bool := do
  if (← peek) == some t then
    drop
    return true
  else return false

/-- Takes the given token, which has to be next. -/
def expect (t : Token) : Reading Unit := do
  if !(← take t) then fail

/-- Whether the next token is one of these. -/
def isNext (l : List Token) : Reading Bool := do return (← peek).any l.contains

/-! ## Anchors and tags -/

def anchor? : Reading (Option (List Char)) := do
  match ← peek with
  | some (.anchor name) =>
    drop
    return some name
  | _ => return none

def tagText? : Reading (Option TagText) := do
  match ← peek with
  | some (.tag t) =>
    drop
    return some t
  | _ => return none

/-- The anchor and the tag before a node, in any order. -/
def properties : Reading (Option (List Char) × Option TagText) := do
  match ← anchor? with
  | some name => return (some name, ← tagText?)
  | none =>
    match ← tagText? with
    | some t => return (← anchor?, some t)
    | none => return (none, none)

/-- The whole tag; the start that a handle stands for has to be known. -/
def wholeTag (t : TagText) : Reading String := do
  if t.handle.isEmpty then return .ofList t.suffix
  match (← get).handles.find? (·.1 == t.handle) with
  | some (_, start) => return .ofList (start ++ t.suffix)
  | none => fail

/-- Gives an anchor its number: how many names there are by then. -/
def noteAnchor (name : List Char) : Reading (Nat × Nat) := do
  let p ← get
  let number := p.names.length
  let others := p.names.filter (·.1 != name)
  set { p with names := (name, number) :: others, order := p.order + 1 }
  return (number, p.order)

def keepAnchored (mark : Option (Nat × Nat)) (node : Node) : Reading Node := do
  match mark with
  | some (number, order) =>
    modify fun p => { p with anchored := ⟨number, order, node⟩ :: p.anchored }
    return node
  | none => return node

/-- The tag of a node that nothing is said about. -/
def plainTag : String := "!"

/-! ## Nodes -/

mutual

/-- A node. In a block it may be a block itself, and below a key a sequence may
stand at the column of the key. -/
def node (inBlock belowKey : Bool) : Nat → Reading Node
  | 0 => fail
  | fuel + 1 => do
    match ← peek with
    | some (.alias name) =>
      drop
      match (← get).names.find? (·.1 == name) with
      | some (_, number) => return .alias number
      | none => fail
    | _ =>
      let (name, tagText) ← properties
      let tag ← match tagText with
        | some t => do pure (some (← wholeTag t))
        | none => pure none
      let mark ← match name with
        | some n => do pure (some (← noteAnchor n))
        | none => pure none
      match ← peek with
      | some (.scalar style text) =>
        drop
        keepAnchored mark (.scalar (tag.filter (· != plainTag)) style (.ofList text))
      | some .flowSequenceStart =>
        drop
        keepAnchored mark (.sequence tag (← flowItems true fuel))
      | some .flowMappingStart =>
        drop
        keepAnchored mark (.mapping tag (← flowEntries true fuel))
      | some .blockEntry =>
        if belowKey then keepAnchored mark (.sequence tag (← sameColumnItems fuel))
        else emptyNode name.isSome tag mark
      | some .blockSequenceStart =>
        if inBlock then
          drop
          keepAnchored mark (.sequence tag (← blockItems fuel))
        else emptyNode name.isSome tag mark
      | some .blockMappingStart =>
        if inBlock then
          drop
          keepAnchored mark (.mapping tag (← blockEntries fuel))
        else emptyNode name.isSome tag mark
      | _ => emptyNode name.isSome tag mark

/-- A node with nothing but an anchor or a tag. -/
def emptyNode (hasName : Bool) (tag : Option String) (mark : Option (Nat × Nat)) :
    Reading Node := do
  if hasName || tag.isSome then
    keepAnchored mark (.scalar (tag.filter (· != plainTag)) .plain "")
  else fail

/-- A node, or the empty one if one of these tokens comes next. -/
def nodeUnless (stop : List Token) (inBlock belowKey : Bool) : Nat → Reading Node
  | 0 => fail
  | fuel + 1 => do
    match ← peek with
    | none => return .empty
    | some t => if stop.contains t then return .empty else node inBlock belowKey fuel

def blockItems : Nat → Reading (List Node)
  | 0 => fail
  | fuel + 1 => do
    if ← take .blockEntry then
      let item ← nodeUnless [.blockEntry, .blockEnd] true false fuel
      return item :: (← blockItems fuel)
    else
      expect .blockEnd
      return []

/-- The items of a sequence at the column of its key. -/
def sameColumnItems : Nat → Reading (List Node)
  | 0 => fail
  | fuel + 1 => do
    if ← take .blockEntry then
      let item ← nodeUnless [.blockEntry, .key, .value, .blockEnd] true false fuel
      return item :: (← sameColumnItems fuel)
    else return []

def blockEntries : Nat → Reading (List (Node × Node))
  | 0 => fail
  | fuel + 1 => do
    if ← take .key then
      let key ← nodeUnless [.key, .value, .blockEnd] true true fuel
      let value ← if ← take .value then nodeUnless [.key, .value, .blockEnd] true true fuel
        else pure .empty
      return (key, value) :: (← blockEntries fuel)
    else
      expect .blockEnd
      return []

/-- The value of an entry in brackets or braces, if it has one. -/
def flowValue (stop : List Token) : Nat → Reading Node
  | 0 => fail
  | fuel + 1 => do
    if ← take .value then nodeUnless stop false false fuel else return .empty

def flowItems (isFirst : Bool) : Nat → Reading (List Node)
  | 0 => fail
  | fuel + 1 => do
    if ← take .flowSequenceEnd then return []
    if !isFirst then expect .flowEntry
    if ← take .key then
      let entry ← singleEntry fuel
      return .mapping none [entry] :: (← flowItems false fuel)
    else if ← take .flowSequenceEnd then return []
    else
      let item ← node false false fuel
      return item :: (← flowItems false fuel)

/-- The one entry of a mapping that is written as an item, after its key token. -/
def singleEntry : Nat → Reading (Node × Node)
  | 0 => fail
  | fuel + 1 => do
    let stop : List Token := [.flowEntry, .flowSequenceEnd]
    if ← isNext (.value :: stop) then
      drop
      return (.empty, ← flowValue stop fuel)
    else
      let key ← node false false fuel
      return (key, ← flowValue stop fuel)

def flowEntries (isFirst : Bool) : Nat → Reading (List (Node × Node))
  | 0 => fail
  | fuel + 1 => do
    if ← take .flowMappingEnd then return []
    if !isFirst then expect .flowEntry
    let stop : List Token := [.flowEntry, .flowMappingEnd]
    if ← take .key then
      let key ← nodeUnless (.value :: stop) false false fuel
      let value ← flowValue stop fuel
      return (key, value) :: (← flowEntries false fuel)
    else if ← take .flowMappingEnd then return []
    else
      let key ← node false false fuel
      return (key, .empty) :: (← flowEntries false fuel)

end

/-! ## Documents -/

/-- The handles that need no directive. -/
def knownHandles : List (List Char × List Char) :=
  [(['!'], ['!']), (['!', '!'], "tag:yaml.org,2002:".toList)]

def isVersion : Directive → Bool
  | .version _ _ => true
  | _ => false

/-- Whether directives are in order: one version that is known, each handle once. -/
def areInOrder (ds : List Directive) : Bool :=
  let versions := ds.filter isVersion
  let handles := ds.filterMap fun
    | .tag h _ => some h
    | _ => none
  versions.length ≤ 1 && (versions.all fun d => d == .version 1 1 || d == .version 1 2) &&
    handles.eraseDups.length == handles.length

def directives : Nat → Reading (List Directive)
  | 0 => fail
  | fuel + 1 => do
    match ← peek with
    | some (.directive d) =>
      drop
      return d :: (← directives fuel)
    | _ => return []

/-- Whether a document, whose start is marked, has nothing in it. -/
def isVacant : Option Token → Bool
  | none | some .documentStart | some .documentEnd | some (.directive _) => true
  | _ => false

def skipEnds : Nat → Reading Unit
  | 0 => fail
  | fuel + 1 => do
    if ← take .documentEnd then skipEnds fuel

/-- The node of the one document of a text. -/
def document (fuel : Nat) : Reading Node := do
  let ds ← directives fuel
  if !areInOrder ds then fail
  let given := ds.filterMap fun
    | .tag h start => some (h, start)
    | _ => none
  modify fun p => { p with handles := given ++ knownHandles }
  let isMarked ← take .documentStart
  if !ds.isEmpty && !isMarked then fail
  let node ← if isMarked && isVacant (← peek) then pure .empty else node true false fuel
  skipEnds fuel
  if (← peek).isSome then fail
  return node

end Reading

/-- A text as its one document: the node, and what the aliases in it stand for. -/
structure Document where
  root : Node
  anchored : List Anchored

/-- The latest anchored node of a number. -/
def Document.target? (d : Document) (number : Nat) : Option Node :=
  let found := d.anchored.filter (·.number == number)
  let last := found.foldl (fun best a =>
    match best with
    | some b => if b.order < a.order then some a else best
    | none => some a) (none : Option Anchored)
  last.map (·.node)

/-- The document of a text. One without any content is the empty node. -/
def document? (text : String) : Option Document := do
  let tokens ← tokens? text
  if tokens.isEmpty then return ⟨.empty, []⟩
  let fuel := 4 * tokens.length + 8
  let (root, p) ← (Reading.document fuel).run ⟨tokens, [], [], 0, []⟩
  return ⟨root, p.anchored⟩

end Screenplay.Yaml
