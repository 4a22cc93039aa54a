/-
The tree of a template. Two checks decide whether a template has one: for each
construct as many blocks are opened as are closed, and the blocks are nested
and named. The first check looks at the whole template before the second one
begins, so its fault is reported first. A tree is written as literal text as it is,
with every tag with single spaces between its words.
-/
import Screenplay.Template.Token
import Screenplay.Template.Casing

namespace Screenplay.Template

inductive Node
  | text (s : String)
  | variable (name : String)
  | helper (helper : Helper) (name : String)
  | block (construct : Construct) (name : String) (body : List Node)
  deriving Repr

/-- Why a template has no tree. Offsets are those of the tag, in bytes. -/
inductive SyntaxError
  | unbalanced (construct : Construct) (opened closed : Nat)
  | misnested (expected found : Construct) (offset : Nat)
  | unexpectedClose (construct : Construct) (offset : Nat)
  | unclosed (construct : Construct) (offset : Nat)
  | missingName (construct : Construct) (offset : Nat)
  deriving Repr, DecidableEq

def SyntaxError.message : SyntaxError → String
  | .unbalanced construct opened closed =>
    s!"unbalanced '{construct.keyword}' blocks: {opened} opened, {closed} closed"
  | .misnested expected found offset =>
    s!"'{found.keyword}' closing tag at offset {offset} does not match the open " ++
      s!"'{expected.keyword}' block"
  | .unexpectedClose construct offset =>
    s!"'{construct.keyword}' closing tag at offset {offset} has no open block"
  | .unclosed construct offset =>
    s!"'{construct.keyword}' block opened at offset {offset} is never closed"
  | .missingName construct offset =>
    s!"'{construct.keyword}' block at offset {offset} is missing a name"

/-! ## Balance -/

def Token.opens (construct : Construct) : Token → Bool
  | .openBlock c _ _ => c == construct
  | _ => false

def Token.closes (construct : Construct) : Token → Bool
  | .closeBlock c _ => c == construct
  | _ => false

def opened (construct : Construct) (ts : List Token) : Nat := ts.countP (·.opens construct)

def closed (construct : Construct) (ts : List Token) : Nat := ts.countP (·.closes construct)

/-- The first construct that is not closed as often as it is opened. -/
def imbalance? (ts : List Token) : Option SyntaxError :=
  (Construct.all.find? fun c => opened c ts != closed c ts).map fun c =>
    .unbalanced c (opened c ts) (closed c ts)

/-! ## Nesting -/

/-- A block whose close has not come yet, with the nodes that stand before it, last first. -/
structure OpenBlock where
  construct : Construct
  name : String
  offset : Nat
  before : List Node

/-- Adds a node behind others, which are listed last first; texts that meet are joined. -/
def pushNode (node : Node) : List Node → List Node
  | .text s :: rest =>
    match node with
    | .text t => .text (s ++ t) :: rest
    | n => n :: .text s :: rest
  | nodes => node :: nodes

/-- The node of a token that is no tag of a block. -/
def Token.leaf : Token → Node
  | .text raw => .text raw
  | .variable name => .variable name
  | .pair first second raw =>
    match Helper.named? first with
    | some h => .helper h second
    | none => .text raw
  | .openBlock _ _ _ => .text ""
  | .closeBlock _ _ => .text ""

/-- Reads tokens inside open blocks, innermost first, behind nodes already read. -/
def nest (blocks : List OpenBlock) (done : List Node) : List Token → Except SyntaxError (List Node)
  | [] =>
    match blocks with
    | [] => .ok done.reverse
    | b :: _ => .error (.unclosed b.construct b.offset)
  | .openBlock construct name offset :: ts =>
    if name.isEmpty then .error (.missingName construct offset)
    else nest (⟨construct, name, offset, done⟩ :: blocks) [] ts
  | .closeBlock construct offset :: ts =>
    match blocks with
    | [] => .error (.unexpectedClose construct offset)
    | b :: outer =>
      if b.construct = construct then
        nest outer (pushNode (.block construct b.name done.reverse) b.before) ts
      else .error (.misnested b.construct construct offset)
  | t :: ts => nest blocks (pushNode t.leaf done) ts

/-- The tree of a template, or the fault that keeps it from having one. -/
def treeOf (ts : List Token) : Except SyntaxError (List Node) :=
  match imbalance? ts with
  | some fault => .error fault
  | none => nest [] [] ts

/-! ## Printing -/

/-- A tag around some words. -/
def tagText (words : String) : String := "\x7b\x7b" ++ words ++ "\x7d\x7d"

mutual

def printNode : Node → String
  | .text s => s
  | .variable name => tagText name
  | .helper h name => tagText (h.name ++ " " ++ name)
  | .block construct name body =>
    tagText ("#" ++ construct.keyword ++ " " ++ name) ++ printNodes body ++
      tagText ("/" ++ construct.keyword)

def printNodes : List Node → String
  | [] => ""
  | n :: ns => printNode n ++ printNodes ns

end

/-- Joins texts that stand side by side. -/
def joinTexts : List Node → List Node
  | [] => []
  | .text s :: rest =>
    match joinTexts rest with
    | .text t :: others => .text (s ++ t) :: others
    | others => .text s :: others
  | n :: rest => n :: joinTexts rest

end Screenplay.Template
