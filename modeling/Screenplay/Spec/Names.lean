/-
The fixed names of a specification: the flows that have a template, the hint
that an author may give, and the priority of a test case.
-/
import Screenplay.Text.Basic

namespace Screenplay

/-- A name that is none of those expected. -/
structure UnknownName where
  kind : String
  value : String
  expected : String
  deriving Repr, DecidableEq

def UnknownName.message (u : UnknownName) : String :=
  "unknown " ++ u.kind ++ " '" ++ u.value ++ "' (expected one of: " ++ u.expected ++ ")"

/-- The flows through a screen for which there is a template. -/
inductive Flow
  | formSubmission
  | navigation
  | modalDialog
  | listFilter
  | authFlow
  deriving Repr, DecidableEq, Inhabited

namespace Flow

def all : List Flow := [formSubmission, navigation, modalDialog, listFilter, authFlow]

def id : Flow → String
  | formSubmission => "form-submission"
  | navigation => "navigation"
  | modalDialog => "modal-dialog"
  | listFilter => "list-filter"
  | authFlow => "auth-flow"

def expected : String := Text.join ", " (all.map id)

def named? (s : String) : Option Flow := all.find? (·.id == s)

def parse (s : String) : Except UnknownName Flow :=
  match named? s with
  | some flow => .ok flow
  | none => .error ⟨"template", s, expected⟩

end Flow

/-- How an author steers the choice of a template. -/
inductive Hint
  /-- Use the template of this flow. -/
  | flow (flow : Flow)
  /-- Use no template. -/
  | generative
  deriving Repr, DecidableEq

namespace Hint

def generativeName : String := "generative"

def name : Hint → String
  | flow f => f.id
  | generative => generativeName

def parse (s : String) : Except UnknownName Hint :=
  if s == generativeName then .ok generative
  else match Flow.named? s with
    | some f => .ok (flow f)
    | none => .error ⟨"template hint", s, Flow.expected ++ ", " ++ generativeName⟩

end Hint

inductive Priority
  | low
  | medium
  | high
  | critical
  deriving Repr, DecidableEq

namespace Priority

def all : List Priority := [low, medium, high, critical]

def name : Priority → String
  | low => "low"
  | medium => "medium"
  | high => "high"
  | critical => "critical"

def named? (s : String) : Option Priority := all.find? (·.name == s)

def parse (s : String) : Except UnknownName Priority :=
  match named? s with
  | some p => .ok p
  | none => .error ⟨"priority", s, Text.join ", " (all.map name)⟩

end Priority

end Screenplay
