/-
Finding a draft valid. Every defect is reported, each once, at the place where
it is; a draft without defects is a screen.
-/
import Screenplay.Spec.Basic
import Screenplay.Text.Case

namespace Screenplay

/-- The two lists of a test case. -/
inductive Listing
  | steps
  | assertions
  deriving Repr, DecidableEq

def Listing.field : Listing → String
  | steps => "steps"
  | assertions => "assertions"

/-- One entry of the list. -/
def Listing.entry : Listing → String
  | steps => "step"
  | assertions => "assertion"

/-- A place in a draft. -/
inductive Place
  | screen
  | description
  | tests
  | name (test : Nat)
  | listing (test : Nat) (l : Listing)
  | entry (test : Nat) (l : Listing) (index : Nat)
  | hint (test : Nat)
  | priority (test : Nat)
  deriving Repr, DecidableEq

def testPath (i : Nat) (field : String) : String := "tests[" ++ toString i ++ "]." ++ field

def Place.path : Place → String
  | screen => "screen"
  | description => "description"
  | tests => "tests"
  | name i => testPath i "name"
  | listing i l => testPath i l.field
  | entry i l j => testPath i l.field ++ "[" ++ toString j ++ "]"
  | hint i => testPath i "templateHint"
  | priority i => testPath i "priority"

/-- What is wrong at a place. -/
inductive Defect
  | missing
  | blank
  | noTests
  | noEntries (l : Listing)
  | blankEntry (l : Listing)
  | unknown (name : UnknownName)
  deriving Repr, DecidableEq

def Defect.message : Defect → String
  | missing => "is required"
  | blank => "must not be empty"
  | noTests => "must contain at least one test case"
  | noEntries l => "must contain at least one " ++ l.entry
  | blankEntry l => l.entry ++ " is empty after trimming"
  | unknown name => name.message

structure Violation where
  place : Place
  defect : Defect
  deriving Repr, DecidableEq

namespace Violation

def text (v : Violation) : String := v.place.path ++ ": " ++ v.defect.message

def toJson (v : Violation) : Json :=
  .object [("path", .string v.place.path), ("message", .string v.defect.message)]

/-- The message about a draft with these violations. -/
def summary (vs : List Violation) : String :=
  "invalid specification (" ++ toString vs.length ++ " violation(s)): " ++
    Text.join "; " (vs.map text)

end Violation

/-! ## Defects -/

/-- The defects of a text that has to be there. -/
def textDefects (place : Place) : Option String → List Violation
  | none => [⟨place, .missing⟩]
  | some s => if Text.trim s = "" then [⟨place, .blank⟩] else []

/-- The defects of the entries from this index on. -/
def entryDefects (test : Nat) (l : Listing) : Nat → List String → List Violation
  | _, [] => []
  | j, s :: rest =>
    (if Text.trim s = "" then [⟨.entry test l j, .blankEntry l⟩] else []) ++
      entryDefects test l (j + 1) rest

def listingDefects (test : Nat) (l : Listing) : Option (List String) → List Violation
  | none | some [] => [⟨.listing test l, .noEntries l⟩]
  | some entries => entryDefects test l 0 entries

/-- A name as it is compared: trimmed and in lower case. -/
def foldName (s : String) : String := Text.lower (Text.trim s)

/-- The defects of a name that may be missing. -/
def nameDefects {β : Type} (place : Place) (parse : String → Except UnknownName β) :
    Option String → List Violation
  | none => []
  | some s =>
    match parse (foldName s) with
    | .ok _ => []
    | .error e => [⟨place, .unknown e⟩]

def CaseDraft.defects (i : Nat) (c : CaseDraft) : List Violation :=
  textDefects (.name i) c.name ++
    listingDefects i .steps c.steps ++
    listingDefects i .assertions c.assertions ++
    nameDefects (.hint i) Hint.parse c.hint ++
    nameDefects (.priority i) Priority.parse c.priority

/-- The defects of the tests from this index on. -/
def caseDefects : Nat → List CaseDraft → List Violation
  | _, [] => []
  | i, c :: rest => c.defects i ++ caseDefects (i + 1) rest

def testsDefects : Option (List CaseDraft) → List Violation
  | none => [⟨.tests, .missing⟩]
  | some [] => [⟨.tests, .noTests⟩]
  | some cases => caseDefects 0 cases

/-- The defects of a draft, from its first field to its last. -/
def Draft.defects (d : Draft) : List Violation :=
  textDefects .screen d.screen ++ textDefects .description d.description ++ testsDefects d.tests

/-! ## Screens -/

/-- The text without blanks at its ends; empty when it is missing. -/
def trimmedText (s : Option String) : String := (s.map Text.trim).getD ""

def trimmedEntries (entries : Option (List String)) : List String :=
  (entries.getD []).map Text.trim

/-- The case of a draft without defects. -/
def CaseDraft.normal (c : CaseDraft) : Case where
  name := trimmedText c.name
  description := trimmedText c.description
  steps := trimmedEntries c.steps
  assertions := trimmedEntries c.assertions
  hint := c.hint.bind fun s => (Hint.parse (foldName s)).toOption
  priority := c.priority.bind fun s => (Priority.parse (foldName s)).toOption
  skipIfEmpty := c.skipIfEmpty.getD false

/-- The screen of a draft without defects. A blank route counts as missing. -/
def Draft.normal (d : Draft) : Screen where
  name := trimmedText d.screen
  description := trimmedText d.description
  route := (d.route.map Text.trim).filter (· ≠ "")
  cases := (d.tests.getD []).map CaseDraft.normal

/-- The screen of a draft, or all that is wrong with it. -/
def validate (d : Draft) : Except (List Violation) Screen :=
  if d.defects = [] then .ok d.normal else .error d.defects

end Screenplay
