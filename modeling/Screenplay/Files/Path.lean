/-
Paths as they are typed. A path keeps its text, which messages repeat; its parts
are read off the text when a file is looked for.
-/
import Screenplay.Text.Basic

namespace Screenplay

/-- The text of a path. -/
abbrev Path := String

namespace Path

/-- A step of a path. -/
inductive Step
  /-- To the root of all files. -/
  | root
  | stay
  | up
  | down (name : String)
  deriving Repr, DecidableEq

def Step.ofText (part : String) : Step :=
  if part.isEmpty || part = "." then .stay
  else if part = ".." then .up
  else .down part

/-- The steps of a path from the working directory; the empty path has none. -/
def steps? (p : Path) : Option (List Step) :=
  let parts (s : List Char) := (s.splitOn '/').map (Step.ofText <| .ofList ·)
  match p.toList with
  | [] => none
  | '/' :: s => some (.root :: parts s)
  | s => some (parts s)

/-- The path of a file in a directory. -/
def child (p : Path) (name : String) : Path :=
  if Text.endsWith p "/" then p ++ name else p ++ "/" ++ name

/-- The last name of a path. -/
def fileName? (p : Path) : Option String :=
  let steps := (p.steps?.getD []).filter (· ≠ .stay)
  match steps.getLast? with
  | some (.down name) => some name
  | _ => none

/-- What follows the last point of a name that has something before that point. -/
def extension? (p : Path) : Option String := do
  let name ← p.fileName?
  match name.toList.reverse.span (· ≠ '.') with
  | (_, []) | (_, [_]) => none
  | (ending, _) => return .ofList ending.reverse

end Path

end Screenplay
