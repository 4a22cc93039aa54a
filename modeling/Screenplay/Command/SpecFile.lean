/-
The specifications that a command works on: the files it names, and those in the
folders it names. Nothing is done with any of them before all are read.
-/
import Screenplay.Command.Basic
import Screenplay.Json.Reader
import Screenplay.Spec.Validate
import Screenplay.Yaml.Value

namespace Screenplay

/-- A specification and the file it was read from. -/
structure SpecFile where
  path : Path
  draft : Draft
  deriving Repr, DecidableEq

namespace SpecFile

def isJson (p : Path) : Bool := p.extension? == some "json"

/-- The endings by which specifications are found in a folder. -/
def endings : List String := ["yaml", "yml", "json"]

def isSpec (p : Path) : Bool := p.extension?.any endings.contains

/-- The specification in a text; the ending of the path says in which format. -/
def parse (p : Path) (text : String) : Except Trouble Draft :=
  if isJson p then orTrouble (.of .json) (Json.parse? text >>= Draft.read?)
  else orTrouble (.of .yaml) (Yaml.value? text >>= Draft.read?)

/-- The text of a file. -/
def readText (tree : Tree) (p : Path) : Except Trouble String :=
  orTrouble ((Trouble.of .file).during ("Failed to read " ++ p)) (tree.read? p)

def load (tree : Tree) (p : Path) : Except Trouble SpecFile := do
  let text ← readText tree p
  let draft ← (parse p text).mapError (·.during ("Failed to parse " ++ p))
  return ⟨p, draft⟩

/-- The specifications that one input stands for. -/
def loadInput (tree : Tree) (input : Path) : Except Trouble (List SpecFile) :=
  if tree.hasFolder input then ((tree.filesBelow input).filter isSpec).mapM (load tree)
  else if tree.exists? input then return [← load tree input]
  else .error (.said ("No such file or directory: " ++ input))

/-- The specifications of all inputs, at least one. -/
def loadAll (tree : Tree) (inputs : List Path) : Except Trouble (List SpecFile) := do
  let files := (← inputs.mapM (loadInput tree)).flatten
  if files.isEmpty then throw (.said "No spec files found (expected .yaml, .yml or .json)")
  return files

/-- The screen of a specification. -/
def screen (file : SpecFile) : Except Trouble Screen :=
  (validate file.draft).mapError fun vs => .said (Violation.summary vs)

end SpecFile

end Screenplay
