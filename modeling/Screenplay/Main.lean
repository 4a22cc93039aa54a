/-
The program. It takes the files that a command names into a tree, carries the
command out on the tree, and writes the files that have changed. It has no
connection to the service, and it cannot list a folder: the files in a folder
that is named are not seen.
-/
import Screenplay.Command.Arguments
import Screenplay.Command.Run

namespace Screenplay.Program

/-- What is found at a path. -/
def entryAt (path : Path) : IO (Option Tree.Entry) := do
  try
    return some (.file (← IO.FS.readFile path))
  catch _ =>
    try
      let _ ← IO.FS.realPath path
      return some .folder
    catch _ => return none

/-- Takes what is found on the way of some steps into a tree. -/
def takeSteps (tree : Tree) (place : List String) : List Path.Step → IO Tree
  | [] => return tree
  | step :: rest => do
    let next := Tree.nextPlace place step
    match ← entryAt (Text.join "/" (if next.isEmpty then ["."] else next)) with
    | some entry => takeSteps (tree.put next entry) next rest
    | none => return tree

def takePaths (tree : Tree) : List Path → IO Tree
  | [] => return tree
  | path :: rest => do takePaths (← takeSteps tree [] (path.steps?.getD [])) rest

def writeFiles : List (Path × String) → IO Unit
  | [] => return
  | (path, content) :: rest => do
    IO.FS.createDirAll (Text.join "/" ((path.splitOn "/").dropLast ++ ["."]))
    IO.FS.writeFile path content
    writeFiles rest

/-- The values of the variables that a command line may refer to. -/
def readEnvironment (names : List String) : IO (List (String × String)) :=
  names.filterMapM fun name => do return (← IO.getEnv name).map fun value => (name, value)

/-- Carries out a command, and gives the number that the program ends with. -/
def carryOut (invocation : Invocation) (environment : List (String × String)) : IO UInt32 := do
  let tree ← takePaths .empty invocation.paths
  let outcome := invocation.run ⟨tree, fun name => List.lookup name environment, .none⟩
  writeFiles (tree.changes outcome.tree)
  IO.print outcome.output
  IO.eprint outcome.notices
  match outcome.trouble with
  | none => return 0
  | some trouble =>
    IO.eprintln ("Error: " ++ trouble.text)
    return 1

def run (words : List String) : IO UInt32 := do
  let callers ← readEnvironment ["SCREENTEST_CALLER"]
  match Invocation.parse (fun name => List.lookup name callers) words with
  | .error fault =>
    IO.eprintln fault.text
    return fault.exitCode.toUInt32
  | .ok invocation =>
    let keys ← readEnvironment invocation.command.keyVariables
    carryOut invocation (callers ++ keys)

end Screenplay.Program

def main (words : List String) : IO UInt32 := Screenplay.Program.run words
