/-
Rendering a template, or looking at it: the names it refers to, and whether it
has a tree. Names are listed even for a template that has none.
-/
import Screenplay.Command.Results
import Screenplay.Command.SpecFile
import Screenplay.Playbook.Script

namespace Screenplay

/-- The name and the text of a template. -/
def TemplateSource.load (tree : Tree) : TemplateSource → Except Trouble (String × String)
  | .builtin flow => .ok (flow.id, Playbook.source flow)
  | .file path => return (path, ← SpecFile.readText tree path)

/-- The names in a list, for programs as a value, for people one on a line. -/
def namesText (format : Format) (names : List String) : String :=
  if format.isHuman then String.join (names.map (· ++ "\n"))
  else format.value (.ofStrings names)

def compileSource (label source : String) : Except Trouble Template :=
  (Template.compile source).mapError fun e =>
    (Trouble.said e.message).during (label ++ " has invalid syntax")

/-- The value in a file; the ending says in which format. -/
def contextValue (path : Path) (text : String) : Except Trouble Json :=
  if SpecFile.isJson path then orTrouble (.of .json) (Json.document? text)
  else orTrouble (.of .yaml) (Yaml.toJson? text)

/-- The context in a file, if there is one to read. -/
def loadContext (tree : Tree) : Option Path → Except Trouble Context
  | none => .ok .empty
  | some path => do
    let value ← contextValue path (← SpecFile.readText tree path)
    (Context.ofJson value).mapError fun _ =>
      .said (path ++ " must contain a mapping at the top level")

/-- Writes the output to a file, or shows it. -/
def deliver (tree : Tree) (label output : String) : Option Path → Outcome
  | none => .ofText tree (.ok output)
  | some path =>
    match tree.write? path output with
    | some tree => .ofText tree (.ok (successLine ("Rendered " ++ label ++ " to " ++ path)))
    | none => .ofText tree (.error ((Trouble.of .file).during ("Failed to write " ++ path)))

def renderWith (tree : Tree) (order : RenderOrder) (label source : String) :
    Except Trouble Outcome := do
  let template ← compileSource label source
  let context ← loadContext tree order.context
  return deliver tree label (template.render context) order.output

def runRender (tree : Tree) (format : Format) (order : RenderOrder) : Outcome :=
  match order.source.load tree with
  | .error trouble => .ofText tree (.error trouble)
  | .ok (label, source) =>
    if order.listNames then
      .ofText tree (.ok (namesText format (Template.references source)))
    else if order.check then
      .ofText tree ((compileSource label source).map fun _ => successLine (label ++ " is valid"))
    else match renderWith tree order label source with
      | .error trouble => .ofText tree (.error trouble)
      | .ok outcome => outcome

end Screenplay
