/-
The commands, what they see of their surroundings, and what comes of them. A
command that fails says so by a chain of causes; what it has printed and written
by then stays.
-/
import Screenplay.Command.Format
import Screenplay.Files.Tree
import Screenplay.Generation.Exchange
import Screenplay.Spec.Names

namespace Screenplay

/-! ## Commands -/

/-- Where a template is taken from. -/
inductive TemplateSource
  | file (path : Path)
  | builtin (flow : Flow)
  deriving Repr, DecidableEq

structure RenderOrder where
  source : TemplateSource
  context : Option Path
  check : Bool
  listNames : Bool
  output : Option Path
  deriving Repr, DecidableEq

structure GenerateOrder where
  inputs : List Path
  out : Path
  caller : String
  keyVariable : String
  offline : Bool
  deriving Repr, DecidableEq

inductive Command
  | validate (inputs : List Path)
  | select (inputs : List Path) (all explain : Bool)
  | estimate (inputs : List Path) (all : Bool)
  | render (order : RenderOrder)
  | generate (order : GenerateOrder)
  | showConfig
  | initConfig (path : Path) (force : Bool)
  deriving Repr, DecidableEq

/-- A command with the settings file and the format that it is to use. -/
structure Invocation where
  config : Path
  format : Format
  command : Command
  deriving Repr, DecidableEq

/-- The paths that a command may read or write. -/
def Command.paths : Command → List Path
  | validate inputs | select inputs _ _ | estimate inputs _ => inputs
  | render order =>
    let source := match order.source with
      | .file path => [path]
      | .builtin _ => []
    source ++ order.context.toList ++ order.output.toList
  | generate order => order.out :: order.inputs
  | showConfig => []
  | initConfig path _ => [path]

/-- The environment variables that a command may look at. -/
def Command.keyVariables : Command → List String
  | generate order => [order.keyVariable]
  | _ => []

def Invocation.paths (i : Invocation) : List Path := i.config :: i.command.paths

/-! ## Surroundings -/

/-- What the program finds when it is started. -/
structure World where
  tree : Tree
  /-- The values of environment variables. -/
  environment : String → Option String
  network : Network

/-! ## Results -/

/-- What a failure comes from. -/
inductive Cause
  | message (text : String)
  /-- A file could not be read or written. -/
  | file
  | json
  | yaml
  | toml
  deriving Repr, DecidableEq

def Cause.text : Cause → String
  | .message text => text
  | .file => "the file cannot be used"
  | .json => "the JSON cannot be used"
  | .yaml => "the YAML cannot be used"
  | .toml => "the TOML cannot be used"

/-- A failure: what was being done, the outermost first, and the cause. -/
structure Trouble where
  doing : List String
  cause : Cause
  deriving Repr, DecidableEq

namespace Trouble

/-- The failure in words. -/
def text (t : Trouble) : String := Text.join ": " (t.doing ++ [t.cause.text])

def of (cause : Cause) : Trouble := ⟨[], cause⟩

def said (text : String) : Trouble := of (.message text)

def during (doing : String) (t : Trouble) : Trouble := { t with doing := doing :: t.doing }

end Trouble

/-- The value, or the trouble that its lack is. -/
def orTrouble {α : Type} (t : Trouble) : Option α → Except Trouble α
  | some a => .ok a
  | none => .error t

/-- What comes of a command. -/
structure Outcome where
  output : String
  notices : String
  tree : Tree
  trouble : Option Trouble
  deriving Repr

/-- The outcome of a command that writes no files: its output, or its trouble. -/
def Outcome.ofText (tree : Tree) : Except Trouble String → Outcome
  | .ok output => ⟨output, "", tree, none⟩
  | .error trouble => ⟨"", "", tree, some trouble⟩

def successLine (text : String) : String := "✓ " ++ text ++ "\n"

def warningLine (text : String) : String := "! " ++ text ++ "\n"

def failureLine (text : String) : String := "✗ " ++ text ++ "\n"

end Screenplay
