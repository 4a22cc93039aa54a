/-
Carrying out a command. The settings are loaded before anything else is done; two
of the commands show them, or write a file with those that hold by default.
-/
import Screenplay.Command.Estimate
import Screenplay.Command.Generate
import Screenplay.Command.Render
import Screenplay.Command.Select
import Screenplay.Command.Validate
import Screenplay.Config.File

namespace Screenplay

/-! ## Settings -/

def LoadFault.trouble : LoadFault → Trouble
  | .unreadable => .of .toml
  | .unusable fault => .said fault.message

/-- The settings in a file, or those by default where there is no file. -/
def loadConfig (tree : Tree) (path : Path) : Except Trouble Config :=
  let loaded := match tree.find? path with
    | some (.file text) => (Config.load (some text)).mapError LoadFault.trouble
    | some .folder => .error (.of .file)
    | none => .ok {}
  loaded.mapError (·.during ("Failed to load " ++ path))

/-- The settings as a file, or as a value for programs. -/
def configText (config : Config) (format : Format) : Except Trouble String :=
  if format.isHuman then orTrouble (.of .toml) config.print?
  else .ok (format.value config.toJson)

/-- Writes the settings to a file, and makes the folder of it. -/
def Config.save (config : Config) (tree : Tree) (path : Path) : Except Trouble Tree := do
  let text ← orTrouble (.of .toml) config.print?
  let tree ← orTrouble (.of .file) (tree.makeParent? path)
  orTrouble (.of .file) (tree.write? path text)

def runInit (tree : Tree) (path : Path) (force : Bool) : Outcome :=
  if tree.exists? path && !force then
    .ofText tree (.error (.said (path ++ " already exists (use --force to overwrite)")))
  else match Config.save {} tree path with
    | .ok tree => .ofText tree (.ok (successLine ("Wrote " ++ path)))
    | .error trouble => .ofText tree (.error trouble)

/-! ## All commands -/

/-- What comes of a command with these settings. -/
def Command.run (config : Config) (world : World) (format : Format) : Command → Outcome
  | .validate inputs => runValidate world.tree format inputs
  | .select inputs all explain =>
    .ofText world.tree (runSelect config world.tree format inputs all explain)
  | .estimate inputs all => .ofText world.tree (runEstimate config world.tree format inputs all)
  | .render order => runRender world.tree format order
  | .generate order => runGenerate config world format order
  | .showConfig => .ofText world.tree (configText config format)
  | .initConfig path force => runInit world.tree path force

/-- Loads the settings, which have to be usable whatever the command, and carries it
out. -/
def Invocation.run (i : Invocation) (world : World) : Outcome :=
  match loadConfig world.tree i.config with
  | .error trouble => ⟨"", "", world.tree, some trouble⟩
  | .ok config => i.command.run config world i.format

end Screenplay
