/-
Generating code for all specifications, one after the other. What was made of a
specification is written before the next one is looked at, so a run that stops
leaves the files of the ones before. Files are named after the screen, so no two
specifications of a run may share the name.
-/
import Screenplay.Command.Results
import Screenplay.Command.SpecFile
import Screenplay.Report.Files

namespace Screenplay

/-! ## Writing a report -/

/-- Writes files into a folder, one after the other, as far as it goes. The flag
says whether all were written. -/
def Tree.writeAll (folder : Path) (t : Tree) : List (String × String) → Tree × Bool
  | [] => (t, true)
  | (name, content) :: rest =>
    match t.write? (folder.child name) content with
    | some t => t.writeAll folder rest
    | none => (t, false)

/-- The files of a report, the code first. -/
def Report.files (r : Report) : List (String × String) :=
  r.codeFiles ++ [(r.fileName, r.toJson.pretty)]

/-- Writes a report into a folder, which is made if it is missing. -/
def Report.store (r : Report) (folder : Path) (t : Tree) : Tree × Bool :=
  match t.makeFolder? folder with
  | some t => t.writeAll folder r.files
  | none => (t, false)

/-! ## Runs -/

/-- How a run goes about its work. -/
structure Production where
  config : Config
  keys : Keys
  caller : String
  out : Path
  /-- The service for each case of each specification. -/
  services : Nat → Nat → Service

/-- What has happened in a run. -/
structure Run where
  /-- The dialogues with the service, also those of a specification that was then
  turned down. -/
  transcripts : List (List (Transcript CaseReport))
  /-- The reports that were written. -/
  reports : List Report
  /-- The names that are taken, each with the specification that took it. -/
  claims : List (String × Path)
  tree : Tree
  trouble : Option Trouble
  deriving Repr

namespace Run

def start (tree : Tree) : Run := ⟨[], [], [], tree, none⟩

def stop (run : Run) (trouble : Trouble) : Run := { run with trouble := some trouble }

/-- The specification that has taken a name. -/
def holder? (run : Run) (name : String) : Option Path := run.claims.lookup name

/-- Writes the report of a specification, unless its name is taken. -/
def record (run : Run) (out : Path) (file : SpecFile) (report : Report) : Run :=
  let name := Template.kebabCase report.screen
  match run.holder? name with
  | some earlier => run.stop (.said
      (earlier ++ " and " ++ file.path ++ " both write output for screen '" ++ name ++ "'"))
  | none =>
    let (tree, done) := report.store out run.tree
    let run := { run with tree := tree, claims := (name, file.path) :: run.claims }
    if done then { run with reports := run.reports ++ [report] } else run.stop (.of .file)

end Run

namespace Production

/-- Works on one specification, which has this number among all of them. -/
def add (p : Production) (run : Run) (number : Nat) (file : SpecFile) : Run :=
  match file.screen with
  | .error trouble => run.stop (trouble.during ("Invalid spec " ++ file.path))
  | .ok screen =>
    let transcripts := p.config.transcripts p.keys p.caller (p.services number) screen
    let run := { run with transcripts := run.transcripts ++ [transcripts] }
    run.record p.out file (.ofTranscripts screen transcripts)

/-- Works on specifications until there is trouble. -/
def addAll (p : Production) (run : Run) (number : Nat) : List SpecFile → Run
  | [] => run
  | file :: rest =>
    match run.trouble with
    | some _ => run
    | none => p.addAll (p.add run number file) (number + 1) rest

def run (p : Production) (tree : Tree) (files : List SpecFile) : Run :=
  p.addAll (.start tree) 0 files

end Production

/-! ## Results -/

/-- What became of a case. -/
structure CaseResult where
  screen : String
  test : String
  resolution : Resolution
  deriving Repr

namespace CaseResult

def path (c : CaseResult) : String :=
  match c.resolution with
  | .template _ _ => "template"
  | .generated _ => "generated"
  | .failed _ => "failed"

def detail (c : CaseResult) : String :=
  match c.resolution with
  | .template flow _ => flow.id
  | .generated g => g.usage.model ++ " (" ++ g.usage.tier.name ++ ")"
  | .failed f => f.kind.name ++ ": " ++ f.message

instance : Listed CaseResult where
  headers := ["Screen", "Test", "Path", "Detail", "Cost"]
  cells c := [c.screen, c.test, c.path, c.detail, Number.dollars c.resolution.cost]
  toJson c := .object [
    ("screen", .string c.screen),
    ("test", .string c.test),
    ("path", .string c.path),
    ("detail", .string c.detail),
    ("cost_usd", .float c.resolution.cost)]

end CaseResult

namespace Run

def results (run : Run) : List CaseResult :=
  run.reports.flatMap fun r => r.cases.map fun c => ⟨r.screen, c.name, c.resolution⟩

def failures (run : Run) : Nat :=
  run.reports.foldl (fun n r => n + r.count Resolution.isFailed) 0

def totalCost (run : Run) : Float :=
  run.reports.foldl (fun sum r => sum + r.totalCost) 0.0

/-- What people are told at the end. -/
def closing (run : Run) (out : Path) : String :=
  (if run.failures = 0 then ""
    else warningLine (toString run.failures ++ " test case(s) could not be generated")) ++
    successLine ("Output written to " ++ out ++ " (total cost " ++
      Number.dollars run.totalCost ++ ")")

def outcome (run : Run) (format : Format) (out : Path) : Outcome :=
  match run.trouble with
  | some trouble => ⟨"", "", run.tree, some trouble⟩
  | none =>
    { output := Results.text format run.results ++ "\n" ++
        if format.isHuman then run.closing out else ""
      notices := ""
      tree := run.tree
      trouble := none }

end Run

/-- The run over all specifications that some inputs stand for. If one of them cannot be loaded, the run stops
before the first. -/
def Production.carryOut (p : Production) (tree : Tree) (inputs : List Path) : Run :=
  match SpecFile.loadAll tree inputs with
  | .error trouble => (Run.start tree).stop trouble
  | .ok files => p.run tree files

/-- The key for every caller: the one that the variable holds. -/
def World.keys (world : World) (keyVariable : String) : String → Option String :=
  fun _ => keyOfVariable (world.environment keyVariable)

/-- How the run of an order goes about its work. -/
def GenerateOrder.production (order : GenerateOrder) (config : Config) (world : World) : Production where
  config := config
  keys := if order.offline then none else some (world.keys order.keyVariable)
  caller := order.caller
  out := order.out
  services := fun _ _ => config.request.service world.network

def runGenerate (config : Config) (world : World) (format : Format) (order : GenerateOrder) :
    Outcome :=
  ((order.production config world).carryOut world.tree order.inputs).outcome format order.out

end Screenplay
