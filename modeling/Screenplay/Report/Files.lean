/-
The files of a report. The code of each case has a file of its own, named for
the screen and the case; where two cases would share a name, the later one gets
the first number that makes its name a new one.
-/
import Screenplay.Report.Basic

namespace Screenplay

/-- The common start of the names of a case. -/
def fileStem (screen case : String) : String :=
  Template.kebabCase screen ++ "-" ++ Template.kebabCase case

def codeEnding : String := ".spec.ts"

def reportEnding : String := ".report.json"

/-- The names of a stem: plain, then with 2, with 3, and so on. -/
def candidate (stem : String) : Nat → String
  | 0 => stem ++ codeEnding
  | k + 1 => stem ++ "-" ++ toString (k + 2) ++ codeEnding

/-- The first candidate from number `k` on that is not taken, after at most so
many tries. -/
def firstFree (taken : List String) (stem : String) : Nat → Nat → String
  | 0, k => candidate stem k
  | tries + 1, k =>
    if taken.contains (candidate stem k) then firstFree taken stem tries (k + 1)
    else candidate stem k

/-- The first free candidate; one more than are taken have to be tried at most. -/
def freshName (taken : List String) (stem : String) : String :=
  firstFree taken stem taken.length 0

/-- The file names of cases, some names being taken. -/
def fileNamesFrom (screen : String) (taken : List String) : List String → List String
  | [] => []
  | case :: rest =>
    let name := freshName taken (fileStem screen case)
    name :: fileNamesFrom screen (name :: taken) rest

/-- The file names of the cases of a screen that have code. -/
def fileNames (screen : String) (cases : List String) : List String :=
  fileNamesFrom screen [] cases

namespace Report

/-- The name and the code of each case that has code. -/
def codes (r : Report) : List (String × String) :=
  r.cases.filterMap fun c => c.resolution.code?.map fun code => (c.name, code)

/-- The files with code, each with its content, in the order of the cases. -/
def codeFiles (r : Report) : List (String × String) :=
  (fileNames r.screen (r.codes.map (·.1))).zip (r.codes.map (·.2))

def fileName (r : Report) : String := Template.kebabCase r.screen ++ reportEnding

end Report

end Screenplay
