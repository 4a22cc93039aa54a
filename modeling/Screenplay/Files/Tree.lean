/-
The files that are known. A tree gives for each place, a list of names, the
folder or the file that is there. The working directory is the empty list; places
outside of it start with two points or with a slash, and are nowhere unless the
tree has such a folder. A path leads to a place step by step, and every place on
the way has to be a folder.
-/
import Screenplay.Files.Path

namespace Screenplay

inductive Tree.Entry
  | folder
  | file (content : String)
  deriving Repr, DecidableEq

/-- The entries of a tree, each with its place. -/
structure Tree where
  entries : List (List String × Tree.Entry)
  deriving Repr

namespace Tree

def empty : Tree := ⟨[]⟩

/-! ## Places -/

/-- What is at a place. -/
def get? (t : Tree) (place : List String) : Option Entry :=
  if place = [] then some .folder else (t.entries.find? (·.1 == place)).map (·.2)

def isFolder (t : Tree) (place : List String) : Bool := t.get? place == some .folder

/-- Puts an entry at a place, in place of the one that was there. -/
def putEntry (place : List String) (e : Entry) :
    List (List String × Entry) → List (List String × Entry)
  | [] => [(place, e)]
  | (p, old) :: rest => if p == place then (p, e) :: rest else (p, old) :: putEntry place e rest

def put (t : Tree) (place : List String) (e : Entry) : Tree := ⟨putEntry place e t.entries⟩

theorem find?_putEntry_self (place : List String) (e : Entry) (l : List (List String × Entry)) :
    ((putEntry place e l).find? (·.1 == place)) = some (place, e) := by
  induction l with
  | nil => simp [putEntry]
  | cons head rest ih =>
    obtain ⟨p, old⟩ := head
    by_cases h : p = place
    · subst h; simp [putEntry]
    · simp [putEntry, h, ih]

theorem find?_putEntry_other {place p : List String} (hne : p ≠ place) (e : Entry)
    (l : List (List String × Entry)) :
    ((putEntry place e l).find? (·.1 == p)) = l.find? (·.1 == p) := by
  induction l with
  | nil => simp [putEntry, Ne.symm hne]
  | cons head rest ih =>
    obtain ⟨q, old⟩ := head
    by_cases h : q = place
    · subst h; simp [putEntry, Ne.symm hne]
    · simp only [putEntry, beq_iff_eq, h, if_false, List.find?_cons, ih]

/-- What was put at a place is there. -/
theorem get?_put_self (t : Tree) {place : List String} (h : place ≠ []) (e : Entry) :
    (t.put place e).get? place = some e := by
  simp [get?, put, h, find?_putEntry_self]

/-- Putting an entry changes no other place. -/
theorem get?_put_other (t : Tree) {place p : List String} (hne : p ≠ place) (e : Entry) :
    (t.put place e).get? p = t.get? p := by
  simp [get?, put, find?_putEntry_other hne]

def rootName : String := "/"

def upName : String := ".."

/-- The place that one step leads to. -/
def nextPlace (place : List String) : Path.Step → List String
  | .root => [rootName]
  | .stay => place
  | .up =>
    if place = [rootName] then place
    else if place.all (· == upName) then place ++ [upName]
    else place.dropLast
  | .down name => place ++ [name]

/-- Where steps lead to from a place, if there is a folder before each of them. -/
def walk (t : Tree) (place : List String) : List Path.Step → Option (List String)
  | [] => some place
  | step :: rest => if t.isFolder place then t.walk (nextPlace place step) rest else none

def place? (t : Tree) (p : Path) : Option (List String) := do t.walk [] (← p.steps?)

/-! ## Looking -/

def find? (t : Tree) (p : Path) : Option Entry := do t.get? (← t.place? p)

def exists? (t : Tree) (p : Path) : Bool := (t.find? p).isSome

def hasFolder (t : Tree) (p : Path) : Bool := t.find? p == some .folder

/-- The content of a file. -/
def read? (t : Tree) (p : Path) : Option String :=
  match t.find? p with
  | some (.file content) => some content
  | _ => none

/-- Whether one place comes before another, name by name. -/
def precedes : List String → List String → Bool
  | _, [] => false
  | [], _ :: _ => true
  | a :: as, b :: bs => Text.precedes a b || (a == b && precedes as bs)

/-- Puts a place into an ordered list of places. -/
def placeInOrder (p : List String) : List (List String) → List (List String)
  | [] => [p]
  | q :: rest => if precedes q p then q :: placeInOrder p rest else p :: q :: rest

/-- The names that lead from a folder to a place in it. -/
def namesFrom? (folder place : List String) : Option (List String) :=
  let names := place.drop folder.length
  if folder.isPrefixOf place && !names.head?.any [rootName, upName].contains then some names
  else none

/-- The files in a folder and in the folders in it, in order, each by the names
that lead to it from the folder. -/
def filesIn (t : Tree) (folder : List String) : List (List String) :=
  let inside := t.entries.filterMap fun (place, e) =>
    match e with
    | .file _ => namesFrom? folder place
    | .folder => none
  inside.foldr placeInOrder []

/-- The paths of the files that are found below a path. -/
def filesBelow (t : Tree) (p : Path) : List Path :=
  match t.place? p with
  | some folder => (t.filesIn folder).map fun names => names.foldl Path.child p
  | none => []

/-! ## Writing -/

/-- Makes the folders that steps lead through, as far as there is no file in the
way; only a step down can lead to a new one. -/
def makeFolders (t : Tree) (place : List String) : List Path.Step → Option Tree
  | [] => some t
  | step :: rest =>
    let next := nextPlace place step
    match step, t.get? next with
    | _, some .folder => t.makeFolders next rest
    | .down _, none => (t.put next .folder).makeFolders next rest
    | _, _ => none

/-- Makes a folder and those on the way to it. -/
def makeFolder? (t : Tree) (p : Path) : Option Tree := do t.makeFolders [] (← p.steps?)

/-- The steps of a path without those at its end that stay, and without the last
one that does not. -/
def stepsToParent (steps : List Path.Step) : List Path.Step :=
  (steps.reverse.dropWhile (· == .stay)).drop 1 |>.reverse

/-- Makes the folders on the way to a file. -/
def makeParent? (t : Tree) (p : Path) : Option Tree := do
  t.makeFolders [] (stepsToParent (← p.steps?))

/-- Writes a file whose folder is there, over a file of that name. -/
def write? (t : Tree) (p : Path) (content : String) : Option Tree := do
  let steps ← p.steps?
  match steps.reverse with
  | .down name :: way =>
    let folder ← t.walk [] way.reverse
    let place := folder ++ [name]
    if t.isFolder folder && !t.isFolder place then return t.put place (.file content) else none
  | _ => none

/-- The tree of some files, with the folders they are in. -/
def ofFiles (files : List (Path × String)) : Tree :=
  files.foldl (fun t (p, content) => ((t.makeParent? p).getD t).write? p content |>.getD t) empty

/-- The files of a tree that another one has not, or has with other content. -/
def changes (before after : Tree) : List (Path × String) :=
  after.entries.filterMap fun (place, e) =>
    match e with
    | .file content =>
      if before.get? place = some e then none else some (Text.join "/" place, content)
    | .folder => none

end Tree

end Screenplay
