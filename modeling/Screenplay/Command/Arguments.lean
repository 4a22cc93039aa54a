/-
Reading the words of a command line. There is a tree of commands, each with
named parameters and with words of its own. Words are read from left to right;
the value of a parameter is looked at only when the next parameter, or the next
word of the command, begins. The parameters of all commands may stand before or
after the name of a command, and the one nearest to the end counts.

Left out are what shows the version (`version`, `--version`), the flag for a fuller
log (`-v`, `--verbose`), and the variable of the environment that may name the settings
file (`SCREENTEST_CONFIG`): the log is no output of a command, and the variable only stands
in for `--config`.
-/
import Screenplay.Command.Basic

namespace Screenplay

/-- What is wrong with a command line, or what it asks for in place of a command. -/
inductive UsageFault
  | noCommand
  | missingCommand
  | unknownCommand
  | missingWord
  | unknownWord
  | conflict
  /-- A value that is empty, or none of those listed. -/
  | invalidValue
  /-- A value that names nothing. -/
  | refusedValue
  /-- A value for a parameter that has none. -/
  | extraValue
  | help
  deriving Repr, DecidableEq

namespace UsageFault

def text : UsageFault → String
  | noCommand | help =>
    "usage: screentest [--config FILE] [--format table|json|yaml|plain] COMMAND\n" ++
      "commands: validate, select, render, estimate, generate, config show, config init"
  | missingCommand => "a command is missing"
  | unknownCommand => "there is no such command"
  | missingWord => "an argument is missing"
  | unknownWord => "an argument is not known"
  | conflict => "two arguments do not go together"
  | invalidValue | refusedValue => "the value of an argument is not one that it can have"
  | extraValue => "an argument that takes no value has one"

/-- The number that the program ends with. -/
def exitCode : UsageFault → Nat
  | help => 0
  | _ => 2

end UsageFault

/-! ## Parameters -/

inductive Parameter
  | config | format | help
  | all | explain
  | builtin | context | check | names | output
  | out | caller | keyVariable | offline
  | force
  deriving Repr, DecidableEq

/-- What a parameter takes. -/
inductive ValueKind
  | flag
  | path
  | text
  | format
  | flow
  deriving Repr, DecidableEq

namespace Parameter

def name : Parameter → String
  | config => "config"
  | format => "format"
  | help => "help"
  | all => "all"
  | explain => "explain"
  | builtin => "builtin"
  | context => "context"
  | check => "check"
  | names => "variables"
  | output => "output"
  | out => "out"
  | caller => "caller"
  | keyVariable => "api-key-env"
  | offline => "offline"
  | force => "force"

def letter? : Parameter → Option Char
  | help => some 'h'
  | all => some 'a'
  | explain => some 'e'
  | context => some 'c'
  | output | out => some 'o'
  | force => some 'f'
  | _ => none

def kind : Parameter → ValueKind
  | config | context | output | out => .path
  | format => .format
  | builtin => .flow
  | caller | keyVariable => .text
  | help | all | explain | check | names | offline | force => .flag

end Parameter

/-- The fault of a value, if it has one. -/
def ValueKind.fault? (kind : ValueKind) (value : String) : Option UsageFault :=
  match kind with
  | .flag | .text => none
  | .path => if value.isEmpty then some .invalidValue else none
  | .format => if (Format.named? value).isSome then none else some .invalidValue
  | .flow => if (Flow.named? value).isSome then none else some .refusedValue

/-! ## Levels -/

/-- A place in the tree of commands. -/
inductive Level
  | root
  | validate | select | estimate | render | generate
  | settings | showSettings | initSettings
  deriving Repr, DecidableEq

namespace Level

def name : Level → String
  | root => "screentest"
  | validate => "validate"
  | select => "select"
  | estimate => "estimate"
  | render => "render"
  | generate => "generate"
  | settings => "config"
  | showSettings => "show"
  | initSettings => "init"

def commands : Level → List Level
  | root => [validate, select, render, estimate, generate, settings]
  | settings => [showSettings, initSettings]
  | _ => []

def command? (l : Level) (word : String) : Option Level := l.commands.find? (·.name == word)

/-- Wherever there are commands, there is help on them. -/
def helpWord : String := "help"

def startsCommand (l : Level) (word : String) : Bool :=
  (l.command? word).isSome || (!l.commands.isEmpty && word == helpWord)

def ownParameters : Level → List Parameter
  | select => [.all, .explain]
  | estimate => [.all]
  | render => [.builtin, .context, .check, .names, .output]
  | generate => [.out, .caller, .keyVariable, .offline]
  | initSettings => [.force]
  | _ => []

def parameters (l : Level) : List Parameter := l.ownParameters ++ [.config, .format, .help]

def named? (l : Level) (name : String) : Option Parameter :=
  l.parameters.find? (·.name == name)

def lettered? (l : Level) (letter : Char) : Option Parameter :=
  l.parameters.find? (·.letter? == some letter)

/-- How many words a command takes besides its parameters; all of them are paths. -/
inductive Words
  | none
  | one
  | many
  deriving Repr, DecidableEq

def words : Level → Words
  | validate | select | estimate | generate => .many
  | render | initSettings => .one
  | root | settings | showSettings => .none

end Level

/-! ## Reading -/

/-- What was read last and is not settled yet. -/
inductive Pending
  | nothing
  | value (p : Parameter) (value : Option String)
  | words (words : List String)
  deriving Repr

/-- What was read on one level. -/
structure Reading where
  given : List (Parameter × String)
  words : List String
  pending : Pending
  deriving Repr

namespace Reading

def start : Reading := ⟨[], [], .nothing⟩

def has (r : Reading) (p : Parameter) : Bool := r.given.any (·.1 == p)

def value? (r : Reading) (p : Parameter) : Option String := r.given.lookup p

/-- Takes the value of a parameter, which may be given once. -/
def give (r : Reading) (p : Parameter) (value : String) : Except UsageFault Reading :=
  if r.has p then .error .conflict
  else match p.kind.fault? value with
    | some fault => .error fault
    | none => .ok { r with given := (p, value) :: r.given }

/-- Looks at what was read last. -/
def settle (r : Reading) : Except UsageFault Reading :=
  let clear := { r with pending := .nothing }
  match r.pending with
  | .nothing => .ok clear
  | .value _ none => .error .invalidValue
  | .value p (some v) => clear.give p v
  | .words ws =>
    if ws.any String.isEmpty then .error .invalidValue
    else .ok { clear with words := clear.words ++ ws }

/-- Whether the next word is the value of a parameter. -/
def awaitsValue (r : Reading) : Bool :=
  match r.pending with
  | .value _ none => true
  | _ => false

/-- Takes a parameter without a value beside it. -/
def takeFlag (r : Reading) (p : Parameter) : Except UsageFault Reading := do
  let r ← r.settle
  if p = .help then throw .help
  r.give p ""

/-- Takes a parameter that has a value, which may stand beside it. -/
def takeValued (r : Reading) (p : Parameter) (value : Option String) :
    Except UsageFault Reading := do
  let r ← r.settle
  match value with
  | some v => r.give p v
  | none => return { r with pending := .value p none }

/-- Takes a word of the command. -/
def takeWord (r : Reading) (level : Level) (word : String) : Except UsageFault Reading :=
  let count := match r.pending with
    | .words ws => r.words.length + ws.length
    | _ => r.words.length
  let refused := if level.commands.isEmpty then UsageFault.unknownWord else .unknownCommand
  match level.words with
  | .none => .error refused
  | .one =>
    if 0 < count then .error refused
    else do return { (← r.settle) with pending := .words [word] }
  | .many =>
    match r.pending with
    | .words ws => .ok { r with pending := .words (ws ++ [word]) }
    | _ => do return { (← r.settle) with pending := .words [word] }

/-- Takes a parameter by its name, with what follows the sign of equality. -/
def takeNamed (r : Reading) (level : Level) (name : String) (value : Option String) :
    Except UsageFault Reading :=
  match level.named? name with
  | none => .error .unknownWord
  | some p =>
    if p.kind ≠ .flag then r.takeValued p value
    else if value.isSome then .error .extraValue
    else r.takeFlag p

/-- Takes parameters by their letters. The first one with a value has the rest of
the word as its value. -/
def takeLetters (r : Reading) (level : Level) : List Char → Except UsageFault Reading
  | [] => .ok r
  | c :: rest =>
    match level.lettered? c with
    | none => .error .unknownWord
    | some p =>
      if p.kind = .flag then do (← r.takeFlag p).takeLetters level rest
      else match rest with
        | [] => r.takeValued p none
        | '=' :: value => r.takeValued p (some (.ofList value))
        | value => r.takeValued p (some (.ofList value))

end Reading

/-- A word of a command line. -/
inductive Word
  /-- Two dashes: what follows are words of the command. -/
  | stop
  | named (name : String) (value : Option String)
  | letters (letters : List Char)
  | other (text : String)
  deriving Repr

def Word.ofText (text : String) : Word :=
  match text.toList with
  | ['-', '-'] => .stop
  | '-' :: '-' :: r =>
    match r.span (· ≠ '=') with
    | (name, []) => .named (.ofList name) none
    | (name, _ :: value) => .named (.ofList name) (some (.ofList value))
  | '-' :: c :: r => .letters (c :: r)
  | _ => .other text

/-! ## Commands -/

/-- The command that help is asked for has to be there. -/
def helpFor (level : Level) : List String → UsageFault
  | [] => .help
  | word :: rest =>
    match level.command? word with
    | some l => helpFor l rest
    | none => if level.startsCommand word && rest.isEmpty then .help else .unknownCommand

namespace Reading

/-- A parameter that all commands have, from the innermost level that has it. -/
def common (readings : List Reading) (p : Parameter) (value : String) : String :=
  (readings.findSome? (·.value? p)).getD value

/-- The template of a reading; there are two ways to name it, and one is taken. -/
def source (r : Reading) : Except UsageFault TemplateSource :=
  match r.words, r.value? .builtin with
  | [], none => .error .missingWord
  | _ :: _, some _ => .error .conflict
  | path :: _, none => .ok (.file path)
  | [], some name =>
    match Flow.named? name with
    | some flow => .ok (.builtin flow)
    | none => .error .refusedValue

/-- The paths of a reading, at least one. -/
def inputs (r : Reading) : Except UsageFault (List Path) :=
  if r.words.isEmpty then .error .missingWord else .ok r.words

/-- The command that was read on a level on which no further command follows. -/
def command (r : Reading) (environment : String → Option String) :
    Level → Except UsageFault Command
  | .root | .settings => .error (if r.given.isEmpty then .noCommand else .missingCommand)
  | .validate => return .validate (← r.inputs)
  | .select => return .select (← r.inputs) (r.has .all) (r.has .explain)
  | .estimate => return .estimate (← r.inputs) (r.has .all)
  | .render => return .render {
      source := ← r.source
      context := r.value? .context
      check := r.has .check
      listNames := r.has .names
      output := r.value? .output }
  | .generate => return .generate {
      inputs := ← r.inputs
      out := (r.value? .out).getD "tests/generated"
      caller := ((r.value? .caller).or (environment "SCREENTEST_CALLER")).getD "local"
      keyVariable := (r.value? .keyVariable).getD "ANTHROPIC_API_KEY"
      offline := r.has .offline }
  | .showSettings => .ok .showConfig
  | .initSettings => .ok (.initConfig (r.words.head?.getD defaultConfig) (r.has .force))
where
  defaultConfig : Path := "screentest.toml"

/-- Takes a word before which the parameters have not been ended. -/
def takeText (r : Reading) (level : Level) (text : String) : Except UsageFault Reading :=
  match Word.ofText text, r.pending with
  | .named name value, _ => r.takeNamed level name value
  | .letters letters, _ => r.takeLetters level letters
  | _, .value p none => .ok { r with pending := .value p (some text) }
  | _, _ => r.takeWord level text

/-- Reads the words of a level and of the levels below it. The result is the command
with what was read on every level, the innermost first. -/
def readAll (environment : String → Option String) (level : Level) (r : Reading) (ended : Bool) :
    List String → Except UsageFault (Command × List Reading)
  | [] => do
    let r ← r.settle
    return (← r.command environment level, [r])
  | text :: rest =>
    if ended then
      if level.startsCommand text then .error .unknownWord
      else do (← r.takeWord level text).readAll environment level true rest
    else
      match (if r.awaitsValue then none else level.command? text) with
      | some inner => do
        let (command, readings) ← start.readAll environment inner false rest
        return (command, readings ++ [← r.settle])
      | none =>
        if level.startsCommand text && !r.awaitsValue then .error (helpFor level rest)
        else if text = "--" then r.readAll environment level true rest
        else do (← r.takeText level text).readAll environment level false rest

end Reading

/-- Reads a command line. -/
def Invocation.parse (environment : String → Option String) (words : List String) :
    Except UsageFault Invocation := do
  let (command, readings) ← Reading.start.readAll environment .root false words
  return {
    config := Reading.common readings .config "screentest.toml"
    format := (Format.named? (Reading.common readings .format "table")).getD .table
    command := command }

end Screenplay
