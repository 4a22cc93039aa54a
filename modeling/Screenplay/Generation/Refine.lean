/-
Code from the service for one test case, on behalf of a caller. Without a key no
call is made. Otherwise the prompt of the case goes to the model of its tier,
again and again as the retry policy says, and the code is taken from the
completion: what stands between the first opening fence that is closed and its
closing fence, or the whole text when there is none, trimmed and with one line
break at its end.
-/
import Screenplay.Generation.Retry

namespace Screenplay

/-! ## The code in a completion -/

namespace Fence

/-- Three backticks. -/
def mark : List Char := ['\x60', '\x60', '\x60']

def isSpaceOrTab (c : Char) : Bool := c = ' ' || c = '\t'

/-- The text after an opening fence: the mark, letters, blanks and a line break. -/
def afterOpening? (s : List Char) : Option (List Char) :=
  if mark.isPrefixOf s then
    Text.afterBreak? (((s.drop mark.length).dropWhile Text.isAsciiLetter).dropWhile isSpaceOrTab)
  else none

/-- The text between an opening fence at the very start and the next mark. -/
def blockHere? (s : List Char) : Option (List Char) := do
  return (← Text.cut mark (← afterOpening? s)).1

/-- The text of the first fenced block. -/
def block? : List Char → Option (List Char)
  | [] => none
  | s@(_ :: rest) => (blockHere? s).or (block? rest)

/-- The code of a completion; empty when there is none. -/
def codeOf (text : String) : String :=
  let code := Text.trimmed ((block? text.toList).getD text.toList)
  if code.isEmpty then "" else .ofList (code ++ ['\n'])

end Fence

/-! ## Results -/

/-- Code from the service. -/
structure Generated where
  code : String
  usage : Usage
  /-- The calls that were made. -/
  attempts : Nat
  deriving Repr

abbrev Generation := Except Failure Generated

namespace Failure

def noKey (caller : String) : Failure :=
  ⟨.credential, "no API key available for caller '" ++ caller ++ "'", false, 0, none⟩

def noService : Failure := ⟨.credential, "no generative backend configured", false, 0, none⟩

def noCode (usage : Usage) (attempts : Nat) : Failure :=
  ⟨.provider, "completion contained no code", false, attempts, some usage⟩

end Failure

/-! ## Dialogues -/

/-- The key in the value of a variable; blanks around it do not count. -/
def keyOfVariable (value : Option String) : Option String :=
  (value.map Text.trim).filter (· ≠ "")

namespace Config

/-- The call for a case. -/
def callFor (config : Config) (key : String) (c : Case) : Call where
  model := (config.pricing.rates (config.tiers.tier c)).model
  prompt := Prompt.ofCase c
  maxTokens := config.request.maxTokens
  key := key

/-- The time that a call may take, in milliseconds. -/
def timeoutMs (config : Config) : Nat := config.request.timeout * 1000

/-- What has come of the calls for a case of this tier. -/
def conclude (config : Config) (tier : Tier) (result : Except Failure (Completion × Nat)) :
    Generation :=
  match result with
  | .error failure => .error failure
  | .ok (completion, attempts) =>
    let usage := config.pricing.usage tier completion.inputTokens completion.outputTokens
    let code := Fence.codeOf completion.text
    if code.isEmpty then .error (.noCode usage attempts) else .ok ⟨code, usage, attempts⟩

/-- The dialogue that gets code for a case. -/
def refine (config : Config) (key : Option String) (caller : String) (c : Case) :
    Dialogue Generation :=
  match key.filter (!Text.isVacant ·) with
  | none => .done (.error (.noKey caller))
  | some key =>
    (config.retry.persist config.timeoutMs (config.callFor key c)).map
      (config.conclude (config.tiers.tier c))

end Config

/-! ## Writing -/

def Failure.members (f : Failure) : List (String × Option Json) := [
  ("kind", some (.string f.kind.name)),
  ("message", some (.string f.message)),
  ("retryable", some (.bool f.retryable)),
  ("attempts", some (.nat f.attempts)),
  ("usage", f.usage.map Usage.toJson)]

def Generated.members (g : Generated) : List (String × Option Json) := [
  ("code", some (.string g.code)),
  ("usage", some g.usage.toJson),
  ("attempts", some (.nat g.attempts))]

end Screenplay
