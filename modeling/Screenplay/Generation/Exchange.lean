/-
An exchange with the service over a network: the request that a call is written
as, and the outcome that an answer stands for. A call that cannot be written is
never sent.
-/
import Screenplay.Config.Basic
import Screenplay.Generation.Endpoint
import Screenplay.Generation.Service
import Screenplay.Json.Reader
import Screenplay.Json.Writer

namespace Screenplay

/-- A request to the service. -/
structure Request where
  endpoint : String
  headers : List (String × String)
  body : Json
  deriving Repr

/-- An answer of the service, as it arrives. -/
structure Answer where
  status : Nat
  body : String
  deriving Repr

namespace Request

def userAgent : String := "screentest/0.1.0"

/-- A header may hold no control character but the tab. -/
def isHeaderText (s : String) : Bool :=
  s.toList.all fun c => c = '\t' || (' ' ≤ c && c ≠ '\x7f')

def payload (call : Call) : Json :=
  .object [
    ("model", .string call.model),
    ("max_tokens", .nat call.maxTokens),
    ("messages", .array [
      .object [("role", .string "user"), ("content", .string call.prompt)]])]

/-- The request of a call, unless it cannot be written. -/
def ofCall (settings : RequestSettings) (call : Call) : Except Fault Request :=
  if !Endpoint.isValid settings.endpoint then
    .error (.request "builder error: relative URL without a base")
  else if !(isHeaderText call.key && isHeaderText settings.apiVersion) then
    .error (.request "builder error: failed to parse header value")
  else
    .ok {
      endpoint := settings.endpoint
      headers := [
        ("x-api-key", call.key),
        ("anthropic-version", settings.apiVersion),
        ("content-type", "application/json"),
        ("user-agent", userAgent)]
      body := payload call }

end Request

namespace Answer

open Document

/-- How much of the body of a refusal is kept. -/
def bodyLimit : Nat := 320

def shortened (text : String) : String :=
  if text.toList.length ≤ bodyLimit then text else Text.firstChars bodyLimit text ++ "…"

/-- The text of a part of the answer, if it is one of text. -/
def partText? (v : Json) : Option (Option String) := do
  match ← record? ["type", "text"] v with
  | [kind, text] =>
    let kind ← required text? kind
    let text ← optional text? text
    return if kind = "text" then text else none
  | _ => none

def tokens? (v : Json) : Option (Nat × Nat) := do
  match ← record? ["input_tokens", "output_tokens"] v with
  | [input, output] => return (← required (natural? 64) input, ← required (natural? 64) output)
  | _ => none

/-- The completion in the body of an answer: its texts, a line break between two. -/
def completion? (body : String) : Option Completion := do
  match ← record? ["content", "usage"] (← Json.parse? body) with
  | [content, usage] =>
    let texts ← required (listOf partText?) content
    let (input, output) ← required tokens? usage
    return ⟨Text.joinLines (texts.filterMap id), input, output⟩
  | _ => none

/-- What an answer stands for. -/
def outcome (a : Answer) : Except Fault Completion :=
  if a.status / 100 = 2 then
    match completion? a.body with
    | some c => .ok c
    | none => .error (.decode "unexpected body")
  else .error (.status a.status (shortened a.body))

end Answer

/-! ## The network -/

/-- A network: for each request of a dialogue the time it takes, and the answer if
the request gets through. -/
abbrev Network := Nat → Request → Nat × Option Answer

/-- The network on which nothing gets through. -/
def Network.none : Network := fun _ _ => (0, .none)

def Network.reply (network : Network) (k : Nat) (r : Request) : Reply :=
  match network k r with
  | (delay, some answer) => ⟨delay, answer.outcome⟩
  | (delay, .none) => ⟨delay, .error (.transport ("no answer from " ++ r.endpoint))⟩

/-- The service that is reached over a network. -/
def RequestSettings.service (settings : RequestSettings) (network : Network) : Service :=
  fun k call =>
    match Request.ofCall settings call with
    | .ok request => network.reply k request
    | .error fault => ⟨0, .error fault⟩

end Screenplay
