/-
Which tier a test case goes to and what that costs. A case goes to the capable
tier when it is long or when its text has one of the complexity keywords. What
a call costs follows from its token counts; before a call, the prompt counts one
token for every four characters, the last ones rounded up. The time at which a
call was billed (`recorded_at`) comes from a clock and is left out.
-/
import Screenplay.Config.Basic
import Screenplay.Generation.Prompt
import Screenplay.Text.Case

namespace Screenplay

/-! ## Tiers -/

/-- The description and the steps, each in lower case. -/
def Case.complexityText (c : Case) : String :=
  Text.join " " (Text.lower c.description :: c.steps.map Text.lower)

def TierPolicy.tier (p : TierPolicy) (c : Case) : Tier :=
  if p.maxFastSteps < c.steps.length || p.maxFastAssertions < c.assertions.length then .capable
  else if p.complexityKeywords.any fun k => Text.contains c.complexityText (Text.lower k) then
    .capable
  else .fast

/-! ## Prices -/

/-- The price in dollars of a call with these token counts. -/
def Rates.cost (r : Rates) (inputTokens outputTokens : Nat) : Float :=
  Float.ofNat inputTokens / 1000000.0 * r.input + Float.ofNat outputTokens / 1000000.0 * r.output

def charsPerToken : Nat := 4

/-- How many tokens a text is taken for. -/
def tokenCount (text : String) : Nat :=
  (text.toList.length + (charsPerToken - 1)) / charsPerToken

/-- What a call is expected to cost, or what it has cost. -/
structure Usage where
  tier : Tier
  model : String
  inputTokens : Nat
  outputTokens : Nat
  cost : Float
  deriving Repr

/-- The usage of a call at a tier with these token counts. -/
def Pricing.usage (p : Pricing) (tier : Tier) (inputTokens outputTokens : Nat) : Usage where
  tier := tier
  model := (p.rates tier).model
  inputTokens := inputTokens
  outputTokens := outputTokens
  cost := (p.rates tier).cost inputTokens outputTokens

/-- What a case is expected to cost. -/
def Config.estimate (config : Config) (c : Case) : Usage :=
  config.pricing.usage (config.tiers.tier c) (tokenCount (Prompt.ofCase c))
    config.request.assumedOutputTokens

def Usage.members (u : Usage) : List (String × Json) := [
  ("tier", .string u.tier.name),
  ("model", .string u.model),
  ("cost_usd", .float u.cost),
  ("input_tokens", .nat u.inputTokens),
  ("output_tokens", .nat u.outputTokens)]

def Usage.toJson (u : Usage) : Json := .object u.members

end Screenplay
