/-
The settings of the program, in sections. Every section and every setting may
be left out and then has its default, except that the rates of a tier are given
whole or not at all.
-/
import Screenplay.Document

namespace Screenplay

/-- The two tiers of models. -/
inductive Tier
  | fast
  | capable
  deriving Repr, DecidableEq

def Tier.name : Tier → String
  | fast => "fast"
  | capable => "capable"

/-- The model of a tier, with its price in dollars for a million tokens. -/
structure Rates where
  model : String
  input : Float
  output : Float
  deriving Repr, BEq

/-- Up to which size, and without which keywords, a case goes to the fast tier. -/
structure TierPolicy where
  maxFastSteps : Nat := 3
  maxFastAssertions : Nat := 3
  complexityKeywords : List String := [
    "conditional", "loop", "dynamic", "multiple", "animation timing", "state management",
    "complex"]
  deriving Repr, BEq

structure Pricing where
  fast : Rates := ⟨"claude-haiku-4-5", 1.0, 5.0⟩
  capable : Rates := ⟨"claude-sonnet-4-5", 3.0, 15.0⟩
  deriving Repr, BEq

def Pricing.rates (p : Pricing) : Tier → Rates
  | .fast => p.fast
  | .capable => p.capable

/-- How often a call is made, and how long to wait in between, in milliseconds. -/
structure RetryPolicy where
  maxAttempts : Nat := 3
  initialBackoff : Nat := 500
  maxBackoff : Nat := 8000
  multiplier : Float := 2.0
  deriving Repr, BEq

/-- How a call is made. The timeout is in seconds. -/
structure RequestSettings where
  endpoint : String := "https://api.anthropic.com/v1/messages"
  apiVersion : String := "2023-06-01"
  maxTokens : Nat := 4096
  timeout : Nat := 60
  assumedOutputTokens : Nat := 1500
  deriving Repr, BEq

structure Config where
  threshold : Float := 0.7
  tiers : TierPolicy := {}
  pricing : Pricing := {}
  retry : RetryPolicy := {}
  request : RequestSettings := {}
  concurrency : Nat := 4
  deriving Repr, BEq

/-! ## Reading -/

section

open Document

variable {α : Type} [Document α]

def Rates.read? (v : α) : Option Rates := do
  match ← record? ["model", "input_per_million", "output_per_million"] v with
  | [model, input, output] =>
    return ⟨← required text? model, ← required real? input, ← required real? output⟩
  | _ => none

def TierPolicy.read? (v : α) : Option TierPolicy := do
  let d : TierPolicy := {}
  match ← record? ["max_fast_steps", "max_fast_assertions", "complexity_keywords"] v with
  | [steps, assertions, keywords] =>
    return {
      maxFastSteps := ← defaulting (natural? 64) d.maxFastSteps steps
      maxFastAssertions := ← defaulting (natural? 64) d.maxFastAssertions assertions
      complexityKeywords := ← defaulting (listOf text?) d.complexityKeywords keywords }
  | _ => none

def Pricing.read? (v : α) : Option Pricing := do
  let d : Pricing := {}
  match ← record? ["fast", "capable"] v with
  | [fast, capable] =>
    return ⟨← defaulting Rates.read? d.fast fast, ← defaulting Rates.read? d.capable capable⟩
  | _ => none

def RetryPolicy.read? (v : α) : Option RetryPolicy := do
  let d : RetryPolicy := {}
  match ← record? ["max_attempts", "initial_backoff_ms", "max_backoff_ms", "multiplier"] v with
  | [attempts, initial, most, multiplier] =>
    return {
      maxAttempts := ← defaulting (natural? 32) d.maxAttempts attempts
      initialBackoff := ← defaulting (natural? 64) d.initialBackoff initial
      maxBackoff := ← defaulting (natural? 64) d.maxBackoff most
      multiplier := ← defaulting real? d.multiplier multiplier }
  | _ => none

def RequestSettings.read? (v : α) : Option RequestSettings := do
  let d : RequestSettings := {}
  match ← record?
      ["endpoint", "api_version", "max_tokens", "timeout_secs", "assumed_output_tokens"] v with
  | [endpoint, version, tokens, timeout, assumed] =>
    return {
      endpoint := ← defaulting text? d.endpoint endpoint
      apiVersion := ← defaulting text? d.apiVersion version
      maxTokens := ← defaulting (natural? 32) d.maxTokens tokens
      timeout := ← defaulting (natural? 64) d.timeout timeout
      assumedOutputTokens := ← defaulting (natural? 64) d.assumedOutputTokens assumed }
  | _ => none

/-- A section with one setting. -/
def readSingle? {β : Type} (name : String) (read : α → Option β) (value : β) (v : α) :
    Option β := do
  match ← record? [name] v with
  | [setting] => defaulting read value setting
  | _ => none

def Config.read? (v : α) : Option Config := do
  let d : Config := {}
  match ← record? ["selection", "tiers", "pricing", "retry", "request", "batch"] v with
  | [selection, tiers, pricing, retry, request, batch] =>
    return {
      threshold :=
        ← defaulting (readSingle? "default_threshold" real? d.threshold) d.threshold selection
      tiers := ← defaulting TierPolicy.read? d.tiers tiers
      pricing := ← defaulting Pricing.read? d.pricing pricing
      retry := ← defaulting RetryPolicy.read? d.retry retry
      request := ← defaulting RequestSettings.read? d.request request
      concurrency :=
        ← defaulting (readSingle? "concurrency" (natural? 64) d.concurrency) d.concurrency batch }
  | _ => none

end

/-! ## Writing -/

def Rates.toJson (r : Rates) : Json :=
  .object [("model", .string r.model), ("input_per_million", .float r.input),
    ("output_per_million", .float r.output)]

/-- The settings in their order, section by section. -/
def Config.toJson (c : Config) : Json :=
  .object [
    ("selection", .object [("default_threshold", .float c.threshold)]),
    ("tiers", .object [
      ("max_fast_steps", .nat c.tiers.maxFastSteps),
      ("max_fast_assertions", .nat c.tiers.maxFastAssertions),
      ("complexity_keywords", .ofStrings c.tiers.complexityKeywords)]),
    ("pricing", .object [
      ("fast", c.pricing.fast.toJson),
      ("capable", c.pricing.capable.toJson)]),
    ("retry", .object [
      ("max_attempts", .nat c.retry.maxAttempts),
      ("initial_backoff_ms", .nat c.retry.initialBackoff),
      ("max_backoff_ms", .nat c.retry.maxBackoff),
      ("multiplier", .float c.retry.multiplier)]),
    ("request", .object [
      ("endpoint", .string c.request.endpoint),
      ("api_version", .string c.request.apiVersion),
      ("max_tokens", .nat c.request.maxTokens),
      ("timeout_secs", .nat c.request.timeout),
      ("assumed_output_tokens", .nat c.request.assumedOutputTokens)]),
    ("batch", .object [("concurrency", .nat c.concurrency)])]

end Screenplay
