/-
The settings as a TOML file.
-/
import Screenplay.Config.Check
import Screenplay.Toml.Reader
import Screenplay.Toml.Writer

namespace Screenplay

/-- Why settings could not be loaded. -/
inductive LoadFault
  | unreadable
  | unusable (fault : ConfigFault)
  deriving Repr

namespace Config

/-- A table under a header. -/
def headed (members : List (String × Toml)) : Toml := .table .header members

def ratesTable (r : Rates) : Toml :=
  headed [("model", .string r.model), ("input_per_million", .float r.input),
    ("output_per_million", .float r.output)]

def toTable (c : Config) : Toml :=
  headed [
    ("selection", headed [("default_threshold", .float c.threshold)]),
    ("tiers", headed [
      ("max_fast_steps", .integer c.tiers.maxFastSteps),
      ("max_fast_assertions", .integer c.tiers.maxFastAssertions),
      ("complexity_keywords", .array false (c.tiers.complexityKeywords.map .string))]),
    ("pricing", headed [
      ("fast", ratesTable c.pricing.fast),
      ("capable", ratesTable c.pricing.capable)]),
    ("retry", headed [
      ("max_attempts", .integer c.retry.maxAttempts),
      ("initial_backoff_ms", .integer c.retry.initialBackoff),
      ("max_backoff_ms", .integer c.retry.maxBackoff),
      ("multiplier", .float c.retry.multiplier)]),
    ("request", headed [
      ("endpoint", .string c.request.endpoint),
      ("api_version", .string c.request.apiVersion),
      ("max_tokens", .integer c.request.maxTokens),
      ("timeout_secs", .integer c.request.timeout),
      ("assumed_output_tokens", .integer c.request.assumedOutputTokens)]),
    ("batch", headed [("concurrency", .integer c.concurrency)])]

/-- The file with these settings; there is none when a number is too large. -/
def print? (c : Config) : Option String := Toml.print? c.toTable

/-- The settings in the text of a file. -/
def parse? (text : String) : Option Config := do Config.read? (← Toml.document? text)

/-- The settings of a file that may be missing, checked. -/
def load (file : Option String) : Except LoadFault Config :=
  match file with
  | none => .ok {}
  | some text =>
    match parse? text with
    | none => .error .unreadable
    | some c =>
      match c.check with
      | .ok c => .ok c
      | .error fault => .error (.unusable fault)

end Config

end Screenplay
