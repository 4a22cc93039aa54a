/-
The vocabulary of each flow. A keyword has a weight, a pattern is the keywords
of one flow, a catalog is a list of patterns with a threshold for those that
have none of their own. Weights are floats when the program runs; scoring needs
of them only what `Measure` lists, so it can also be read over exact fractions.
-/
import Screenplay.Spec.Basic
import Screenplay.Text.Case

namespace Screenplay

/-- The arithmetic of weights and scores. -/
class Measure (W : Type) where
  zero : W
  one : W
  add : W → W → W
  div : W → W → W
  lt : W → W → Bool
  le : W → W → Bool

instance : Measure Float where
  zero := 0.0
  one := 1.0
  add := (· + ·)
  div := (· / ·)
  lt a b := a < b
  le a b := a <= b

namespace Measure

variable {W : Type} [Measure W]

/-- The sum of a list, added up from the left. -/
def sum (l : List W) : W := l.foldl add zero

/-- A weight below zero, or one that is no number, counts as zero. -/
def clamped (w : W) : W := if lt zero w then w else zero

end Measure

/-! ## Catalogs -/

structure Keyword (W : Type) where
  term : String
  weight : W
  deriving Repr

/-- The keywords of a flow, with the threshold of its score if it has its own. -/
structure Pattern (W : Type) where
  flow : Flow
  keywords : List (Keyword W)
  threshold : Option W
  deriving Repr

structure Catalog (W : Type) where
  patterns : List (Pattern W)
  defaultThreshold : W
  deriving Repr

namespace Pattern

variable {W : Type} [Measure W]

/-- A pattern with its terms in lower case and no weight below zero. -/
def ofTerms (flow : Flow) (terms : List (String × W)) (threshold : Option W) : Pattern W where
  flow := flow
  keywords := terms.map fun (term, weight) => ⟨Text.lower term, Measure.clamped weight⟩
  threshold := threshold

def totalWeight (p : Pattern W) : W := Measure.sum (p.keywords.map (·.weight))

end Pattern

namespace Catalog

variable {W : Type}

def thresholdFor (c : Catalog W) (p : Pattern W) : W := p.threshold.getD c.defaultThreshold

/-- The first pattern of a flow. -/
def pattern? (c : Catalog W) (flow : Flow) : Option (Pattern W) :=
  c.patterns.find? (·.flow == flow)

/-- The threshold of a flow, also of one without a pattern. -/
def thresholdOf (c : Catalog W) (flow : Flow) : W :=
  match c.pattern? flow with
  | some p => c.thresholdFor p
  | none => c.defaultThreshold

/-! ## The built-in catalog -/

def builtinPatterns : List (Pattern Float) := [
  .ofTerms .formSubmission
    [("form", 3.0), ("submit", 3.0), ("fill", 2.0), ("field", 1.0), ("success", 1.0)] none,
  .ofTerms .navigation
    [("navigate", 3.0), ("link", 2.0), ("url", 2.0), ("click", 1.0), ("page", 1.0),
      ("redirect", 1.0)] none,
  .ofTerms .modalDialog
    [("modal", 3.0), ("dialog", 2.0), ("open", 2.0), ("close", 2.0), ("overlay", 1.0)] (some 0.6),
  .ofTerms .listFilter
    [("filter", 3.0), ("search", 3.0), ("list", 2.0), ("results", 2.0), ("empty", 1.0),
      ("sort", 1.0)] none,
  .ofTerms .authFlow
    [("login", 3.0), ("password", 3.0), ("sign in", 2.0), ("logout", 2.0), ("email", 1.0),
      ("session", 1.0)] (some 0.65)]

def builtin (defaultThreshold : Float) : Catalog Float := ⟨builtinPatterns, defaultThreshold⟩

end Catalog

/-! ## Reading and writing -/

open Document

def Keyword.read? (v : Json) : Option (Keyword Float) := do
  match ← record? ["term", "weight"] v with
  | [term, weight] => return ⟨← required text? term, ← required real? weight⟩
  | _ => none

def Pattern.read? (v : Json) : Option (Pattern Float) := do
  match ← record? ["id", "keywords", "threshold"] v with
  | [flow, keywords, threshold] =>
    return {
      flow := ← required (fun v => enumName? v >>= Flow.named?) flow
      keywords := ← required (listOf Keyword.read?) keywords
      threshold := ← optional real? threshold }
  | _ => none

/-- A catalog taken as it is written. -/
def Catalog.read? (v : Json) : Option (Catalog Float) := do
  match ← record? ["patterns", "default_threshold"] v with
  | [patterns, threshold] =>
    return ⟨← required (listOf Pattern.read?) patterns, ← required real? threshold⟩
  | _ => none

def Keyword.toJson (k : Keyword Float) : Json :=
  .object [("term", .string k.term), ("weight", .float k.weight)]

def Pattern.toJson (p : Pattern Float) : Json :=
  .objectOf [
    ("id", some (.string p.flow.id)),
    ("keywords", some (.array (p.keywords.map Keyword.toJson))),
    ("threshold", p.threshold.map .float)]

end Screenplay
