/-
Choosing a template for a test case. The score of a pattern is the weight of
its keywords that occur in the case, as a fraction of all its weight. The
pattern with the highest score is chosen, the earlier one of two alike, and its
template is used when the score reaches the pattern's threshold. A hint of the
author goes before all scores.
-/
import Screenplay.Selection.Catalog
import Screenplay.Number.Format

namespace Screenplay

/-- How well a pattern fits a case. -/
structure Score (W : Type) where
  flow : Flow
  value : W
  matched : List String
  threshold : W
  deriving Repr

/-- What a choice rests on. -/
inductive MatchSource
  /-- The hint names a template. -/
  | explicit
  /-- The hint forbids templates. -/
  | forced
  | scored
  deriving Repr, DecidableEq

def MatchSource.name : MatchSource → String
  | explicit => "explicit"
  | forced => "forced-generative"
  | scored => "scored"

/-- The choice for one case. -/
structure Match (W : Type) where
  score : Score W
  usesTemplate : Bool
  source : MatchSource
  deriving Repr

def Match.flow {W : Type} (m : Match W) : Flow := m.score.flow

/-! ## Scores -/

/-- The texts of a case that are searched for keywords. -/
def Case.texts (c : Case) : List String := [c.name, c.description] ++ c.steps ++ c.assertions

/-- All texts of a case as one, in lower case. -/
def Case.searchText (c : Case) : String := Text.lower (Text.join " " c.texts)

section

variable {W : Type} [Measure W]

/-- The fraction of a whole, nothing if the whole is nothing. -/
def Measure.fraction (part whole : W) : W :=
  if lt (zero : W) whole then div part whole else zero

/-- The keywords of a pattern that occur in a text. -/
def Pattern.found (p : Pattern W) (text : String) : List (Keyword W) :=
  p.keywords.filter fun k => Text.contains text k.term

def Pattern.value (p : Pattern W) (text : String) : W :=
  Measure.fraction (Measure.sum ((p.found text).map (·.weight))) p.totalWeight

def Catalog.score (c : Catalog W) (text : String) (p : Pattern W) : Score W where
  flow := p.flow
  value := p.value text
  matched := (p.found text).map (·.term)
  threshold := c.thresholdFor p

/-- Puts a score into a list, the lowest first, before those that are not lower. -/
def Score.place (s : Score W) : List (Score W) → List (Score W)
  | [] => [s]
  | t :: ts => if Measure.lt t.value s.value then t :: place s ts else s :: t :: ts

/-- Scores from the highest to the lowest; those alike keep their order. -/
def Score.ranked (scores : List (Score W)) : List (Score W) :=
  (scores.foldl (fun placed s => s.place placed) []).reverse

/-- The score of every pattern, the highest first. -/
def Catalog.scores (c : Catalog W) (test : Case) : List (Score W) :=
  Score.ranked (c.patterns.map (c.score test.searchText))

/-! ## The choice -/

/-- The flow that is named when nothing is scored. -/
def Catalog.firstFlow (c : Catalog W) : Flow :=
  match c.patterns with
  | p :: _ => p.flow
  | [] => .formSubmission

def Catalog.best (c : Catalog W) (test : Case) : Match W :=
  match c.scores test with
  | s :: _ => ⟨s, Measure.le s.threshold s.value, .scored⟩
  | [] => ⟨⟨.formSubmission, Measure.zero, [], c.defaultThreshold⟩, false, .scored⟩

def Catalog.select (c : Catalog W) (test : Case) : Match W :=
  match test.hint with
  | some (.flow f) => ⟨⟨f, Measure.one, [], c.thresholdOf f⟩, true, .explicit⟩
  | some .generative =>
    ⟨⟨c.firstFlow, Measure.zero, [], c.thresholdOf c.firstFlow⟩, false, .forced⟩
  | none => c.best test

end

/-! ## In words -/

/-- Why the choice is as it is. -/
def Match.explain (m : Match Float) : String :=
  let skipped := "(scoring skipped)"
  let score := Number.percent m.score.value
  let threshold := Number.percent m.score.threshold
  let matched := if m.score.matched.isEmpty then "none" else Text.join ", " m.score.matched
  let keywords := "(matched keywords: " ++ matched ++ ")"
  match m.source with
  | .explicit =>
    "Using template '" ++ m.flow.id ++ "': selected by explicit template hint " ++ skipped
  | .forced =>
    "Escalating to generative synthesis: template hint forces generation " ++ skipped
  | .scored =>
    if m.usesTemplate then
      "Using template '" ++ m.flow.id ++ "': score " ++ score ++ " meets threshold " ++ threshold ++
        " " ++ keywords
    else
      "Escalating to generative synthesis: best template '" ++ m.flow.id ++ "' scored " ++ score ++
        ", below threshold " ++ threshold ++ " " ++ keywords

def Score.toJson (s : Score Float) : Json :=
  .object [
    ("template", .string s.flow.id),
    ("score", .float s.value),
    ("matched_keywords", .ofStrings s.matched),
    ("threshold", .float s.threshold)]

def Match.toJson (m : Match Float) : Json :=
  .object [
    ("template", .string m.flow.id),
    ("score", .float m.score.value),
    ("matched_keywords", .ofStrings m.score.matched),
    ("threshold", .float m.score.threshold),
    ("should_use_template", .bool m.usesTemplate),
    ("source", .string m.source.name)]

end Screenplay
