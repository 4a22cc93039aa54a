/-
Which settings are accepted. The threshold has to be in its range, while a rate or the multiplier
only must not be below its least value. Numbers cannot tell the two apart, but NaN is not below
anything (`Number.not_lt_iff`). So settings are accepted just when they are usable but for rates and
a multiplier that are no numbers (`check_accepts`), and a file can give such settings (`load_nan`).
-/
import Screenplay.Config.File
import Screenplay.Proofs.Number.Order

namespace Screenplay.Config

/-- The settings are in their ranges; `Reaches` says what a rate and the multiplier need for their least values. -/
structure InRange (Reaches : (least x : Float) → Prop) (c : Config) : Prop where
  threshold : 0.0 ≤ c.threshold ∧ c.threshold ≤ 1.0
  models : ∀ tier, Text.isVacant (c.pricing.rates tier).model = false
  rates : ∀ tier, Reaches 0.0 (c.pricing.rates tier).input ∧ Reaches 0.0 (c.pricing.rates tier).output
  attempts : 0 < c.retry.maxAttempts
  multiplier : Reaches 1.0 c.retry.multiplier
  timeout : 0 < c.request.timeout
  concurrency : 0 < c.concurrency

/-- All settings are in their ranges, by comparisons that are false of NaN. -/
def Usable (c : Config) : Prop := c.InRange fun least x => least ≤ x

/-- The settings are usable, but for rates and a multiplier that are no numbers. -/
def Tolerable (c : Config) : Prop := c.InRange fun least x => x.isNaN = true ∨ least ≤ x

variable {c accepted : Config}

theorem InRange.mono {Reaches Reaches' : Float → Float → Prop} (hrate : ∀ x, Reaches 0.0 x → Reaches' 0.0 x)
    (hmultiplier : ∀ x, Reaches 1.0 x → Reaches' 1.0 x) (h : c.InRange Reaches) : c.InRange Reaches' where
  threshold := h.threshold
  models := h.models
  rates tier := (h.rates tier).imp (hrate _) (hrate _)
  attempts := h.attempts
  multiplier := hmultiplier _ h.multiplier
  timeout := h.timeout
  concurrency := h.concurrency

/-! ## Faults -/

theorem rateFaults_eq_nil_iff {tier : Tier} {r : Rates} :
    rateFaults tier r = [] ↔ Text.isVacant r.model = false ∧ ¬ r.input < 0.0 ∧ ¬ r.output < 0.0 := by
  simp [rateFaults]

theorem faults_eq_nil_iff : c.faults = [] ↔ c.InRange fun least x => ¬ x < least := by
  simp only [faults, List.append_eq_nil_iff, rateFaults_eq_nil_iff]
  simp only [Bool.and_eq_true, decide_eq_true_iff, ite_eq_left_iff, ite_eq_right_iff, reduceCtorEq, imp_false,
    not_not, ← Nat.pos_iff_ne_zero]
  constructor
  · rintro ⟨⟨⟨⟨⟨⟨ht, hfast, hfastRates⟩, hcapable, hcapableRates⟩, ha⟩, hm⟩, ho⟩, hc⟩
    exact ⟨ht, fun tier => by cases tier <;> assumption, fun tier => by cases tier <;> assumption, ha, hm, ho, hc⟩
  · rintro ⟨ht, hmodels, hrates, ha, hm, ho, hc⟩
    exact ⟨⟨⟨⟨⟨⟨ht, hmodels .fast, hrates .fast⟩, hmodels .capable, hrates .capable⟩, ha⟩, hm⟩, ho⟩, hc⟩

/-- Nothing is found wrong just with tolerable settings. -/
theorem tolerable_iff : c.Tolerable ↔ c.faults = [] := by
  rw [faults_eq_nil_iff]
  have hzero (x : Float) : ¬ x < 0.0 ↔ x.isNaN = true ∨ 0.0 ≤ x := Number.not_lt_iff rfl
  have hone (x : Float) : ¬ x < 1.0 ↔ x.isNaN = true ∨ 1.0 ≤ x := Number.not_lt_iff rfl
  exact ⟨.mono (fun x => (hzero x).2) fun x => (hone x).2, .mono (fun x => (hzero x).1) fun x => (hone x).1⟩

theorem check_eq_ok_iff : c.check = .ok accepted ↔ accepted = c ∧ c.Tolerable := by
  rw [tolerable_iff, check]
  split
  · next hnone => simp [hnone, eq_comm]
  · next hfault => simp [hfault]

/-! ## Files -/

theorem load_eq_ok_iff {text : String} :
    load (some text) = .ok accepted ↔ parse? text = some accepted ∧ accepted.Tolerable := by
  rw [load]
  cases hparse : parse? text with
  | none => exact iff_of_false nofun fun h => nomatch h.1
  | some c =>
    dsimp only
    rw [Option.some_inj]
    constructor
    · intro h
      cases hcheck : c.check with
      | error fault => rw [hcheck] at h; cases h
      | ok checked =>
        obtain ⟨rfl, htolerable⟩ := check_eq_ok_iff.1 hcheck
        rw [hcheck] at h
        cases h
        exact ⟨rfl, htolerable⟩
    · rintro ⟨rfl, htolerable⟩
      rw [check_eq_ok_iff.2 ⟨rfl, htolerable⟩]

theorem usable_iff : c.Usable ↔ c.Tolerable ∧ c.retry.multiplier.isNaN = false ∧
    ∀ tier, (c.pricing.rates tier).input.isNaN = false ∧ (c.pricing.rates tier).output.isNaN = false := by
  constructor
  · intro h
    exact ⟨h.mono (fun _ => .inr) fun _ => .inr, Number.isNaN_of_le h.multiplier,
      fun tier => (h.rates tier).imp Number.isNaN_of_le Number.isNaN_of_le⟩
  · rintro ⟨htolerable, hmultiplier, hrates⟩
    have hnumber {least x : Float} (hx : x.isNaN = false) (h : x.isNaN = true ∨ least ≤ x) : least ≤ x :=
      h.resolve_left (Bool.eq_false_iff.1 hx)
    exact { htolerable with
      rates := fun tier => (htolerable.rates tier).imp (hnumber (hrates tier).1) (hnumber (hrates tier).2)
      multiplier := hnumber hmultiplier htolerable.multiplier }

theorem usable_default : Usable {} where
  threshold := by decide +kernel
  models tier := by cases tier <;> decide +kernel
  rates tier := by cases tier <;> decide +kernel
  attempts := by decide
  multiplier := by decide +kernel
  timeout := by decide
  concurrency := by decide

/-- **Settings are accepted just when they are tolerable**, whether they are given or come from a file, and those that
hold without a file are usable. Usable settings are tolerable, and tolerable settings are usable unless a rate or the
multiplier is no number. -/
theorem check_accepts (c : Config) :
    (∀ accepted : Config, c.check = .ok accepted ↔ accepted = c ∧ c.Tolerable) ∧
    (∀ text : String, load (some text) = .ok c ↔ parse? text = some c ∧ c.Tolerable) ∧
    load none = .ok {} ∧ Usable {} ∧
    (c.Usable ↔ c.Tolerable ∧ c.retry.multiplier.isNaN = false ∧
      ∀ tier, (c.pricing.rates tier).input.isNaN = false ∧ (c.pricing.rates tier).output.isNaN = false) :=
  ⟨fun _ => check_eq_ok_iff, fun _ => load_eq_ok_iff, rfl, usable_default, usable_iff⟩

/-- A file that is accepted, with a rate and a multiplier that reach nothing. -/
theorem load_nan :
    let text := "[pricing.fast]\nmodel = 'small'\ninput_per_million = nan\noutput_per_million = 5.0\n\n" ++
      "[retry]\nmultiplier = nan\n"
    ∃ c : Config, load (some text) = .ok c ∧ ¬ 0.0 ≤ c.pricing.fast.input ∧ ¬ 1.0 ≤ c.retry.multiplier ∧
      ¬ c.Usable := by
  intro text
  have hread : (match load (some text) with
      | .ok c => c.pricing.fast.input.isNaN && c.retry.multiplier.isNaN
      | .error _ => false) = true := by
    decide +kernel
  have hreach {least x : Float} (hx : x.isNaN = true) (h : least ≤ x) : False := by
    rw [Number.isNaN_of_le h] at hx
    cases hx
  cases hload : load (some text) with
  | error fault =>
    rw [hload] at hread
    cases hread
  | ok c =>
    rw [hload, Bool.and_eq_true] at hread
    exact ⟨c, rfl, hreach hread.1, hreach hread.2, fun h => hreach hread.2 h.multiplier⟩

end Screenplay.Config
