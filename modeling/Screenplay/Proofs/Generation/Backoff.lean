/-
How the pauses grow. A power by repeated squaring rounds after each of its products,
and two exponents take their products in different order; still a greater exponent
has no smaller power (`ordered_multiplyPowers_succ`): what the digits of the smaller
one have gathered, up to a place where they are all ones, is at most the square that
stands at that place. The pauses follow the powers, up to the longest that is allowed
(`backoff_grows`), but for the retry at which the exponent runs over to the negative.
-/
import Screenplay.Config.Check
import Screenplay.Generation.Retry
import Screenplay.Proofs.Number.Magnitude

namespace Screenplay

open Number
open scoped ENNReal

/-! ## Powers -/

theorem multiplyPowers_zero (r b : Float) : multiplyPowers r b 0 = r := by
  rw [multiplyPowers]
  rfl

theorem multiplyPowers_even (r b : Float) (k : ℕ) :
    multiplyPowers r b (2 * k) = multiplyPowers r (b * b) k := by
  have hmod : 2 * k % 2 ≠ 1 := by omega
  rw [multiplyPowers, if_neg hmod]
  rcases Nat.eq_zero_or_pos k with rfl | hk
  · exact (multiplyPowers_zero _ _).symm
  · have hdiv : 2 * k / 2 = k := by omega
    rw [dif_neg (by omega), hdiv]

theorem multiplyPowers_odd (r b : Float) (k : ℕ) :
    multiplyPowers r b (2 * k + 1) = multiplyPowers (r * b) (b * b) k := by
  have hmod : (2 * k + 1) % 2 = 1 := by omega
  rw [multiplyPowers, if_pos hmod]
  rcases Nat.eq_zero_or_pos k with rfl | hk
  · exact (multiplyPowers_zero _ _).symm
  · have hdiv : (2 * k + 1) / 2 = k := by omega
    rw [dif_neg (by omega), hdiv]

/-- The floats have magnitudes of at least one, in this order. -/
def Ordered (x y : Float) : Prop := ∃ v w, Worth x v ∧ Worth y w ∧ 1 ≤ v ∧ v ≤ w

namespace Ordered

variable {a b c d : Float}

theorem left (h : Ordered a b) : Ordered a a := by
  obtain ⟨v, -, hv, -, hone, -⟩ := h
  exact ⟨v, v, hv, hv, hone, le_rfl⟩

theorem right (h : Ordered a b) : Ordered b b := by
  obtain ⟨v, w, -, hw, hone, hle⟩ := h
  exact ⟨w, w, hw, hw, hone.trans hle, le_rfl⟩

theorem one_le_nearest {v : ℝ≥0∞} (h : 1 ≤ v) : 1 ≤ nearest v :=
  worth_one.nearest.ge.trans (nearest_mono h)

theorem worth_mul {v w : ℝ≥0∞} (ha : Worth a v) (hb : Worth b w) (hv : 1 ≤ v) (hw : 1 ≤ w) :
    Worth (a * b) (nearest (v * w)) :=
  ha.mul hb (fun h => absurd hv (by simp [h])) (fun h => absurd hw (by simp [h]))

theorem mul (h : Ordered a b) (h' : Ordered c d) : Ordered (a * c) (b * d) := by
  obtain ⟨v, w, hv, hw, hone, hle⟩ := h
  obtain ⟨v', w', hv', hw', hone', hle'⟩ := h'
  exact ⟨_, _, worth_mul hv hv' hone hone', worth_mul hw hw' (hone.trans hle) (hone'.trans hle'),
    one_le_nearest (one_le_mul hone hone'), nearest_mono (mul_le_mul' hle hle')⟩

theorem le_one_mul (h : Ordered a b) : Ordered a (1.0 * b) := by
  obtain ⟨v, w, hv, hw, hone, hle⟩ := h
  have hmul := worth_mul worth_one hw le_rfl (hone.trans hle)
  rw [one_mul, hw.nearest] at hmul
  exact ⟨v, w, hv, hmul, hone, hle⟩

end Ordered

theorem ordered_multiplyPowers {r r' b b' : Float} (hr : Ordered r r') (hb : Ordered b b') (n : ℕ) :
    Ordered (multiplyPowers r b n) (multiplyPowers r' b' n) := by
  induction n using Nat.evenOddRec generalizing r r' b b' with
  | h0 => rwa [multiplyPowers_zero, multiplyPowers_zero]
  | h_even k ih =>
    rw [multiplyPowers_even, multiplyPowers_even]
    exact ih hr (hb.mul hb)
  | h_odd k ih =>
    rw [multiplyPowers_odd, multiplyPowers_odd]
    exact ih (hr.mul hb) (hb.mul hb)

/-- **A greater exponent has no smaller power.** Where the digits of the two differ, the smaller exponent has
ones and the greater one has zeros; `r` is what the ones have gathered. -/
theorem ordered_multiplyPowers_succ {r b : Float} (h : Ordered r b) (n : ℕ) :
    Ordered (multiplyPowers r b n) (multiplyPowers 1.0 b (n + 1)) := by
  induction n using Nat.evenOddRec generalizing r b with
  | h0 =>
    rw [multiplyPowers_zero, multiplyPowers_odd 1.0 b 0, multiplyPowers_zero]
    exact h.le_one_mul
  | h_even k _ =>
    rw [multiplyPowers_even, multiplyPowers_odd]
    exact ordered_multiplyPowers h.le_one_mul (h.right.mul h.right) k
  | h_odd k ih =>
    have hnext : 2 * k + 1 + 1 = 2 * (k + 1) := by omega
    rw [hnext, multiplyPowers_odd, multiplyPowers_even]
    exact ih (h.mul h.right)

theorem isNaN_multiplyPowers {r b : Float} (hb : b.isNaN = true) {n : ℕ} (h : r.isNaN = true ∨ n ≠ 0) :
    (multiplyPowers r b n).isNaN = true := by
  induction n using Nat.evenOddRec generalizing r b with
  | h0 =>
    rw [multiplyPowers_zero]
    exact h.resolve_right fun hne => hne rfl
  | h_even k ih =>
    rw [multiplyPowers_even]
    exact ih (isNaN_mul_left hb b) (h.imp_right fun hne => by omega)
  | h_odd k ih =>
    rw [multiplyPowers_odd]
    exact ih (isNaN_mul_left hb b) (.inl (isNaN_mul_right r hb))

theorem power_natCast (b : Float) (n : ℕ) : power b n = multiplyPowers 1.0 b n := by
  rw [power, Int.natAbs_natCast, if_neg (Int.natCast_nonneg n).not_gt]

theorem power_neg (b : Float) {n : ℕ} (hn : 0 < n) : power b (-n) = 1.0 / multiplyPowers 1.0 b n := by
  rw [power, Int.natAbs_neg, Int.natAbs_natCast, if_pos (by omega)]

theorem isNaN_power {b : Float} (hb : b.isNaN = true) {e : ℤ} (he : e ≠ 0) : (power b e).isNaN = true := by
  have hp : (multiplyPowers 1.0 b e.natAbs).isNaN = true :=
    isNaN_multiplyPowers hb (.inr (Int.natAbs_ne_zero.2 he))
  unfold power
  dsimp only
  split_ifs
  · exact isNaN_div_right 1.0 hp
  · exact hp

/-! ## Growth -/

/-- A float that has a magnitude, or is no number. -/
def Counts (x : Float) : Prop := x.isNaN = true ∨ ∃ v, Worth x v

/-- The second float is no number, or has a magnitude that is not smaller than that of the first. -/
def AtMost (x y : Float) : Prop := y.isNaN = true ∨ ∃ v w, Worth x v ∧ Worth y w ∧ v ≤ w

theorem Ordered.counts {x y : Float} (h : Ordered x y) : Counts x := by
  obtain ⟨v, -, hv, -⟩ := h
  exact .inr ⟨v, hv⟩

theorem Ordered.atMost {x y : Float} (h : Ordered x y) : AtMost x y := by
  obtain ⟨v, w, hv, hw, -, hle⟩ := h
  exact .inr ⟨v, w, hv, hw, hle⟩

theorem Ordered.atMost_one_div {x y : Float} (h : Ordered x y) : AtMost (1.0 / y) (1.0 / x) := by
  obtain ⟨v, w, hv, hw, -, hle⟩ := h
  exact .inr ⟨_, _, hw.one_div, hv.one_div, nearest_mono (ENNReal.inv_le_inv.2 hle)⟩

theorem Counts.one_div {x : Float} (h : Counts x) : Counts (1.0 / x) :=
  h.imp (isNaN_div_right 1.0) fun ⟨_, hv⟩ => ⟨_, hv.one_div⟩

theorem Counts.mul {x y : Float} (hx : Counts x) (hy : Counts y) : Counts (x * y) := by
  rcases hx with hx | ⟨v, hx⟩
  · exact .inl (isNaN_mul_left hx y)
  rcases hy with hy | ⟨w, hy⟩
  · exact .inl (isNaN_mul_right x hy)
  by_cases hnone : v = 0 ∧ w = ⊤ ∨ w = 0 ∧ v = ⊤
  · exact .inl (hx.mul_isNaN hy hnone)
  · exact .inr ⟨_, hx.mul hy (fun hv hw => hnone (.inl ⟨hv, hw⟩)) fun hw hv => hnone (.inr ⟨hw, hv⟩)⟩

/-- A base that the settings can have. -/
theorem ordered_of_not_lt_one {b : Float} (hb : ¬ b < 1.0) : b.isNaN = true ∨ Ordered 1.0 b :=
  (worth_of_not_lt_one hb).imp_right fun ⟨v, hone, hv⟩ => ⟨1, v, worth_one, hv, le_rfl, hone⟩

theorem counts_power {b : Float} (hb : ¬ b < 1.0) (e : ℤ) : Counts (power b e) := by
  have hproduct : Counts (multiplyPowers 1.0 b e.natAbs) := by
    rcases ordered_of_not_lt_one hb with hnone | hordered
    · by_cases he : e.natAbs = 0
      · rw [he, multiplyPowers_zero]
        exact .inr ⟨1, worth_one⟩
      · exact .inl (isNaN_multiplyPowers hnone (.inr he))
    · exact (ordered_multiplyPowers hordered.left hordered.right _).counts
  unfold power
  dsimp only
  split_ifs
  · exact hproduct.one_div
  · exact hproduct

/-- **A power grows with its exponent.** The base may be any that the settings can have: one that is not less than
one, or no number, which has no powers but the one with the exponent zero. -/
theorem power_atMost {b : Float} (hb : ¬ b < 1.0) {e : ℤ} (he : e + 1 ≠ 0) :
    AtMost (power b e) (power b (e + 1)) := by
  rcases ordered_of_not_lt_one hb with hnone | hordered
  · exact .inl (isNaN_power hnone he)
  · rcases le_or_gt 0 e with hpos | hneg
    · obtain ⟨n, rfl⟩ := Int.eq_ofNat_of_zero_le hpos
      have h := (ordered_multiplyPowers_succ hordered n).atMost
      rwa [← power_natCast, ← power_natCast] at h
    · obtain ⟨n, rfl⟩ : ∃ n : ℕ, e = -(n + 1 : ℕ) := ⟨(-e - 1).toNat, by omega⟩
      have h := (ordered_multiplyPowers_succ hordered n).atMost_one_div
      rw [← power_neg b (by omega), ← power_neg b (by omega)] at h
      have hnext : -((n + 1 : ℕ) : ℤ) + 1 = -(n : ℤ) := by omega
      rwa [hnext]

theorem AtMost.mul_left {i x y : Float} {v : ℝ≥0∞} (hi : Worth i v) (hfinite : v ≠ ⊤) (h : AtMost x y) :
    AtMost (i * x) (i * y) := by
  rcases h with hnone | ⟨u, w, hx, hy, hle⟩
  · exact .inl (isNaN_mul_right i hnone)
  by_cases hnone : v = 0 ∧ w = ⊤
  · exact .inl (hi.mul_isNaN hy (.inl hnone))
  · have hw : v = 0 → w ≠ ⊤ := fun hv hw => hnone ⟨hv, hw⟩
    exact .inr ⟨_, _, hi.mul hx (fun hv => ne_top_of_le_ne_top (hw hv) hle) fun _ => hfinite,
      hi.mul hy hw fun _ => hfinite, nearest_mono (mul_le_mul_right hle v)⟩

/-! ## The longest pause -/

theorem lesser_of_isNaN {x : Float} (h : x.isNaN = true) (y : Float) : lesser x y = y := if_pos h

theorem worth_lesser {x y : Float} {v w : ℝ≥0∞} (hx : Worth x v) (hy : Worth y w) :
    Worth (lesser x y) (min v w) := by
  have hlt := hy.lt_iff hx
  rw [lesser, hx.isNaN_eq, hy.isNaN_eq, if_neg Bool.false_ne_true, if_neg Bool.false_ne_true]
  split_ifs with h
  · rwa [min_eq_right (hlt.1 h).le]
  · rwa [min_eq_left (not_lt.1 fun h' => h (hlt.2 h'))]

theorem wholePart_eq {x : Float} {v : ℝ≥0∞} (hx : Worth x v) : wholePart x = whole v := hx.toNat_toUInt64

theorem Counts.wholePart_lesser_le {x y : Float} {w : ℝ≥0∞} (hx : Counts x) (hy : Worth y w) :
    wholePart (lesser x y) ≤ wholePart y := by
  rcases hx with hnone | ⟨v, hv⟩
  · rw [lesser_of_isNaN hnone]
  · rw [wholePart_eq (worth_lesser hv hy), wholePart_eq hy]
    exact whole_mono (min_le_right v w)

theorem AtMost.wholePart_lesser_le {x y z : Float} {w : ℝ≥0∞} (h : AtMost x y) (hx : Counts x)
    (hz : Worth z w) : wholePart (lesser x z) ≤ wholePart (lesser y z) := by
  rcases h with hnone | ⟨u, v, hu, hv, hle⟩
  · rw [lesser_of_isNaN hnone]
    exact hx.wholePart_lesser_le hz
  · rw [wholePart_eq (worth_lesser hu hz), wholePart_eq (worth_lesser hv hz)]
    exact whole_mono (min_le_min_right w hle)

/-! ## The pauses -/

/-- The exponent goes up by one from a retry to the next, unless it runs over. -/
theorem exponent_succ {r : ℕ} (hfirst : 1 ≤ r) (hlast : r < 2 ^ 32) (hwrap : r ≠ 2 ^ 31) :
    Int.bmod (r + 1 - 1 : ℕ) (Nat.pow 2 32) = Int.bmod (r - 1 : ℕ) (Nat.pow 2 32) + 1 := by
  have hwidth : Nat.pow 2 32 = 4294967296 := rfl
  rw [hwidth]
  simp only [Int.bmod]
  omega

theorem exponent_ne_zero {r : ℕ} (hfirst : 1 ≤ r) (hlast : r < 2 ^ 32) :
    Int.bmod (r + 1 - 1 : ℕ) (Nat.pow 2 32) ≠ 0 := by
  have hwidth : Nat.pow 2 32 = 4294967296 := rfl
  rw [hwidth]
  simp only [Int.bmod]
  omega

theorem wholePart_ofNat {n : ℕ} (h : n ≤ 2 ^ 53) : wholePart (.ofNat n) = n := by
  rw [wholePart_eq (worth_ofNat n), nearest_natCast h, ← ENNReal.ofReal_natCast,
    whole_ofReal (Nat.cast_nonneg n), Nat.floor_natCast]
  omega

/-- The whole part of a natural of 64 bits is not far from it. -/
theorem wholePart_ofNat_near {n : ℕ} (h : n < 2 ^ 64) :
    wholePart (.ofNat n) ≤ n + 1024 ∧ n ≤ wholePart (.ofNat n) + 1024 := by
  obtain ⟨hlow, hhigh⟩ := abs_le.1 (rounded_natCast_error h)
  have hfloor : ⌊rounded n⌋₊ ≤ n + 1024 := by
    refine Nat.floor_le_of_le ?_
    push_cast
    linarith
  have hfloor' : n ≤ ⌊rounded n⌋₊ + 1024 := by
    have hlt := Nat.lt_floor_add_one (rounded n)
    have hcast : (n : ℝ) < (⌊rounded n⌋₊ + 1024 + 1 : ℕ) := by
      push_cast
      linarith
    exact Nat.lt_succ_iff.1 (Nat.cast_lt.1 hcast)
  rw [wholePart_eq (worth_ofNat n), nearest_natCast_eq h, whole_ofReal (rounded_nonneg n)]
  omega

theorem multiplier_of_check {c accepted : Config} (h : c.check = .ok accepted) :
    accepted = c ∧ ¬ c.retry.multiplier < 1.0 := by
  rw [Config.check] at h
  split at h
  · next hnone =>
    cases h
    refine ⟨rfl, fun hlt => ?_⟩
    simp [Config.faults, hlt] at hnone
  · cases h

theorem check_of_no_faults {c : Config} (h : c.faults.isEmpty = true) : c.check = .ok c := by
  rw [Config.check, List.isEmpty_iff.1 h]

namespace RetryPolicy

variable {p : RetryPolicy}

theorem backoff_le_succ (hmultiplier : ¬ p.multiplier < 1.0) (hinitial : p.initialBackoff < 2 ^ 64) {r : ℕ}
    (hfirst : 1 ≤ r) (hlast : r < 2 ^ 32) (hwrap : r ≠ 2 ^ 31) : p.backoff r ≤ p.backoff (r + 1) := by
  have hnext := exponent_succ hfirst hlast hwrap
  have hpower := power_atMost hmultiplier (hnext ▸ exponent_ne_zero hfirst hlast)
  rw [← hnext] at hpower
  have hfinite : nearest p.initialBackoff ≠ ⊤ := by
    rw [nearest_natCast_eq hinitial]
    exact ENNReal.ofReal_ne_top
  exact (hpower.mul_left (worth_ofNat _) hfinite).wholePart_lesser_le
    (Counts.mul (.inr ⟨_, worth_ofNat _⟩) (counts_power hmultiplier _)) (worth_ofNat _)

theorem backoff_le_max (hmultiplier : ¬ p.multiplier < 1.0) (r : ℕ) :
    p.backoff r ≤ wholePart (.ofNat p.maxBackoff) :=
  (Counts.mul (.inr ⟨_, worth_ofNat _⟩) (counts_power hmultiplier _)).wholePart_lesser_le (worth_ofNat _)

theorem backoff_one (p : RetryPolicy) :
    p.backoff 1 = min (wholePart (.ofNat p.initialBackoff)) (wholePart (.ofNat p.maxBackoff)) := by
  have hpower : power p.multiplier (0 : ℕ) = 1.0 := by rw [power_natCast, multiplyPowers_zero]
  have hproduct := (worth_ofNat p.initialBackoff).mul worth_one (by simp) (by simp)
  rw [mul_one, (worth_ofNat _).nearest] at hproduct
  show wholePart (lesser (.ofNat p.initialBackoff * power p.multiplier (0 : ℕ)) (.ofNat p.maxBackoff)) = _
  rw [hpower, wholePart_eq (worth_lesser hproduct (worth_ofNat _)), wholePart_eq (worth_ofNat _),
    wholePart_eq (worth_ofNat _), whole_mono.map_min]

/-- **The pauses grow, up to the longest.** For settings that are accepted, no retry is waited for longer than the
one after it, but for the retry `2 ^ 31`, after which the exponent runs over. No pause is longer than the longest
that is allowed, and the first one is that one or the initial one, whichever is shorter. Both count as the floats
nearest to them, which are the numbers themselves up to `2 ^ 53`, and no more than 1024 from them in 64 bits. -/
theorem backoff_grows {c accepted : Config} (hcheck : c.check = .ok accepted)
    (hinitial : accepted.retry.initialBackoff < 2 ^ 64) :
    let p := accepted.retry
    (∀ r, 1 ≤ r → r < 2 ^ 32 - 1 → r ≠ 2 ^ 31 → p.backoff r ≤ p.backoff (r + 1)) ∧
    (∀ r, p.backoff r ≤ wholePart (.ofNat p.maxBackoff)) ∧
    p.backoff 1 = min (wholePart (.ofNat p.initialBackoff)) (wholePart (.ofNat p.maxBackoff)) ∧
    (∀ n ≤ 2 ^ 53, wholePart (.ofNat n) = n) ∧
    ∀ n < 2 ^ 64, wholePart (.ofNat n) ≤ n + 1024 ∧ n ≤ wholePart (.ofNat n) + 1024 := by
  obtain ⟨rfl, hmultiplier⟩ := multiplier_of_check hcheck
  exact ⟨fun r hfirst hlast hwrap => backoff_le_succ hmultiplier hinitial hfirst (by omega) hwrap,
    backoff_le_max hmultiplier, backoff_one _, fun n hn => wholePart_ofNat hn,
    fun n hn => wholePart_ofNat_near hn⟩

/-- The settings that hold where none are given. -/
theorem backoff_grows_default :
    (Config.check {} = .ok {}) ∧ (500 : ℕ) < 2 ^ 64 ∧
      RetryPolicy.backoff {} 4 ≤ RetryPolicy.backoff {} 5 ∧ RetryPolicy.backoff {} 5 ≤ 8000 ∧
      RetryPolicy.backoff {} 1 = 500 := by
  have hcheck : Config.check {} = .ok {} := check_of_no_faults (by decide +kernel)
  obtain ⟨hgrows, hmost, hfirst, hexact, -⟩ := backoff_grows hcheck (by decide)
  refine ⟨hcheck, by decide, hgrows 4 (by decide) (by decide) (by decide), ?_, ?_⟩
  · have h := hmost 5
    rwa [hexact _ (by decide)] at h
  · rw [hexact _ (by decide), hexact _ (by decide)] at hfirst
    exact hfirst

/-- Two settings that are accepted. With the one, the pause falls after `2 ^ 31` retries; the longest pause of the
other one is no float, and the first pause is longer. -/
theorem backoff_falls_and_exceeds :
    (∃ c : Config, c.check = .ok c ∧ c.retry.initialBackoff < 2 ^ 64 ∧ c.retry.maxBackoff < 2 ^ 64 ∧
      ¬ c.retry.backoff (2 ^ 31) ≤ c.retry.backoff (2 ^ 31 + 1)) ∧
    ∃ c : Config, c.check = .ok c ∧ c.retry.initialBackoff < 2 ^ 64 ∧ c.retry.maxBackoff < 2 ^ 64 ∧
      ¬ c.retry.backoff 1 ≤ c.retry.maxBackoff := by
  refine ⟨⟨{ retry := ⟨3, 1000, 1000, 2.0⟩ }, ?_⟩,
    ⟨{ retry := ⟨3, 9007199254740995, 9007199254740995, 2.0⟩ }, ?_⟩⟩
  · exact ⟨check_of_no_faults (by decide +kernel), by decide, by decide, by decide +kernel⟩
  · exact ⟨check_of_no_faults (by decide +kernel), by decide, by decide, by decide +kernel⟩

end RetryPolicy

end Screenplay
