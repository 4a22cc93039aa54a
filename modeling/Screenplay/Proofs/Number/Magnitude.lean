/-
What floats are worth. A float without a minus sign that is a number has a
magnitude, and an operation gives the float nearest to the result for magnitudes
(`Worth.mul`, `Worth.one_div`, `worth_ofNat`); only the product of zero and infinity
is no number. The order of floats is that of their magnitudes (`Worth.lt_iff`).
-/
import Screenplay.Proofs.Number.Digits

namespace Screenplay.Number

open scoped ENNReal
open Float.Model (Format UnpackedFloat totalExponent)
open Float.Model.UnpackedFloat (ExtendedMantissa Sign roundWithAccuracy accuracyOfFraction divCore)

/-- The unpacked floats without a minus sign that are numbers, in the form that the format has for them. -/
inductive Stands : UnpackedFloat → ℝ≥0∞ → Prop
  | zero : Stands (.zero .positive) 0
  | infinity : Stands (.infinity .positive) ⊤
  | finite {m : ℕ} {e : ℤ} (hm : 0 < m) : OnGrid m e → e ≤ 971 →
      Stands (.finite .positive m e hm) (.ofReal (m * 2 ^ e))

/-- The float has no minus sign, and has this magnitude. -/
def Worth (x : Float) (v : ℝ≥0∞) : Prop := Stands x.toModel.unpack v

variable {x y : Float} {v w : ℝ≥0∞}

theorem Stands.form {u : UnpackedFloat} (h : Stands u v) : Form u := by
  cases h with
  | zero => exact .zero _
  | infinity => exact .infinity _
  | finite hm hgrid hmost => exact .finite _ hm hgrid hmost

theorem Stands.stored {u : UnpackedFloat} (h : Stands u v) : Stands (stored u) v := by
  rwa [h.form.stored_eq]

theorem Stands.nearest {u : UnpackedFloat} (h : Stands u v) : nearest v = v := by
  cases h with
  | zero => exact nearest_zero
  | infinity => exact nearest_top
  | finite hm hgrid hmost => exact nearest_onGrid hgrid hmost

theorem Rounds.stored {u : UnpackedFloat} {x : ℝ} (hx : 0 ≤ x) (h : Rounds u (rounded x)) :
    Stands (stored u) (nearest (.ofReal x)) := by
  rw [nearest_ofReal hx]
  generalize rounded x = r at h
  cases h with
  | zero =>
    rw [if_neg (two_zpow_pos _).not_ge, ENNReal.ofReal_zero]
    exact Stands.zero.stored
  | @finite m e hm hgrid =>
    by_cases hmost : e ≤ 971
    · rw [if_neg (hgrid.lt_limit hmost).not_ge]
      exact (Stands.finite hm hgrid hmost).stored
    · have hover : 971 < e := not_le.1 hmost
      rw [if_pos (hgrid.limit_le hover), stored_overflow _ _ hover]
      exact .infinity

/-! ## Products -/

theorem OnGrid.mul_le {m n : ℕ} {e f : ℤ} (h : OnGrid m e) (h' : OnGrid n f) (hm : 0 < m) (hn : 0 < n) :
    e + f ≤ max ((m * n).log2 + (e + f) - 52) (-1074) := by
  have hlog {k : ℕ} (hk : 2 ^ 52 ≤ k) : 52 ≤ k.log2 := (Nat.le_log2 (by omega)).2 hk
  rcases h.full with hfull | rfl
  · have := hlog (hfull.trans (Nat.le_mul_of_pos_right m hn))
    omega
  · rcases h'.full with hfull | rfl
    · have := hlog (hfull.trans (Nat.le_mul_of_pos_left n hm))
      omega
    · omega

theorem stands_mul_finite {m n : ℕ} {e f : ℤ} (h : OnGrid m e) (h' : OnGrid n f) (hm : 0 < m) (hn : 0 < n) :
    Stands (stored (roundWithAccuracy .binary64 .positive (m * n) (e + f) .exact))
      (nearest (.ofReal (m * 2 ^ e) * .ofReal (n * 2 ^ f))) := by
  have hscaled : (m * 2 ^ e * (n * 2 ^ f) : ℝ) / 2 ^ (e + f) = (m * n : ℕ) := by
    rw [div_eq_iff (two_zpow_pos _).ne', two_zpow_add]
    push_cast
    ring
  rw [← ENNReal.ofReal_mul (digits_nonneg m e)]
  refine (rounds_roundWithAccuracy (Nat.mul_pos hm hn) ?_ (h.mul_le h' hm hn)).stored
    (mul_nonneg (digits_nonneg m e) (digits_nonneg n f))
  rw [hscaled]
  exact .exact _

theorem ofReal_finite_ne_zero {m : ℕ} (hm : 0 < m) (e : ℤ) : ENNReal.ofReal (m * 2 ^ e) ≠ 0 :=
  (ENNReal.ofReal_pos.2 (digits_pos hm e)).ne'

/-- **A product is the float nearest to it.** -/
theorem Worth.mul (hx : Worth x v) (hy : Worth y w) (hvw : v = 0 → w ≠ ⊤) (hwv : w = 0 → v ≠ ⊤) :
    Worth (x * y) (nearest (v * w)) := by
  unfold Worth at hx hy ⊢
  rw [unpack_mul]
  generalize x.toModel.unpack = a at hx
  generalize y.toModel.unpack = b at hy
  cases hx with
  | zero =>
    rw [zero_mul, nearest_zero]
    cases hy with
    | zero => exact Stands.zero.stored
    | infinity => exact absurd rfl (hvw rfl)
    | finite => exact Stands.zero.stored
  | infinity =>
    cases hy with
    | zero => exact absurd rfl (hwv rfl)
    | infinity =>
      rw [ENNReal.top_mul_top, nearest_top]
      exact Stands.infinity.stored
    | finite hn =>
      rw [ENNReal.top_mul (ofReal_finite_ne_zero hn _), nearest_top]
      exact Stands.infinity.stored
  | finite hm hgrid =>
    cases hy with
    | zero =>
      rw [mul_zero, nearest_zero]
      exact Stands.zero.stored
    | infinity =>
      rw [ENNReal.mul_top (ofReal_finite_ne_zero hm _), nearest_top]
      exact Stands.infinity.stored
    | finite hn hgrid' => exact stands_mul_finite hgrid hgrid' hm hn

theorem Stands.eq_zero {u : UnpackedFloat} (h : Stands u v) (hv : v = 0) : u = .zero .positive := by
  cases h with
  | zero => rfl
  | infinity => exact absurd hv ENNReal.top_ne_zero
  | finite hm => exact absurd hv (ofReal_finite_ne_zero hm _)

theorem Stands.eq_infinity {u : UnpackedFloat} (h : Stands u v) (hv : v = ⊤) : u = .infinity .positive := by
  cases h with
  | zero => exact absurd hv ENNReal.zero_ne_top
  | infinity => rfl
  | finite hm => exact absurd hv ENNReal.ofReal_ne_top

theorem Worth.mul_isNaN (hx : Worth x v) (hy : Worth y w) (h : v = 0 ∧ w = ⊤ ∨ w = 0 ∧ v = ⊤) :
    (x * y).isNaN = true := by
  show (x * y).toModel.unpack.isNaN = true
  rcases h with ⟨hv, hw⟩ | ⟨hw, hv⟩
  · rw [unpack_mul, Stands.eq_zero hx hv, Stands.eq_infinity hy hw]
    rfl
  · rw [unpack_mul, Stands.eq_infinity hx hv, Stands.eq_zero hy hw]
    rfl

/-! ## Inverses -/

/-- The digits of a quotient, with what is left over. -/
theorem Holds.quotient (a : ℕ) {b : ℕ} (hb : 0 < b) :
    Holds (.ofMantissaAndAccuracy (a / b) (accuracyOfFraction (a % b) b)) ((a : ℝ) / b) := by
  have hb' : (0 : ℝ) < b := Nat.cast_pos.2 hb
  have hvalue : (a : ℝ) / b = (a / b : ℕ) + (a % b : ℕ) / b := by
    rw [div_eq_iff hb'.ne', add_mul, div_mul_cancel₀ _ hb'.ne']
    exact_mod_cast (Nat.div_add_mod' a b).symm
  have hlt : ((a % b : ℕ) : ℝ) / b < 1 := by
    rw [div_lt_one hb']
    exact_mod_cast Nat.mod_lt a hb
  rw [hvalue]
  generalize a / b = q
  generalize a % b = r at hlt
  rcases Nat.eq_zero_or_pos r with rfl | hr
  · rw [accuracyOfFraction, if_pos rfl, Nat.cast_zero, zero_div, add_zero]
    exact .exact q
  · have hpos : 0 < (r : ℝ) / b := div_pos (Nat.cast_pos.2 hr) hb'
    have hnonneg : 0 ≤ (q : ℝ) + r / b := by positivity
    have hfloor : ⌊(q : ℝ) + r / b⌋₊ = q := (Nat.floor_eq_iff hnonneg).2 ⟨by linarith, by linarith⟩
    have hne : (q : ℝ) + r / b ≠ q := by linarith
    rw [accuracyOfFraction, if_neg hr.ne']
    cases hcompare : compare (2 * r) b with
    | lt =>
      have hhalf : (q : ℝ) + r / b < q + 1 / 2 := by
        rw [add_lt_add_iff_left, div_lt_div_iff₀ hb' two_pos]
        exact_mod_cast (by have := Nat.compare_eq_lt.1 hcompare; omega : r * 2 < 1 * b)
      exact ⟨hnonneg, hfloor, iff_of_false Bool.false_ne_true hhalf.not_ge,
        iff_of_true rfl ⟨hne, hhalf.ne⟩⟩
    | eq =>
      have hhalf : (r : ℝ) / b = 1 / 2 := by
        rw [div_eq_div_iff hb'.ne' two_ne_zero]
        exact_mod_cast (by have := Nat.compare_eq_eq.1 hcompare; omega : r * 2 = 1 * b)
      rw [hhalf] at hnonneg hfloor ⊢
      exact ⟨hnonneg, hfloor, iff_of_true rfl le_rfl, iff_of_false Bool.false_ne_true fun h => h.2 rfl⟩
    | gt =>
      have hhalf : (q : ℝ) + 1 / 2 < q + r / b := by
        rw [add_lt_add_iff_left, div_lt_div_iff₀ two_pos hb']
        exact_mod_cast (by have := Nat.compare_eq_gt.1 hcompare; omega : 1 * b < r * 2)
      exact ⟨hnonneg, hfloor, iff_of_true rfl hhalf.le, iff_of_true rfl ⟨hne, hhalf.ne'⟩⟩

theorem one_unpack : (1.0 : Float).toModel.unpack = .finite .positive (2 ^ 52) (-52) (by decide) := rfl

theorem worth_one : Worth 1.0 1 := by
  have hvalue : (1 : ℝ≥0∞) = .ofReal ((2 ^ 52 : ℕ) * 2 ^ (-52 : ℤ)) := by norm_num
  unfold Worth
  rw [one_unpack, hvalue]
  exact .finite _ ⟨by norm_num, by norm_num, .inl le_rfl⟩ (by norm_num)

/-- The quotient of one, with its exponent, and how far the digits of one are shifted before. -/
theorem divCore_one {m s : ℕ} {e t : ℤ} (ht : t = max (-m.log2 - e - 53) (-1074)) (hs : (s : ℤ) = -52 - e - t)
    (hmost : e ≤ 971) :
    divCore .binary64 (2 ^ 52) (-52) m e = (2 ^ (52 + s) / m, t, accuracyOfFraction (2 ^ (52 + s) % m) m) := by
  have hlog : (2 ^ 52).log2 = 52 := Nat.log2_two_pow
  have htarget : min (-52 - e) (Format.binary64.targetExponent
      (totalExponent (2 ^ 52) (-52) - totalExponent m e)) = t := by
    rw [targetExponent_eq, totalExponent, totalExponent, hlog]
    omega
  have hshift : (-52 - e - t).toNat = s := by omega
  rw [divCore, htarget, hshift, Nat.shiftLeft_eq, ← pow_add]

theorem scaled_inverse {m s : ℕ} {e t : ℤ} (hm : 0 < m) (hs : (s : ℤ) = -52 - e - t) :
    (m * 2 ^ e : ℝ)⁻¹ / 2 ^ t = (2 ^ (52 + s) : ℕ) / m := by
  have hsum : ((52 + s : ℕ) : ℤ) + t + e = 0 := by push_cast; omega
  have hsplit : (2 ^ (52 + s) : ℝ) * 2 ^ t * 2 ^ e = 1 := by
    rw [← zpow_natCast, ← two_zpow_add, ← two_zpow_add, hsum, zpow_zero]
  have hm' : (m : ℝ) ≠ 0 := Nat.cast_ne_zero.2 hm.ne'
  rw [mul_inv, div_eq_div_iff (two_zpow_pos t).ne' hm', mul_right_comm, inv_mul_cancel₀ hm', one_mul]
  push_cast
  exact (eq_inv_of_mul_eq_one_left hsplit).symm

theorem quotient_le {m s : ℕ} {e t : ℤ} (hm : 0 < m) (ht : t = max (-m.log2 - e - 53) (-1074))
    (hs : (s : ℤ) = -52 - e - t) (hquotient : 0 < 2 ^ (52 + s) / m) :
    t ≤ max ((2 ^ (52 + s) / m).log2 + t - 52) (-1074) := by
  rcases le_total (-m.log2 - e - 53) (-1074) with hlow | hlow
  · omega
  · have hdigits : 2 ^ 52 ≤ 2 ^ (52 + s) / m := by
      rw [Nat.le_div_iff_mul_le hm, pow_add]
      refine Nat.mul_le_mul_left _ ?_
      obtain rfl : s = m.log2 + 1 := by omega
      exact Nat.lt_log2_self.le
    have := (Nat.le_log2 hquotient.ne').2 hdigits
    omega

theorem stands_inverse {m : ℕ} {e : ℤ} (h : OnGrid m e) (hmost : e ≤ 971) (hm : 0 < m) :
    Stands (stored (.div .binary64 (.finite .positive (2 ^ 52) (-52) (by decide)) (.finite .positive m e hm)))
      (nearest (ENNReal.ofReal (m * 2 ^ e))⁻¹) := by
  have hlog : m.log2 ≤ 52 := Nat.lt_succ_iff.1 ((Nat.log2_lt hm.ne').2 h.short)
  obtain ⟨t, ht⟩ : ∃ t : ℤ, t = max (-m.log2 - e - 53) (-1074) := ⟨_, rfl⟩
  obtain ⟨s, hs⟩ : ∃ s : ℕ, (s : ℤ) = -52 - e - t := ⟨(-52 - e - t).toNat, by omega⟩
  have hquotient : 0 < 2 ^ (52 + s) / m :=
    Nat.div_pos (h.short.le.trans (Nat.pow_le_pow_right two_pos (by omega))) hm
  have hpos := digits_pos hm e
  rw [UnpackedFloat.div, divCore_one ht hs hmost, ← ENNReal.ofReal_inv_of_pos hpos]
  refine (rounds_roundWithAccuracy hquotient ?_ (quotient_le hm ht hs hquotient)).stored (inv_pos.2 hpos).le
  rw [scaled_inverse hm hs]
  exact .quotient _ hm

/-- **An inverse is the float nearest to it.** -/
theorem Worth.one_div (hy : Worth y w) : Worth (1.0 / y) (nearest w⁻¹) := by
  unfold Worth at hy ⊢
  rw [unpack_div, one_unpack]
  generalize y.toModel.unpack = b at hy
  cases hy with
  | zero =>
    rw [ENNReal.inv_zero, nearest_top]
    exact Stands.infinity.stored
  | infinity =>
    rw [ENNReal.inv_top, nearest_zero]
    exact Stands.zero.stored
  | finite hm hgrid hmost => exact stands_inverse hgrid hmost hm

/-! ## Naturals -/

theorem two_pow_le_shifted {n : ℕ} (hn : 0 < n) : 2 ^ 52 ≤ n * 2 ^ (52 - n.log2) :=
  calc 2 ^ 52 ≤ 2 ^ (n.log2 + (52 - n.log2)) := Nat.pow_le_pow_right two_pos (by omega)
    _ = 2 ^ n.log2 * 2 ^ (52 - n.log2) := pow_add _ _ _
    _ ≤ n * 2 ^ (52 - n.log2) := Nat.mul_le_mul_right _ (Nat.log2_self_le hn.ne')

/-- The naturals that a float has digits for. -/
theorem onGrid_natural {n : ℕ} (h : n ≤ 2 ^ 53) :
    ∃ m e, OnGrid m e ∧ e ≤ 971 ∧ (n : ℝ) = m * 2 ^ e := by
  rcases h.eq_or_lt with rfl | hlt
  · exact ⟨2 ^ 52, 1, ⟨by omega, by omega, .inl le_rfl⟩, by omega, by norm_num⟩
  rcases Nat.eq_zero_or_pos n with rfl | hn
  · exact ⟨0, -1074, ⟨by omega, le_rfl, .inr rfl⟩, by omega, by simp⟩
  · have hlog : n.log2 < 53 := (Nat.log2_lt hn.ne').2 hlt
    have hshort : n * 2 ^ (52 - n.log2) < 2 ^ 53 :=
      calc n * 2 ^ (52 - n.log2) < 2 ^ (n.log2 + 1) * 2 ^ (52 - n.log2) :=
            Nat.mul_lt_mul_of_pos_right Nat.lt_log2_self (Nat.two_pow_pos _)
        _ = 2 ^ (n.log2 + 1 + (52 - n.log2)) := (pow_add _ _ _).symm
        _ = 2 ^ 53 := by congr 1; omega
    refine ⟨n * 2 ^ (52 - n.log2), -(52 - n.log2 : ℕ), ⟨hshort, by omega, .inl (two_pow_le_shifted hn)⟩,
      by omega, ?_⟩
    push_cast
    rw [zpow_neg, zpow_natCast, mul_inv_cancel_right₀ (by positivity)]

theorem nearest_natCast {n : ℕ} (h : n ≤ 2 ^ 53) : nearest n = n := by
  obtain ⟨m, e, hgrid, hmost, hvalue⟩ := onGrid_natural h
  rw [← ENNReal.ofReal_natCast, hvalue, nearest_onGrid hgrid hmost]

/-- A natural of 64 bits has at most 11 digits too many. -/
theorem rounded_natCast_error {n : ℕ} (h : n < 2 ^ 64) : |rounded n - n| ≤ 1024 := by
  rcases Nat.eq_zero_or_pos n with rfl | hn
  · simp
  · have hlt : (n : ℝ) < 2 ^ (64 : ℤ) := by exact_mod_cast h
    have hlog : Int.log 2 (n : ℝ) < 64 := (Int.lt_zpow_iff_log_lt Nat.one_lt_two (Nat.cast_pos.2 hn)).1 hlt
    have hgrid : grid n ≤ 11 := by unfold grid; omega
    calc |rounded n - n| ≤ 2 ^ grid n / 2 := rounded_error (Nat.cast_nonneg n)
      _ ≤ 2 ^ (11 : ℤ) / 2 := div_le_div_of_nonneg_right (zpow_le_zpow_right₀ one_le_two hgrid) zero_le_two
      _ = 1024 := by norm_num

theorem nearest_natCast_eq {n : ℕ} (h : n < 2 ^ 64) : nearest n = .ofReal (rounded n) := by
  have hnear := (abs_le.1 (rounded_natCast_error h)).2
  have hn : (n : ℝ) < 2 ^ 64 := by exact_mod_cast h
  have hlt : rounded n < 2 ^ (1024 : ℤ) :=
    calc rounded n < 2 ^ 64 + 1024 := by linarith
      _ ≤ 2 ^ (65 : ℤ) := by norm_num
      _ ≤ 2 ^ (1024 : ℤ) := zpow_le_zpow_right₀ one_le_two (by omega)
  rw [← ENNReal.ofReal_natCast, nearest_ofReal (Nat.cast_nonneg n), if_neg hlt.not_ge]

theorem stands_natural {n k : ℕ} (hdigits : 2 ^ 52 ≤ n * 2 ^ k) :
    Stands (stored (roundWithAccuracy .binary64 .positive (n * 2 ^ k) (-k) .exact)) (nearest n) := by
  have hpos : 0 < n * 2 ^ k := by omega
  have hlog : 52 ≤ (n * 2 ^ k).log2 := (Nat.le_log2 hpos.ne').2 hdigits
  have hscaled : (n : ℝ) / 2 ^ (-k : ℤ) = (n * 2 ^ k : ℕ) := by
    rw [zpow_neg, div_inv_eq_mul, zpow_natCast]
    push_cast
    rfl
  rw [← ENNReal.ofReal_natCast]
  refine (rounds_roundWithAccuracy hpos ?_ (by omega)).stored (Nat.cast_nonneg n)
  rw [hscaled]
  exact .exact _

theorem worth_toFloat (n : UInt64) : Worth n.toFloat (nearest n.toNat) := by
  show Stands (stored (.normalize .binary64 n.toNat 0 .positive)) _
  generalize n.toNat = n
  rcases Nat.eq_zero_or_pos n with rfl | hn
  · rw [Nat.cast_zero (R := ℝ≥0∞), nearest_zero]
    exact Stands.zero.stored
  · have hcompare : compare (n : ℤ) 0 = .gt := compare_gt_iff_gt.2 (Int.natCast_pos.2 hn)
    have hshift : ((0 : ℤ) - max ((n.log2 : ℤ) + 0 - 52) (-1074)).toNat = 52 - n.log2 := by omega
    rw [UnpackedFloat.normalize, hcompare]
    dsimp only
    rw [Int.toNat_natCast, UnpackedFloat.round, targetExponent_digits,
      UnpackedFloat.decreaseExponent, hshift, Nat.shiftLeft_eq, zero_sub]
    exact stands_natural (two_pow_le_shifted hn)

/-- **A natural is read as the float nearest to it.** -/
theorem worth_ofNat (n : ℕ) : Worth (.ofNat n) (nearest n) := by
  show Worth (Float.ofScientific n false 0) _
  by_cases hsmall : n < 2 ^ 53
  · have hwidth : n.toUInt64.toNat = n := Nat.mod_eq_of_lt (by omega)
    have hread : Worth n.toUInt64.toFloat (nearest n) := by
      have := worth_toFloat n.toUInt64
      rwa [hwidth] at this
    have hone : Float.exactlyRepresentablePowersOfTen[0] = 1.0 := rfl
    have hmul := hread.mul worth_one (by simp) (by simp)
    rw [mul_one, hread.nearest] at hmul
    simp only [Float.ofScientific, hsmall, Nat.zero_le, and_self, dif_pos, Bool.false_eq_true, if_false, hone]
    exact hmul
  · have hpos : n ≠ 0 := by omega
    have hdigits : 2 ^ 52 ≤ n * 2 ^ 53 := by omega
    have hmodel : UnpackedFloat.ofScientific .binary64 n 0 =
        roundWithAccuracy .binary64 .positive (n * 2 ^ 53) (-(53 : ℕ)) .exact := by
      have hrange : ¬ (0 : ℤ) < -((2 ^ Format.binary64.exponentBits : ℤ) + n.log2) := by
        show ¬ (0 : ℤ) < -(2048 + n.log2)
        omega
      rw [UnpackedFloat.ofScientific, dif_neg hpos, if_neg (by decide), if_neg hrange, if_pos le_rfl,
        ← Nat.shiftLeft_eq]
      show roundWithAccuracy .binary64 .positive (n <<< 53 * 1) (-53 + 0) .exact = _
      rw [mul_one]
      rfl
    simp only [Float.ofScientific, hsmall, false_and, dif_neg, not_false_eq_true, Bool.false_eq_true, if_false]
    show Stands (stored (.ofScientific .binary64 n 0)) _
    rw [hmodel]
    exact stands_natural hdigits

/-! ## Order -/

theorem lt_iff_unpack (x y : Float) : x < y ↔ x.toModel.unpack.compare y.toModel.unpack = some .lt := by
  show decide (Float.Model.lt x.toModel y.toModel = true) = true ↔ _
  rw [decide_eq_true_iff, Float.Model.lt, UnpackedFloat.lt, beq_iff_eq]

/-- The digits decide between floats with one exponent, and the exponents between the others. -/
theorem OnGrid.compare_eq_lt {m n : ℕ} {e f : ℤ} (h : OnGrid m e) (h' : OnGrid n f) :
    (compare e f).then (compare m n) = .lt ↔ (m * 2 ^ e : ℝ) < n * 2 ^ f := by
  rcases lt_trichotomy e f with hlt | rfl | hgt
  · rw [compare_lt_iff_lt.2 hlt]
    exact iff_of_true rfl (h.lt_of_exponent_lt h' hlt)
  · rw [compare_eq_iff_eq.2 rfl, mul_lt_mul_iff_left₀ (two_zpow_pos e), Nat.cast_lt]
    exact compare_lt_iff_lt
  · rw [compare_gt_iff_gt.2 hgt]
    exact iff_of_false (fun h => by cases h) (h'.lt_of_exponent_lt h hgt).not_gt

/-- **The order of floats is that of their magnitudes.** -/
theorem Worth.lt_iff (hx : Worth x v) (hy : Worth y w) : x < y ↔ v < w := by
  unfold Worth at hx hy
  rw [lt_iff_unpack]
  generalize x.toModel.unpack = a at hx
  generalize y.toModel.unpack = b at hy
  have hgt : some Ordering.gt ≠ some .lt := by decide
  have heq : some Ordering.eq ≠ some .lt := by decide
  cases hx with
  | zero =>
    cases hy with
    | zero => exact iff_of_false heq (lt_irrefl 0)
    | infinity => exact iff_of_true rfl ENNReal.zero_lt_top
    | finite hn => exact iff_of_true rfl (pos_iff_ne_zero.2 (ofReal_finite_ne_zero hn _))
  | infinity =>
    cases hy with
    | zero => exact iff_of_false hgt not_top_lt
    | infinity => exact iff_of_false heq not_top_lt
    | finite hn => exact iff_of_false hgt not_top_lt
  | finite hm hgrid =>
    cases hy with
    | zero => exact iff_of_false hgt not_lt_zero
    | infinity => exact iff_of_true rfl ENNReal.ofReal_lt_top
    | finite hn hgrid' =>
      rw [ENNReal.ofReal_lt_ofReal_iff (digits_pos hn _), ← hgrid.compare_eq_lt hgrid']
      exact Option.some_inj

/-! ## Whole parts -/

/-- The whole part of a magnitude, and not more than 64 bits hold. -/
noncomputable def whole (v : ℝ≥0∞) : ℕ :=
  if v = ⊤ then 2 ^ 64 - 1 else min ⌊v.toReal⌋₊ (2 ^ 64 - 1)

theorem whole_mono : Monotone whole := by
  intro v w h
  by_cases hw : w = ⊤
  · unfold whole
    rw [if_pos hw]
    split_ifs
    · exact le_rfl
    · exact min_le_right _ _
  · rw [whole, whole, if_neg hw, if_neg (ne_top_of_le_ne_top hw h)]
    exact min_le_min_right _ (Nat.floor_mono (ENNReal.toReal_mono hw h))

theorem whole_ofReal {r : ℝ} (hr : 0 ≤ r) : whole (.ofReal r) = min ⌊r⌋₊ (2 ^ 64 - 1) := by
  rw [whole, if_neg ENNReal.ofReal_ne_top, ENNReal.toReal_ofReal hr]

theorem toNat_ofNatClamp (n : ℕ) : (UInt64.ofNatClamp n).toNat = min n (2 ^ 64 - 1) := by
  have hsize : UInt64.size = 2 ^ 64 := rfl
  unfold UInt64.ofNatClamp
  split_ifs with h <;> rw [UInt64.toNat_ofNatLT] <;> omega

theorem roundToInt_eq (m : ℕ) (e : ℤ) :
    UnpackedFloat.roundToInt .positive m e = ⌊(m * 2 ^ e : ℝ)⌋₊ := by
  have hholds := (Holds.exact (m <<< e.toNat)).shiftRight (-e).toNat
  have hvalue : ((m <<< e.toNat : ℕ) : ℝ) / 2 ^ (-e).toNat = m * 2 ^ e := by
    have hsplit : (2 ^ e.toNat : ℝ) = 2 ^ e * 2 ^ (-e).toNat := by
      rw [← zpow_natCast, ← zpow_natCast, ← two_zpow_add]
      congr 1
      omega
    rw [Nat.shiftLeft_eq, div_eq_iff (by positivity)]
    push_cast
    rw [hsplit, mul_assoc]
  have hfirst : (e - 0).toNat = e.toNat := by rw [sub_zero]
  have hsecond : (0 - (e - (e.toNat : ℤ))).toNat = (-e).toNat := by omega
  rw [UnpackedFloat.roundToInt, UnpackedFloat.decreaseExponent, hfirst]
  dsimp only
  rw [UnpackedFloat.shiftToExponent, hsecond, ← hvalue, hholds.floor]
  rfl

/-- **The whole part of a float is that of its magnitude.** -/
theorem Worth.toNat_toUInt64 (hx : Worth x v) : x.toUInt64.toNat = whole v := by
  unfold Worth at hx
  show (UInt64.ofNatClamp (x.toModel.unpack.toInt 0 (UInt64.size - 1)).toNat).toNat = _
  generalize x.toModel.unpack = a at hx
  rw [toNat_ofNatClamp]
  cases hx with
  | zero =>
    rw [← ENNReal.ofReal_zero, whole_ofReal le_rfl, Nat.floor_zero]
    rfl
  | infinity =>
    rw [whole, if_pos rfl]
    rfl
  | @finite m e hm =>
    rw [whole_ofReal (digits_nonneg m e), UnpackedFloat.toInt, roundToInt_eq, Int.toNat_natCast]

/-! ## No numbers -/

theorem isNaN_iff (x : Float) : x.isNaN = true ↔ x.toModel.unpack = .notANumber := by
  show x.toModel.unpack.isNaN = true ↔ _
  cases x.toModel.unpack <;> simp [UnpackedFloat.isNaN]

theorem Worth.isNaN_eq (hx : Worth x v) : x.isNaN = false := by
  rw [Bool.eq_false_iff, ne_eq, isNaN_iff]
  intro h
  unfold Worth at hx
  rw [h] at hx
  cases hx

theorem isNaN_stored : (stored .notANumber).isNaN = true := rfl

theorem isNaN_mul_left (hx : x.isNaN = true) (y : Float) : (x * y).isNaN = true := by
  have hmul (u : UnpackedFloat) : UnpackedFloat.mul .binary64 .notANumber u = .notANumber := by cases u <;> rfl
  show (x * y).toModel.unpack.isNaN = true
  rw [unpack_mul, (isNaN_iff x).1 hx, hmul, isNaN_stored]

theorem isNaN_mul_right (x : Float) (hy : y.isNaN = true) : (x * y).isNaN = true := by
  have hmul (u : UnpackedFloat) : UnpackedFloat.mul .binary64 u .notANumber = .notANumber := by cases u <;> rfl
  show (x * y).toModel.unpack.isNaN = true
  rw [unpack_mul, (isNaN_iff y).1 hy, hmul, isNaN_stored]

theorem isNaN_div_right (x : Float) (hy : y.isNaN = true) : (x / y).isNaN = true := by
  have hdiv (u : UnpackedFloat) : UnpackedFloat.div .binary64 u .notANumber = .notANumber := by cases u <;> rfl
  show (x / y).toModel.unpack.isNaN = true
  rw [unpack_div, (isNaN_iff y).1 hy, hdiv, isNaN_stored]

theorem Form.cases_sign {u : UnpackedFloat} (h : Form u) :
    u = .notANumber ∨ (∃ v, Stands u v) ∨ u.compare 1.0.toModel.unpack = some .lt := by
  rw [one_unpack]
  cases h with
  | notANumber => exact .inl rfl
  | infinity s =>
    cases s with
    | negative => exact .inr (.inr rfl)
    | positive => exact .inr (.inl ⟨_, .infinity⟩)
  | zero s =>
    cases s with
    | negative => exact .inr (.inr rfl)
    | positive => exact .inr (.inl ⟨_, .zero⟩)
  | finite s hm hgrid hmost =>
    cases s with
    | negative => exact .inr (.inr rfl)
    | positive => exact .inr (.inl ⟨_, .finite hm hgrid hmost⟩)

/-- A float that is not below one is one of at least one, or no number. -/
theorem worth_of_not_lt_one (h : ¬ x < 1.0) : x.isNaN = true ∨ ∃ v, 1 ≤ v ∧ Worth x v := by
  rcases (form_unpack x.toModel.toBits.toBitVec).cases_sign with hnone | ⟨v, hv⟩ | hlt
  · exact .inl ((isNaN_iff x).2 hnone)
  · have hworth : Worth x v := hv
    exact .inr ⟨v, not_lt.1 fun hlt => h ((hworth.lt_iff worth_one).2 hlt), hworth⟩
  · exact absurd ((lt_iff_unpack x 1.0).2 hlt) h

end Screenplay.Number
