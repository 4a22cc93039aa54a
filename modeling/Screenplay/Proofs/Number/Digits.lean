/-
The digits of a number that the format cuts off. Two bits say what lies over the
digits that are kept (`Holds`), and a shift keeps them right (`Holds.shiftRight`);
so they suffice for rounding (`Holds.roundedMantissa_eq`), and what the format makes
of a number is the number rounded to its grid (`rounds_roundWithAccuracy`).
-/
import Screenplay.Proofs.Number.Packing

namespace Screenplay.Number

open Float.Model (Format UnpackedFloat totalExponent)
open Float.Model.UnpackedFloat (Accuracy ExtendedMantissa shiftToTargetExponent roundWithAccuracy)

/-! ## Digits with what was cut off -/

/-- The digits of `x` before the point, and the two bits that say where `x` lies over them. -/
structure Holds (em : ExtendedMantissa) (x : ℝ) : Prop where
  nonneg : 0 ≤ x
  floor : ⌊x⌋₊ = em.mantissa
  half : em.roundBit = true ↔ em.mantissa + 1 / 2 ≤ x
  rest : em.stickyBit = true ↔ x ≠ em.mantissa ∧ x ≠ em.mantissa + 1 / 2

namespace Holds

variable {em : ExtendedMantissa} {x : ℝ}

theorem le (h : Holds em x) : (em.mantissa : ℝ) ≤ x := ((Nat.floor_eq_iff h.nonneg).1 h.floor).1

theorem lt_succ (h : Holds em x) : x < em.mantissa + 1 := ((Nat.floor_eq_iff h.nonneg).1 h.floor).2

theorem exact (m : ℕ) : Holds (.ofMantissaAndAccuracy m .exact) m where
  nonneg := Nat.cast_nonneg m
  floor := Nat.floor_natCast m
  half := by simp [ExtendedMantissa.ofMantissaAndAccuracy]
  rest := by simp [ExtendedMantissa.ofMantissaAndAccuracy]

/-- The bits are off only over a whole number. -/
theorem bits_iff (h : Holds em x) : (em.roundBit || em.stickyBit) = true ↔ x ≠ em.mantissa := by
  rw [Bool.or_eq_true, h.half, h.rest]
  constructor
  · rintro (hhalf | hrest)
    · intro heq
      linarith
    · exact hrest.1
  · intro hne
    by_cases hhalf : x = em.mantissa + 1 / 2
    · exact .inl hhalf.ge
    · exact .inr ⟨hne, hhalf⟩

theorem shiftRightOne (h : Holds em x) : Holds em.shiftRightOne (x / 2) := by
  obtain ⟨m, r, s⟩ := em
  have hle : (m : ℝ) ≤ x := h.le
  have hlt : x < m + 1 := h.lt_succ
  have hbits : (r || s) = true ↔ x ≠ m := h.bits_iff
  -- the last digit is what lies over half of the rest
  rcases Nat.even_or_odd' m with ⟨k, rfl | rfl⟩ <;> push_cast at hle hlt hbits
  · have hk : 2 * k / 2 = k := by omega
    have hhalf : ¬ (k + 1 / 2 : ℝ) ≤ x / 2 := by linarith
    have hne : x / 2 ≠ k + 1 / 2 := fun heq => hhalf heq.ge
    refine ⟨by linarith [h.nonneg], ?_, ?_, ?_⟩ <;> simp only [ExtendedMantissa.shiftRightOne, hk]
    · exact (Nat.floor_eq_iff (by linarith [h.nonneg])).2 ⟨by linarith, by linarith⟩
    · simpa using hhalf
    · rw [hbits]
      have hiff : x ≠ 2 * k ↔ x / 2 ≠ k := by rw [ne_eq, ne_eq, div_eq_iff two_ne_zero, mul_comm]
      tauto
  · have hk : (2 * k + 1) / 2 = k := by omega
    have hhalf : (k + 1 / 2 : ℝ) ≤ x / 2 := by linarith
    have hne : x / 2 ≠ k := by intro heq; linarith
    refine ⟨by linarith [h.nonneg], ?_, ?_, ?_⟩ <;> simp only [ExtendedMantissa.shiftRightOne, hk]
    · exact (Nat.floor_eq_iff (by linarith [h.nonneg])).2 ⟨by linarith, by linarith⟩
    · simpa using hhalf
    · rw [hbits]
      have hiff : x ≠ 2 * k + 1 ↔ x / 2 ≠ k + 1 / 2 := by
        rw [ne_eq, ne_eq, div_eq_iff two_ne_zero]
        ring_nf
      tauto

theorem shiftRight (h : Holds em x) (n : ℕ) : Holds (em >>> n) (x / 2 ^ n) := by
  induction n with
  | zero =>
    rw [pow_zero, div_one]
    exact h
  | succ n ih =>
    rw [pow_succ, ← div_div]
    exact ih.shiftRightOne

theorem roundedMantissa_eq (h : Holds em x) : em.roundedMantissa = toEven x := by
  obtain ⟨m, r, s⟩ := em
  have hhalf : r = true ↔ (m + 1 / 2 : ℝ) ≤ x := h.half
  have hrest : s = true ↔ x ≠ m ∧ x ≠ m + 1 / 2 := h.rest
  have hfloor : ⌊x⌋₊ = m := h.floor
  rw [toEven, hfloor]
  cases r with
  | false =>
    have hlow : x < m + 1 / 2 := by simpa using hhalf
    rw [if_pos hlow]
    cases s <;> rfl
  | true =>
    have hhigh : (m + 1 / 2 : ℝ) ≤ x := hhalf.1 rfl
    rw [if_neg hhigh.not_gt]
    cases s with
    | false =>
      have hmid : x = m + 1 / 2 := by
        by_contra hne
        have := hrest.2 ⟨by intro heq; linarith, hne⟩
        cases this
      rw [if_neg hmid.le.not_gt]
      rfl
    | true =>
      rw [if_pos (lt_of_le_of_ne hhigh (hrest.1 rfl).2.symm)]
      rfl

end Holds

/-! ## Rounding to the format -/

theorem targetExponent_eq (t : ℤ) : Format.binary64.targetExponent t = max (t - 53) (-1074) := rfl

theorem targetExponent_digits (m : ℕ) (e : ℤ) :
    Format.binary64.targetExponent (totalExponent m e) = max (m.log2 + e - 52) (-1074) := by
  rw [targetExponent_eq, totalExponent]
  omega

theorem log_eq {x : ℝ} {k : ℤ} (hx : 0 < x) (hle : 2 ^ k ≤ x) (hlt : x < 2 ^ (k + 1)) : Int.log 2 x = k :=
  le_antisymm (Int.lt_add_one_iff.1 ((Int.lt_zpow_iff_log_lt Nat.one_lt_two hx).1 hlt))
    ((Int.zpow_le_iff_le_log Nat.one_lt_two hx).1 hle)

/-- The exponent that the format asks for is that of the grid. -/
theorem grid_of_digits {m : ℕ} {e : ℤ} {x : ℝ} (hm : 0 < m) (hle : m ≤ x / 2 ^ e)
    (hlt : x / 2 ^ e < m + 1) :
    grid x = max (m.log2 + e - 52) (-1074) := by
  have hpos := two_zpow_pos e
  have hlow : (2 ^ (m.log2 : ℤ) : ℝ) ≤ m := by exact_mod_cast Nat.log2_self_le hm.ne'
  have hhigh : (m + 1 : ℝ) ≤ 2 ^ (m.log2 + 1 : ℤ) := by exact_mod_cast Nat.lt_log2_self (n := m)
  have hbelow : 2 ^ (m.log2 + e : ℤ) ≤ x := by
    rw [two_zpow_add, ← le_div_iff₀ hpos]
    exact hlow.trans hle
  have habove : x < 2 ^ (m.log2 + e + 1 : ℤ) := by
    rw [add_right_comm, two_zpow_add, ← div_lt_iff₀ hpos]
    exact hlt.trans_le hhigh
  rw [grid, log_eq ((two_zpow_pos _).trans_le hbelow) hbelow habove]

/-- What rounding makes of a positive number, exponents without bound. -/
inductive Rounds : UnpackedFloat → ℝ → Prop
  | zero : Rounds (.zero .positive) 0
  | finite {m : ℕ} {e : ℤ} (hm : 0 < m) : OnGrid m e → Rounds (.finite .positive m e hm) (m * 2 ^ e)

theorem shiftToTargetExponent_eq (m : ℕ) (e : ℤ) (a : Accuracy) :
    shiftToTargetExponent .binary64 m e a =
      (ExtendedMantissa.ofMantissaAndAccuracy m a >>> (max (m.log2 + e - 52) (-1074) - e).toNat,
        e + (max (m.log2 + e - 52) (-1074) - e).toNat) := by
  rw [shiftToTargetExponent, targetExponent_digits]
  rfl

theorem shiftToTargetExponent_stays {m : ℕ} {e : ℤ} (h : max (m.log2 + e - 52) (-1074) ≤ e) :
    shiftToTargetExponent .binary64 m e .exact = (.ofMantissaAndAccuracy m .exact, e) := by
  have hnone : (max (m.log2 + e - 52) (-1074) - e).toNat = 0 := by omega
  rw [shiftToTargetExponent_eq, hnone, Nat.cast_zero, add_zero]
  rfl

theorem Rounds.of_onGrid {m : ℕ} {e : ℤ} (h : OnGrid m e) :
    Rounds (if hm : m = 0 then .zero .positive else .finite .positive m e (Nat.pos_of_ne_zero hm))
      (m * 2 ^ e) := by
  split_ifs with hm
  · rw [hm, Nat.cast_zero, zero_mul]
    exact .zero
  · exact .finite _ h

/-- The second shift, which makes room where rounding went up to a power of two. -/
theorem second_shift {m : ℕ} {e : ℤ} (hm : m ≤ 2 ^ 53) (hleast : -1074 ≤ e)
    (hfull : 2 ^ 52 ≤ m ∨ e = -1074) :
    let shifted := shiftToTargetExponent .binary64 m e .exact
    OnGrid shifted.1.mantissa shifted.2 ∧ (shifted.1.mantissa * 2 ^ shifted.2 : ℝ) = m * 2 ^ e := by
  rcases hm.eq_or_lt with rfl | hshort
  · have hlog : (2 ^ 53).log2 = 53 := Nat.log2_two_pow
    have hone : (max ((53 : ℕ) + e - 52) (-1074) - e).toNat = 1 := by omega
    rw [shiftToTargetExponent_eq, hlog, hone]
    have hhalf : (ExtendedMantissa.ofMantissaAndAccuracy (2 ^ 53) .exact >>> 1).mantissa = 2 ^ 52 := rfl
    refine ⟨⟨by rw [hhalf]; omega, by simp only; omega, .inl hhalf.ge⟩, ?_⟩
    rw [hhalf, two_zpow_add]
    push_cast
    ring
  · have hlog : m.log2 ≤ 52 := by
      rcases Nat.eq_zero_or_pos m with rfl | hpos
      · decide
      · exact Nat.lt_succ_iff.1 ((Nat.log2_lt hpos.ne').2 hshort)
    rw [shiftToTargetExponent_stays (by omega)]
    exact ⟨⟨hshort, hleast, hfull⟩, rfl⟩

/-- **Rounding to the format is rounding to the grid.** -/
theorem rounds_roundWithAccuracy {m : ℕ} {e : ℤ} {a : Accuracy} {x : ℝ} (hm : 0 < m)
    (hx : Holds (.ofMantissaAndAccuracy m a) (x / 2 ^ e)) (he : e ≤ max (m.log2 + e - 52) (-1074)) :
    Rounds (roundWithAccuracy .binary64 .positive m e a) (rounded x) := by
  have hmantissa : (ExtendedMantissa.ofMantissaAndAccuracy m a).mantissa = m := by
    unfold ExtendedMantissa.ofMantissaAndAccuracy
    split <;> rfl
  have hle := hx.le
  have hlt := hx.lt_succ
  rw [hmantissa] at hle hlt
  have hpos : 0 < x := (div_pos_iff_of_pos_right (two_zpow_pos e)).1 ((Nat.cast_pos.2 hm).trans_le hle)
  have hgrid := grid_of_digits hm hle hlt
  have hleast := le_grid x
  -- the first shift goes to the grid
  have hshifted :
      Holds (ExtendedMantissa.ofMantissaAndAccuracy m a >>> (grid x - e).toNat) (x / 2 ^ grid x) := by
    have hsplit : (2 ^ grid x : ℝ) = 2 ^ e * 2 ^ (grid x - e).toNat := by
      rw [← zpow_natCast, ← two_zpow_add, Int.toNat_of_nonneg (by omega), add_sub_cancel]
    rw [hsplit, ← div_div]
    exact hx.shiftRight _
  have hexp : e + ((grid x - e).toNat : ℤ) = grid x := by omega
  rw [roundWithAccuracy, shiftToTargetExponent_eq, ← hgrid, hexp]
  dsimp only
  rw [hshifted.roundedMantissa_eq, rounded]
  have hfull : 2 ^ 52 ≤ toEven (x / 2 ^ grid x) ∨ grid x = -1074 := by
    by_cases hlow : grid x = -1074
    · exact .inr hlow
    · exact .inl (le_toEven_scaled hpos hlow)
  obtain ⟨hon, hvalue⟩ := second_shift (toEven_scaled_le x) hleast hfull
  rw [← hvalue]
  exact .of_onGrid hon

end Screenplay.Number
