/-
Rounding to the numbers that a float has digits for. The binary digits of a number
are cut to those it has room for, and the rest decides where the last of them goes:
to the nearer side, and from halfway to the even one. A greater number is never
rounded below a smaller one (`rounded_mono`), and a number of the grid stays as it
is (`rounded_onGrid`); with infinity above the greatest of them, the same holds of
every magnitude (`nearest_mono`).
-/
import Mathlib

namespace Screenplay.Number

open scoped ENNReal

/-! ## Whole numbers -/

/-- The nearest natural, and from halfway the even one. -/
noncomputable def toEven (x : ℝ) : ℕ :=
  if x < ⌊x⌋₊ + 1 / 2 then ⌊x⌋₊
  else if ⌊x⌋₊ + 1 / 2 < x then ⌊x⌋₊ + 1
  else ⌊x⌋₊ + ⌊x⌋₊ % 2

theorem floor_le_toEven (x : ℝ) : ⌊x⌋₊ ≤ toEven x := by
  unfold toEven
  split_ifs <;> omega

theorem toEven_le_succ (x : ℝ) : toEven x ≤ ⌊x⌋₊ + 1 := by
  unfold toEven
  split_ifs <;> omega

@[simp] theorem toEven_natCast (n : ℕ) : toEven n = n := by
  simp [toEven]

theorem toEven_mono {x y : ℝ} (h : x ≤ y) : toEven x ≤ toEven y := by
  rcases (Nat.floor_mono h).lt_or_eq with hlt | heq
  · -- the next natural lies between them
    calc toEven x ≤ ⌊x⌋₊ + 1 := toEven_le_succ x
      _ ≤ ⌊y⌋₊ := hlt
      _ ≤ toEven y := floor_le_toEven y
  · -- both lie over one natural, and their halves are in order
    unfold toEven
    rw [heq]
    split_ifs <;> first | omega | linarith

/-- Rounding goes no further than half of the way to the next natural. -/
theorem toEven_error {x : ℝ} (hx : 0 ≤ x) : |(toEven x : ℝ) - x| ≤ 1 / 2 := by
  have hle : (⌊x⌋₊ : ℝ) ≤ x := Nat.floor_le hx
  have hlt : x < ⌊x⌋₊ + 1 := Nat.lt_floor_add_one x
  have hdigit : ((⌊x⌋₊ % 2 : ℕ) : ℝ) ≤ 1 := by exact_mod_cast Nat.lt_succ_iff.1 (Nat.mod_lt _ two_pos)
  have hnonneg : (0 : ℝ) ≤ (⌊x⌋₊ % 2 : ℕ) := Nat.cast_nonneg _
  rw [abs_le]
  unfold toEven
  split_ifs <;> push_cast at * <;> constructor <;> linarith

/-! ## The grid -/

/-- The exponent of the last binary digit a float has for `x`: there are 53 of them, and none is worth less
than `2 ^ -1074`. -/
noncomputable def grid (x : ℝ) : ℤ := max (Int.log 2 x - 52) (-1074)

/-- A natural times a power of two, so that the float has a digit for every binary digit of it, and it has as
many as it can. -/
structure OnGrid (m : ℕ) (e : ℤ) : Prop where
  short : m < 2 ^ 53
  least : -1074 ≤ e
  full : 2 ^ 52 ≤ m ∨ e = -1074

theorem two_zpow_pos (e : ℤ) : (0 : ℝ) < 2 ^ e := zpow_pos two_pos e

theorem digits_nonneg (m : ℕ) (e : ℤ) : (0 : ℝ) ≤ m * 2 ^ e :=
  mul_nonneg (Nat.cast_nonneg m) (two_zpow_pos e).le

theorem digits_pos {m : ℕ} (hm : 0 < m) (e : ℤ) : (0 : ℝ) < m * 2 ^ e :=
  mul_pos (Nat.cast_pos.2 hm) (two_zpow_pos e)

theorem two_zpow_add (a b : ℤ) : (2 : ℝ) ^ (a + b) = 2 ^ a * 2 ^ b := zpow_add₀ two_ne_zero a b

theorem le_grid (x : ℝ) : -1074 ≤ grid x := le_max_right _ _

theorem lt_above_grid (x : ℝ) : x < 2 ^ (53 + grid x) := by
  have hlog : x < 2 ^ (Int.log 2 x + 1) := Int.lt_zpow_succ_log_self Nat.one_lt_two x
  have hle : Int.log 2 x + 1 ≤ 53 + grid x := by unfold grid; omega
  exact hlog.trans_le (zpow_le_zpow_right₀ one_le_two hle)

theorem grid_full {x : ℝ} (hx : 0 < x) : 2 ^ (52 + grid x) ≤ x ∨ grid x = -1074 := by
  rcases le_total (Int.log 2 x - 52) (-1074) with hle | hle
  · exact .inr (max_eq_right hle)
  · left
    have hexp : 52 + grid x = Int.log 2 x := by rw [grid, max_eq_left hle]; omega
    rw [hexp]
    exact Int.zpow_log_le_self Nat.one_lt_two hx

theorem grid_eq {x : ℝ} {e : ℤ} (hx : 0 < x) (habove : x < 2 ^ (53 + e)) (hleast : -1074 ≤ e)
    (hfull : 2 ^ (52 + e) ≤ x ∨ e = -1074) : grid x = e := by
  have hlt : Int.log 2 x < 53 + e := (Int.lt_zpow_iff_log_lt Nat.one_lt_two hx).1 habove
  unfold grid
  rcases hfull with hfull | hfull
  · have hle : 52 + e ≤ Int.log 2 x := (Int.zpow_le_iff_le_log Nat.one_lt_two hx).1 hfull
    omega
  · omega

theorem scaled_lt (x : ℝ) : x / 2 ^ grid x < (2 ^ 53 : ℕ) := by
  rw [div_lt_iff₀ (two_zpow_pos _)]
  have h := lt_above_grid x
  rw [two_zpow_add] at h
  exact_mod_cast h

theorem le_scaled {x : ℝ} (hx : 0 < x) (h : grid x ≠ -1074) : (2 ^ 52 : ℕ) ≤ x / 2 ^ grid x := by
  rw [le_div_iff₀ (two_zpow_pos _)]
  have hfull := (grid_full hx).resolve_right h
  rw [two_zpow_add] at hfull
  exact_mod_cast hfull

theorem grid_mono {x y : ℝ} (hx : 0 < x) (h : x ≤ y) : grid x ≤ grid y :=
  max_le_max_right _ (sub_le_sub_right (Int.log_mono_right hx h) _)

namespace OnGrid

variable {m n : ℕ} {e f : ℤ}

theorem lt_above (h : OnGrid m e) : (m * 2 ^ e : ℝ) < 2 ^ (53 + e) := by
  rw [two_zpow_add]
  have hm : (m : ℝ) < 2 ^ (53 : ℤ) := by exact_mod_cast h.short
  exact mul_lt_mul_of_pos_right hm (two_zpow_pos e)

theorem below_le (h : OnGrid m e) (he : e ≠ -1074) : (2 ^ (52 + e) : ℝ) ≤ m * 2 ^ e := by
  rw [two_zpow_add]
  have hm : (2 : ℝ) ^ (52 : ℤ) ≤ m := by exact_mod_cast h.full.resolve_right he
  exact mul_le_mul_of_nonneg_right hm (two_zpow_pos e).le

theorem grid_eq (h : OnGrid m e) (hm : 0 < m) : grid (m * 2 ^ e) = e := by
  refine Number.grid_eq (digits_pos hm e) h.lt_above h.least ?_
  by_cases he : e = -1074
  · exact .inr he
  · exact .inl (h.below_le he)

/-- The floats are less than `2 ^ 1024`, up to the greatest exponent, -/
theorem lt_limit (h : OnGrid m e) (he : e ≤ 971) : (m * 2 ^ e : ℝ) < 2 ^ (1024 : ℤ) :=
  h.lt_above.trans_le (zpow_le_zpow_right₀ one_le_two (by omega))

/-- and what has a greater one is not. -/
theorem limit_le (h : OnGrid m e) (he : 971 < e) : (2 ^ (1024 : ℤ) : ℝ) ≤ m * 2 ^ e :=
  (zpow_le_zpow_right₀ one_le_two (by omega)).trans (h.below_le (by omega))

theorem lt_of_exponent_lt (h : OnGrid m e) (h' : OnGrid n f) (hef : e < f) : (m * 2 ^ e : ℝ) < n * 2 ^ f := by
  have hf : f ≠ -1074 := by have := h.least; omega
  calc (m * 2 ^ e : ℝ) < 2 ^ (53 + e) := h.lt_above
    _ ≤ 2 ^ (52 + f) := zpow_le_zpow_right₀ one_le_two (by omega)
    _ ≤ n * 2 ^ f := h'.below_le hf

end OnGrid

/-! ## Rounding -/

/-- The nearest number of the grid of `x`, and from halfway the one with an even last digit. -/
noncomputable def rounded (x : ℝ) : ℝ := toEven (x / 2 ^ grid x) * 2 ^ grid x

theorem rounded_nonneg (x : ℝ) : 0 ≤ rounded x := digits_nonneg _ _

@[simp] theorem rounded_zero : rounded 0 = 0 := by
  have h : toEven 0 = 0 := by exact_mod_cast toEven_natCast 0
  simp [rounded, h]

theorem rounded_onGrid {m : ℕ} {e : ℤ} (h : OnGrid m e) : rounded (m * 2 ^ e) = m * 2 ^ e := by
  rcases Nat.eq_zero_or_pos m with rfl | hm
  · simp
  · rw [rounded, h.grid_eq hm, mul_div_cancel_right₀ _ (two_zpow_pos e).ne', toEven_natCast]

theorem toEven_scaled_le (x : ℝ) : toEven (x / 2 ^ grid x) ≤ 2 ^ 53 := by
  have h := toEven_mono (scaled_lt x).le
  rwa [toEven_natCast] at h

theorem le_toEven_scaled {x : ℝ} (hx : 0 < x) (h : grid x ≠ -1074) : 2 ^ 52 ≤ toEven (x / 2 ^ grid x) := by
  have h := toEven_mono (le_scaled hx h)
  rwa [toEven_natCast] at h

/-- **A greater number is not rounded below a smaller one.** -/
theorem rounded_mono {x y : ℝ} (hx : 0 ≤ x) (h : x ≤ y) : rounded x ≤ rounded y := by
  rcases hx.eq_or_lt with rfl | hx
  · rw [rounded_zero]
    exact rounded_nonneg y
  rcases (grid_mono hx h).eq_or_lt with heq | hlt
  · -- one grid for both
    have hscaled : x / 2 ^ grid x ≤ y / 2 ^ grid y := by
      rw [heq]
      exact div_le_div_of_nonneg_right h (two_zpow_pos _).le
    unfold rounded
    rw [← heq] at hscaled ⊢
    exact mul_le_mul_of_nonneg_right (Nat.cast_le.2 (toEven_mono hscaled)) (two_zpow_pos _).le
  · -- a power of two lies between the two
    have hgrid : grid y ≠ -1074 := by have := le_grid x; omega
    have hbelow : (toEven (x / 2 ^ grid x) : ℝ) ≤ 2 ^ (53 : ℤ) := by exact_mod_cast toEven_scaled_le x
    have habove : (2 : ℝ) ^ (52 : ℤ) ≤ toEven (y / 2 ^ grid y) := by
      exact_mod_cast le_toEven_scaled (hx.trans_le h) hgrid
    calc rounded x ≤ 2 ^ (53 : ℤ) * 2 ^ grid x := mul_le_mul_of_nonneg_right hbelow (two_zpow_pos _).le
      _ = 2 ^ (53 + grid x) := (two_zpow_add _ _).symm
      _ ≤ 2 ^ (52 + grid y) := zpow_le_zpow_right₀ one_le_two (by omega)
      _ = 2 ^ (52 : ℤ) * 2 ^ grid y := two_zpow_add _ _
      _ ≤ rounded y := mul_le_mul_of_nonneg_right habove (two_zpow_pos _).le

theorem rounded_error {x : ℝ} (hx : 0 ≤ x) : |rounded x - x| ≤ 2 ^ grid x / 2 := by
  have hpos := two_zpow_pos (grid x)
  have hscaled : x / 2 ^ grid x * 2 ^ grid x = x := div_mul_cancel₀ x hpos.ne'
  calc |rounded x - x| = |(toEven (x / 2 ^ grid x) - x / 2 ^ grid x) * 2 ^ grid x| := by
        rw [sub_mul, hscaled, rounded]
    _ = |toEven (x / 2 ^ grid x) - x / 2 ^ grid x| * 2 ^ grid x := by rw [abs_mul, abs_of_pos hpos]
    _ ≤ 1 / 2 * 2 ^ grid x := mul_le_mul_of_nonneg_right (toEven_error (div_nonneg hx hpos.le)) hpos.le
    _ = 2 ^ grid x / 2 := by ring

/-! ## Magnitudes -/

/-- The nearest magnitude that a float can have: infinity from `2 ^ 1024` on. -/
noncomputable def nearest (v : ℝ≥0∞) : ℝ≥0∞ :=
  if v = ⊤ ∨ 2 ^ (1024 : ℤ) ≤ rounded v.toReal then ⊤ else .ofReal (rounded v.toReal)

@[simp] theorem nearest_top : nearest ⊤ = ⊤ := if_pos (.inl rfl)

theorem nearest_ofReal {x : ℝ} (hx : 0 ≤ x) :
    nearest (.ofReal x) = if 2 ^ (1024 : ℤ) ≤ rounded x then ⊤ else .ofReal (rounded x) := by
  simp [nearest, ENNReal.toReal_ofReal hx]

@[simp] theorem nearest_zero : nearest 0 = 0 := by
  rw [← ENNReal.ofReal_zero, nearest_ofReal le_rfl, rounded_zero, if_neg (two_zpow_pos _).not_ge]

theorem nearest_onGrid {m : ℕ} {e : ℤ} (h : OnGrid m e) (he : e ≤ 971) :
    nearest (.ofReal (m * 2 ^ e)) = .ofReal (m * 2 ^ e) := by
  rw [nearest_ofReal (digits_nonneg m e), rounded_onGrid h, if_neg (h.lt_limit he).not_ge]

/-- **A greater magnitude has no smaller float.** -/
theorem nearest_mono : Monotone nearest := by
  intro v w h
  by_cases hw : w = ⊤ ∨ 2 ^ (1024 : ℤ) ≤ rounded w.toReal
  · rw [nearest, nearest, if_pos hw]
    exact le_top
  · push Not at hw
    have hle : rounded v.toReal ≤ rounded w.toReal :=
      rounded_mono ENNReal.toReal_nonneg (ENNReal.toReal_mono hw.1 h)
    have hv : ¬ (v = ⊤ ∨ 2 ^ (1024 : ℤ) ≤ rounded v.toReal) := by
      push Not
      exact ⟨ne_top_of_le_ne_top hw.1 h, hle.trans_lt hw.2⟩
    rw [nearest, nearest, if_neg hv, if_neg (by push Not; exact hw)]
    exact ENNReal.ofReal_le_ofReal hle

end Screenplay.Number
