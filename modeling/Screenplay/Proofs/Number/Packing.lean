/-
Floats taken apart and put together again. What is unpacked is in the form that the
format has for it: the digits of a finite float are on the grid, and its exponent is
at most 971 (`form_unpack`). A float in that form is the same after it was packed
(`Form.stored_eq`); one whose exponent is too large becomes infinite.
-/
import Screenplay.Proofs.Number.Rounding

namespace Screenplay.Number

open Float.Model (Format UnpackedFloat)
open Float.Model.UnpackedFloat (Sign pack unpack packComponents packedInfinity unpackSign unpackExponent
  unpackMantissa unpackMantissa_packComponents unpackExponent_packComponents)

/-- The unpacked floats that have bits. -/
inductive Form : UnpackedFloat → Prop
  | notANumber : Form .notANumber
  | infinity (s : Sign) : Form (.infinity s)
  | zero (s : Sign) : Form (.zero s)
  | finite (s : Sign) {m : ℕ} {e : ℤ} (hm : 0 < m) : OnGrid m e → e ≤ 971 → Form (.finite s m e hm)

/-! ## The parts -/

theorem exponentBias_eq : Format.binary64.exponentBias = 1023 := rfl

theorem sign_packComponents (s : Sign) (exponent : BitVec 11) (mantissa : BitVec 52) :
    Sign.ofBitVec (unpackSign (packComponents .binary64 s exponent mantissa)) = s := by
  have h : unpackSign (packComponents .binary64 s exponent mantissa) = s.toBitVec := by
    rw [unpackSign, packComponents, BitVec.extractLsb, BitVec.extractLsb'_append_eq_of_le (by decide),
      BitVec.extractLsb'_append_eq_of_le (by decide)]
    exact BitVec.extractLsb'_eq_self
  rw [h]
  cases s <;> rfl

theorem toNat_append_one (v : BitVec 52) : (1#1 ++ v).toNat = 2 ^ 52 + v.toNat := by
  rw [BitVec.toNat_append, ← Nat.shiftLeft_add_eq_or_of_lt v.isLt, Nat.shiftLeft_eq]
  simp

theorem log2_eq_52 {m : ℕ} (hlow : 2 ^ 52 ≤ m) (hhigh : m < 2 ^ 53) : m.log2 = 52 :=
  (Nat.log2_eq_iff (by omega)).2 ⟨hlow, hhigh⟩

theorem pack_normal (s : Sign) {m : ℕ} {e : ℤ} (hm : 0 < m) (hlow : 2 ^ 52 ≤ m) (hhigh : m < 2 ^ 53)
    (hleast : -1074 ≤ e) (hmost : e ≤ 971) :
    pack .binary64 (.finite s m e hm) =
      packComponents .binary64 s (.ofNat 11 (e + 1075).toNat) (.ofNat 52 m) := by
  have hbias : (e + (Format.binary64.exponentBias : ℕ) + (52 : ℕ)).toNat = (e + 1075).toNat := by
    rw [exponentBias_eq]
    omega
  have hbits : Format.binary64.mantissaBits = 53 := rfl
  have hroom : ¬ 2 ^ Format.binary64.exponentBits ≤ (e + 1075).toNat + 1 := by
    show ¬ 2048 ≤ _
    omega
  rw [pack, hbias, log2_eq_52 hlow hhigh, hbits, if_neg hroom, if_pos rfl]

theorem pack_subnormal (s : Sign) {m : ℕ} (hm : 0 < m) (hhigh : m < 2 ^ 52) :
    pack .binary64 (.finite s m (-1074) hm) = packComponents .binary64 s 0#11 (.ofNat 52 m) := by
  have hlog : m.log2 < 52 := (Nat.log2_lt hm.ne').2 hhigh
  have hbits : Format.binary64.mantissaBits = 53 := rfl
  rw [pack, hbits, if_neg (by decide), if_neg (by omega)]

theorem pack_overflow (s : Sign) {m : ℕ} {e : ℤ} (hm : 0 < m) (hmost : 971 < e) :
    pack .binary64 (.finite s m e hm) = packedInfinity .binary64 s := by
  rw [pack, exponentBias_eq, if_pos]
  show 2048 ≤ (e + (1023 : ℕ) + (52 : ℕ)).toNat + 1
  omega

/-! ## Round trips -/

/-- What is left of a float in its bits. -/
def stored (u : UnpackedFloat) : UnpackedFloat := unpack .binary64 (pack .binary64 u)

/-- The product of floats is that of the unpacked ones, stored. -/
theorem unpack_mul (x y : Float) :
    (x * y).toModel.unpack = stored (.mul .binary64 x.toModel.unpack y.toModel.unpack) := rfl

theorem unpack_div (x y : Float) :
    (x / y).toModel.unpack = stored (.div .binary64 x.toModel.unpack y.toModel.unpack) := rfl

theorem stored_overflow (s : Sign) {m : ℕ} {e : ℤ} (hm : 0 < m) (hmost : 971 < e) :
    stored (.finite s m e hm) = .infinity s := by
  rw [stored, pack_overflow s hm hmost]
  cases s <;> rfl

theorem stored_normal (s : Sign) {m : ℕ} {e : ℤ} (hm : 0 < m) (hlow : 2 ^ 52 ≤ m) (hhigh : m < 2 ^ 53)
    (hleast : -1074 ≤ e) (hmost : e ≤ 971) : stored (.finite s m e hm) = .finite s m e hm := by
  have hexp : (BitVec.ofNat 11 (e + 1075).toNat).toNat = (e + 1075).toNat := by
    rw [BitVec.toNat_ofNat, Nat.mod_eq_of_lt (by omega)]
  -- neither the exponent of what is not finite, nor that of the least floats
  have hall : BitVec.ofNat 11 (e + 1075).toNat ≠ -1#11 := by
    intro h
    have : (e + 1075).toNat = 2047 := by rw [← hexp, h]; rfl
    omega
  have hzero : BitVec.ofNat 11 (e + 1075).toNat ≠ 0#11 := by
    intro h
    have : (e + 1075).toNat = 0 := by rw [← hexp, h]; rfl
    omega
  have hdigits : (1#1 ++ BitVec.ofNat 52 m).toNat = m := by
    rw [toNat_append_one, BitVec.toNat_ofNat]
    omega
  have hback : ((e + 1075).toNat : ℤ) - ((Format.binary64.exponentBias : ℕ) + (52 : ℕ)) = e := by
    rw [exponentBias_eq]
    omega
  rw [stored, pack_normal s hm hlow hhigh hleast hmost, unpack]
  simp only [unpackMantissa_packComponents, unpackExponent_packComponents, sign_packComponents, if_neg hall,
    if_neg hzero, hexp, hdigits, hback]

theorem stored_subnormal (s : Sign) {m : ℕ} (hm : 0 < m) (hhigh : m < 2 ^ 52) :
    stored (.finite s m (-1074) hm) = .finite s m (-1074) hm := by
  have hdigits : (BitVec.ofNat 52 m).toNat = m := by
    rw [BitVec.toNat_ofNat, Nat.mod_eq_of_lt hhigh]
  have hzero : BitVec.ofNat 52 m ≠ 0#52 := by
    intro h
    have : m = 0 := by rw [← hdigits, h]; rfl
    omega
  rw [stored, pack_subnormal s hm hhigh, unpack]
  simp only [unpackMantissa_packComponents, unpackExponent_packComponents, sign_packComponents, hdigits, hzero,
    reduceDIte, if_true]
  rfl

/-- **What is in the form of the format is not changed by its bits.** -/
theorem Form.stored_eq {u : UnpackedFloat} (h : Form u) : stored u = u := by
  cases h with
  | notANumber => rfl
  | infinity s => cases s <;> rfl
  | zero s => cases s <;> rfl
  | @finite s m e hm hgrid hmost =>
    by_cases hlow : 2 ^ 52 ≤ m
    · exact stored_normal s hm hlow hgrid.short hgrid.least hmost
    · obtain rfl : e = -1074 := hgrid.full.resolve_left hlow
      exact stored_subnormal s hm (by omega)

/-- **What is unpacked is in the form of the format.** -/
theorem form_unpack (b : BitVec 64) : Form (unpack .binary64 b) := by
  have hexp : (@unpackExponent .binary64 b).toNat < 2 ^ 11 := BitVec.isLt _
  have hdigits : (@unpackMantissa .binary64 b).toNat < 2 ^ 52 := BitVec.isLt _
  rw [unpack]
  dsimp only
  split_ifs with hall hnone hzero hnone
  · exact .infinity _
  · exact .notANumber
  · exact .zero _
  · have hfirst : (@unpackExponent .binary64 b).toNat = 0 := by rw [hzero]; rfl
    refine .finite _ _ ⟨by omega, ?_, ?_⟩ ?_ <;> simp [hfirst, exponentBias_eq]
  · have hfirst : (@unpackExponent .binary64 b).toNat ≠ 0 := by
      intro h
      exact hzero (BitVec.eq_of_toNat_eq h)
    have hlast : (@unpackExponent .binary64 b).toNat ≠ 2047 := by
      intro h
      exact hall (BitVec.eq_of_toNat_eq h)
    refine .finite _ _ ⟨?_, ?_, ?_⟩ ?_
    · rw [toNat_append_one]; omega
    · simp [exponentBias_eq]; omega
    · left; rw [toNat_append_one]; omega
    · simp [exponentBias_eq]; omega

end Screenplay.Number
