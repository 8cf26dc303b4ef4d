import Mathlib
import GridMachine.Number.Exact

/-! # Doubles as rationals

A finite double is a signed whole number times a power of two. `dyadic?` takes that number from the
sign, the mantissa and the exponent into which the standard model of doubles unpacks a bit pattern.
`Exact` decodes the pattern on its own and counts quanta instead, and `Reads` relates the two field
by field. From it follows that both stand for the same rational, so that the greatest whole number
not above a reading is the floor of that rational. -/

namespace GridMachine

open Float.Model (UnpackedFloat Format)
open Float.Model.UnpackedFloat (Sign unpackMantissa unpackExponent unpackSign)

/-- The number that an unpacked double stands for, if it is finite. -/
def unpackedValue? : UnpackedFloat → Option ℚ
  | .zero _ => some 0
  | .finite sign mantissa exponent _ => some (sign.apply mantissa * 2 ^ exponent)
  | .infinity _ | .notANumber => none

/-- The number that a double stands for, if it is finite. -/
def dyadic? (x : Float) : Option ℚ := unpackedValue? x.toModel.unpack

/-- Every double is not a number, or infinite, or stands for a rational. -/
theorem dyadic?_eq_none_iff {x : Float} :
    dyadic? x = none ↔ x.isNaN = true ∨ x.isInf = true := by
  show _ ↔ x.toModel.unpack.isNaN = true ∨ x.toModel.unpack.isInf = true
  unfold dyadic?
  cases x.toModel.unpack <;> simp [unpackedValue?, UnpackedFloat.isNaN, UnpackedFloat.isInf]

theorem isFinite_eq (x : Float) : x.isFinite = (dyadic? x).isSome := by
  show x.toModel.unpack.isFinite = _
  unfold dyadic?
  cases x.toModel.unpack <;> rfl

/-! ## The fields of a bit pattern -/

section Fields

variable (bits : BitVec Format.binary64.numBits)

theorem toNat_unpackMantissa : (unpackMantissa bits).toNat = bits.toNat % 2 ^ 52 := by
  simp [unpackMantissa]

theorem toNat_unpackExponent : (unpackExponent bits).toNat = bits.toNat / 2 ^ 52 % 2 ^ 11 := by
  simp [unpackExponent, Nat.shiftRight_eq_div_pow]

theorem toNat_unpackSign : (unpackSign bits).toNat = bits.toNat / 2 ^ 63 % 2 := by
  simp [unpackSign, Nat.shiftRight_eq_div_pow]

theorem unpackSign_eq_zero_iff : unpackSign bits = 0#1 ↔ bits.toNat < 2 ^ 63 := by
  have hbits : bits.toNat < 2 ^ 64 := bits.isLt
  rw [← BitVec.toNat_inj, toNat_unpackSign, BitVec.toNat_ofNat]
  omega

/-- The hidden leading bit stands above the fraction. -/
theorem toNat_leading_append {w : Nat} (fraction : BitVec w) :
    (1#1 ++ fraction).toNat = 2 ^ w + fraction.toNat := by
  rw [BitVec.toNat_append, ← Nat.shiftLeft_add_eq_or_of_lt fraction.isLt, Nat.shiftLeft_eq]
  simp

end Fields

namespace Exact

/-! ## Readings -/

def sign (negative : Bool) : Sign := if negative then .negative else .positive

/-- The reading is that of the unpacked double. A mantissa is counted in quanta by as many doublings
as its exponent is above that of the quantum, and no exponent is below it. Where it could be higher,
the mantissa uses all its bits. -/
inductive Reads : UnpackedFloat → Exact → Prop
  | notANumber : Reads .notANumber undefined
  | infinity (negative : Bool) : Reads (.infinity (sign negative)) (infinite negative)
  | zero (negative : Bool) : Reads (.zero (sign negative)) (finite negative 0)
  | finite (negative : Bool) {mantissa quanta : Nat} {exponent : Int} (doublings : Nat)
      (pos : 0 < mantissa) (above : exponent = doublings - 1074)
      (counted : quanta = mantissa * 2 ^ doublings) (bits : mantissa < 2 ^ 53)
      (leading : 2 ^ 52 ≤ mantissa ∨ doublings = 0) :
      Reads (.finite (sign negative) mantissa exponent pos) (finite negative quanta)

theorem ofBitVec_unpackSign (bits : BitVec Format.binary64.numBits) :
    Sign.ofBitVec (unpackSign bits) = sign (decide (2 ^ 63 ≤ bits.toNat)) := by
  simp only [Sign.ofBitVec, unpackSign_eq_zero_iff, sign, decide_eq_true_eq]
  by_cases h : bits.toNat < 2 ^ 63
  · rw [if_pos h, if_neg (Nat.not_le.2 h)]
  · rw [if_neg h, if_pos (Nat.not_lt.1 h)]

theorem reads_ofBits (bits : UInt64) :
    Reads (UnpackedFloat.unpack Format.binary64 bits.toBitVec) (ofBits bits) := by
  have hexponent := toNat_unpackExponent bits.toBitVec
  have hmantissa := toNat_unpackMantissa bits.toBitVec
  have hfraction := Nat.mod_lt bits.toNat (Nat.two_pow_pos 52)
  have hones : (-1#11).toNat = 2047 := rfl
  -- Both readings look at the same fields, the one as vectors and the other as numbers.
  simp only [UnpackedFloat.unpack, ofBits, ofBitVec_unpackSign, UInt64.toNat_toBitVec,
    Nat.one_shiftLeft, ← BitVec.toNat_inj, hones, BitVec.toNat_ofNat, Nat.zero_mod]
    at hexponent hmantissa ⊢
  rw [← hmantissa] at hfraction
  rw [← hexponent, ← hmantissa]
  split_ifs with hmax hzero hmin hzero
  · exact .infinity _
  · exact .notANumber
  · rw [hzero]
    exact .zero _
  · refine .finite _ 0 _ ?_ ?_ ?_ (.inr rfl)
    · rw [hmin]
      rfl
    · rw [Nat.pow_zero, Nat.mul_one]
    · exact hfraction.trans (by decide)
  · refine .finite _ (bits.toNat / 2 ^ 52 % 2 ^ 11 - 1) _ ?_ ?_ ?_ (.inl ?_)
    · have hbias : Format.binary64.exponentBias = 1023 := rfl
      omega
    · rw [toNat_leading_append, hexponent]
    · rw [toNat_leading_append]
      exact Nat.add_lt_add_left hfraction (2 ^ 52)
    · rw [toNat_leading_append]
      exact Nat.le_add_right _ _

theorem Reads.eq_notANumber {unpacked : UnpackedFloat} (h : Reads unpacked undefined) :
    unpacked = .notANumber := by
  cases h
  rfl

theorem Reads.eq_undefined {x : Exact} (h : Reads .notANumber x) : x = undefined := by
  cases h
  rfl

theorem Reads.isInf {unpacked : UnpackedFloat} {negative : Bool}
    (h : Reads unpacked (infinite negative)) : unpacked.isInf = true := by
  cases h
  rfl

theorem reads_ofFloat (x : Float) : Reads x.toModel.unpack (ofFloat x) := reads_ofBits x.toBits

/-! ## Values -/

/-- A magnitude with its sign. -/
def signed (negative : Bool) (quanta : Nat) : Int :=
  if negative then -(quanta : Int) else quanta

/-- The number that a reading stands for, if it is finite. -/
def value? : Exact → Option ℚ
  | finite negative quanta => some (signed negative quanta / one)
  | _ => none

theorem apply_sign (negative : Bool) (n : Nat) : (sign negative).apply n = signed negative n := by
  cases negative <;> rfl

theorem signed_eq_zero_iff {negative : Bool} {n : Nat} : signed negative n = 0 ↔ n = 0 := by
  cases negative <;> simp [signed]

theorem signed_mul (negative : Bool) (m n : Nat) :
    signed negative (m * n) = signed negative m * n := by
  cases negative <;> simp [signed]

theorem cast_one_shiftLeft (places : Nat) : ((1 <<< places : Nat) : ℚ) = 2 ^ (places : ℤ) := by
  rw [Nat.one_shiftLeft, Nat.cast_pow, Nat.cast_ofNat, zpow_natCast]

theorem cast_one : (one : ℚ) = 2 ^ (1074 : ℤ) := cast_one_shiftLeft 1074

/-- Counting in quanta is dividing by the quantum. -/
theorem signed_mul_div_one (negative : Bool) (mantissa doublings : Nat) :
    (signed negative (mantissa * 2 ^ doublings) / one : ℚ) =
      (sign negative).apply mantissa * 2 ^ ((doublings : ℤ) - 1074) := by
  rw [apply_sign, signed_mul, cast_one, zpow_sub₀ two_ne_zero, zpow_natCast, Int.cast_mul,
    Int.cast_natCast, Nat.cast_pow, Nat.cast_ofNat, mul_div_assoc]

theorem Reads.value?_eq {unpacked : UnpackedFloat} {x : Exact} (h : Reads unpacked x) :
    x.value? = unpackedValue? unpacked := by
  cases h with
  | notANumber | infinity => rfl
  | zero negative => cases negative <;> simp [value?, unpackedValue?, signed]
  | finite negative doublings pos above counted bits leading =>
    subst above counted
    simp only [value?, unpackedValue?, signed_mul_div_one]

/-- **A reading is exact.** A double and its reading stand for the same number. -/
theorem value?_ofFloat (x : Float) : (ofFloat x).value? = dyadic? x := (reads_ofFloat x).value?_eq

/-! ## Floors -/

/-- The greatest whole number not above a finite reading. -/
def floor? : Exact → Option Int
  | finite negative quanta => some (signed negative quanta / (one : Int))
  | _ => none

/-- Only what is not finite has no greatest whole number below it. -/
theorem floor?_eq_none {x : Exact} (h : x.floor? = none) :
    x = undefined ∨ ∃ negative, x = infinite negative := by
  cases x with
  | undefined => exact .inl rfl
  | infinite negative => exact .inr ⟨negative, rfl⟩
  | finite => cases h

theorem floor?_eq (x : Exact) : x.floor? = x.value?.map Int.floor := by
  cases x with
  | undefined | infinite => rfl
  | finite negative quanta =>
    simp only [floor?, value?, Option.map_some, Rat.floor_intCast_div_natCast]

/-- What `floor?` computes of a double is the floor of the rational that it stands for. -/
theorem floor?_ofFloat (x : Float) : (ofFloat x).floor? = (dyadic? x).map Int.floor := by
  rw [floor?_eq, value?_ofFloat]

theorem floor?_of_dyadic? {x : Float} {q : ℚ} (h : dyadic? x = some q) :
    (ofFloat x).floor? = some ⌊q⌋ := by
  rw [floor?_ofFloat, h, Option.map_some]

end Exact

end GridMachine
