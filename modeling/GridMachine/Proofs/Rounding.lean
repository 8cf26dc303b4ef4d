import GridMachine.Proofs.Encoding

/-! # Whole numbers near a double

A double can be rounded down or cut off toward zero to a whole number, which is a double again: it
has no places below one already, or its whole part is small (`Representable.dvd_or_lt`). So nothing
else is rounded on the way, and what comes of it can be told over the rationals. A double that is
converted to a word is cut off first, and the word is what is left if it is in range. -/

namespace GridMachine

/-! ## Cutting off toward zero -/

/-- The whole number next to `q` on the side of zero. -/
def towardZero (q : ℚ) : ℤ := if 0 ≤ q then ⌊q⌋ else ⌈q⌉

theorem towardZero_intCast (n : ℤ) : towardZero n = n := by
  simp [towardZero]

theorem towardZero_neg (q : ℚ) : towardZero (-q) = -towardZero q := by
  unfold towardZero
  rcases lt_trichotomy q 0 with h | rfl | h
  · rw [if_pos (by linarith), if_neg (not_le.2 h), Int.floor_neg]
  · simp
  · rw [if_neg (by linarith), if_pos h.le, Int.ceil_neg]

theorem towardZero_div (u v : ℤ) : towardZero (u / v) = u.tdiv v := by
  have hnat (a b : ℕ) : towardZero (a / b) = (a : ℤ).tdiv b := by
    rw [towardZero, if_pos (by positivity), Rat.floor_natCast_div_natCast,
      Int.tdiv_eq_ediv_of_nonneg (Int.natCast_nonneg a)]
  obtain ⟨a, rfl | rfl⟩ := u.eq_nat_or_neg <;> obtain ⟨b, rfl | rfl⟩ := v.eq_nat_or_neg <;>
    simp [neg_div, div_neg, towardZero_neg, hnat]

namespace Exact

variable {negative : Bool} {quanta k : Nat}

/-! ## Doubles rounded down -/

/-- The number of ones that a magnitude has when it is rounded down, sign and all. -/
def floorOnes (negative : Bool) (quanta : Nat) : Nat :=
  if negative then (quanta + (one - 1)) / one else quanta / one

theorem floor_finite (negative : Bool) (quanta : Nat) :
    floor (finite negative quanta) = finite negative (floorOnes negative quanta * one) := by
  cases negative with
  | false => rw [floor, floorOnes, if_neg Bool.false_ne_true]
  | true => rw [floor, floorOnes, if_pos rfl]

/-- With its sign, it is the greatest whole number not above the reading. -/
theorem signed_floorOnes (negative : Bool) (quanta : Nat) :
    signed negative (floorOnes negative quanta) = signed negative quanta / (one : Int) := by
  have hone := one_pos
  cases negative with
  | false => simp [signed, floorOnes]
  | true =>
    have hlow := Nat.div_mul_le_self (quanta + (one - 1)) one
    have hhigh := Nat.lt_div_mul_add (a := quanta + (one - 1)) hone
    simp only [signed, floorOnes, if_true]
    symm
    rw [Int.ediv_eq_iff_of_pos (Int.natCast_pos.2 hone), Int.neg_mul, ← Int.natCast_mul]
    omega

/-- Rounded down, a reading is zero exactly if the greatest whole number not above it is. -/
theorem isZero_floor_iff {x : Exact} : x.floor.isZero = true ↔ x.floor? = some 0 := by
  cases x with
  | undefined | infinite => simp [floor, isZero, floor?]
  | finite negative quanta =>
    rw [floor_finite, floor?, ← signed_floorOnes, Option.some.injEq, signed_eq_zero_iff, isZero,
      beq_iff_eq, Nat.mul_eq_zero, or_iff_left one_pos.ne']

theorem floorOnes_of_dvd (h : one ∣ quanta) : floorOnes negative quanta * one = quanta := by
  obtain ⟨k, rfl⟩ := h
  cases negative with
  | false =>
    rw [floorOnes, if_neg Bool.false_ne_true, Nat.mul_div_cancel_left k one_pos, Nat.mul_comm]
  | true =>
    have hzero : (one - 1) / one = 0 := Nat.div_eq_of_lt (Nat.sub_one_lt one_pos.ne')
    rw [floorOnes, if_pos rfl, Nat.mul_add_div one_pos, hzero, Nat.add_zero, Nat.mul_comm]

theorem floorOnes_le (h : quanta ≤ k * one) : floorOnes negative quanta ≤ k := by
  have hone := one_pos
  cases negative with
  | false =>
    rw [floorOnes, if_neg Bool.false_ne_true]
    exact Nat.div_le_of_le_mul (by rwa [Nat.mul_comm])
  | true =>
    rw [floorOnes, if_pos rfl, ← Nat.lt_succ_iff, Nat.div_lt_iff_lt_mul hone, Nat.succ_mul]
    omega

/-- One is a power of two. -/
theorem exists_one_eq : ∃ doublings, doublings < 2045 ∧ one = 1 <<< doublings :=
  ⟨1074, by decide, rfl⟩

/-- A double has no places below one, or its whole part is small. -/
theorem Representable.dvd_or_lt (h : Representable quanta) :
    one ∣ quanta ∨ quanta < 2 ^ 53 * one := by
  obtain ⟨m, s, hm, -, rfl⟩ := h
  obtain ⟨d, -, hone⟩ := exists_one_eq
  rw [hone, Nat.one_shiftLeft]
  rcases Nat.le_total d s with h | h
  · exact .inl (Nat.dvd_mul_left_of_dvd (Nat.pow_dvd_pow 2 h) m)
  · have hpow : 2 ^ s ≤ 2 ^ d := Nat.pow_le_pow_right (by decide) h
    exact .inr (Nat.mul_lt_mul_of_lt_of_le hm hpow (Nat.two_pow_pos d))

theorem representable_mul_one (h : k ≤ 2 ^ 53) : Representable (k * one) := by
  obtain ⟨d, hd, hone⟩ := exists_one_eq
  rw [hone, Nat.one_shiftLeft]
  rcases Nat.lt_or_eq_of_le h with h | rfl
  · exact ⟨k, d, h, by omega, rfl⟩
  · refine ⟨2 ^ 52, d + 1, by decide, by omega, ?_⟩
    rw [← Nat.pow_add, ← Nat.pow_add, Nat.add_comm d 1, ← Nat.add_assoc]

/-- A double rounded down is a double. -/
theorem representable_floorOnes (negative : Bool) (h : Representable quanta) :
    Representable (floorOnes negative quanta * one) := by
  rcases h.dvd_or_lt with hdvd | hlt
  · rw [floorOnes_of_dvd hdvd]
    exact h
  · exact representable_mul_one (floorOnes_le hlt.le)

/-- A double that stands for a number is read as a number of quanta, with the bit of its sign. -/
theorem exists_reading {x : Float} {p : ℚ} (h : dyadic? x = some p) :
    ∃ negative quanta, ofFloat x = finite negative quanta ∧ Representable quanta ∧
      p = signed negative quanta / one := by
  rw [← value?_ofFloat] at h
  cases hx : ofFloat x with
  | undefined | infinite =>
    rw [hx] at h
    cases h
  | finite negative quanta =>
    rw [hx] at h
    exact ⟨negative, quanta, rfl, representable_of_ofBits hx, (Option.some.inj h).symm⟩

/-- A number of quanta that is written as a double is worth what it was. -/
theorem dyadic?_toFloat (negative : Bool) (h : Representable quanta) :
    dyadic? (finite negative quanta).toFloat = some (signed negative quanta / one : ℚ) := by
  rw [← value?_ofFloat, ofFloat_toFloat negative h, value?]

theorem signed_mul_one_div (negative : Bool) (k : Nat) :
    (signed negative (k * one) / one : ℚ) = signed negative k := by
  have hone : (one : ℚ) ≠ 0 := Nat.cast_ne_zero.2 one_pos.ne'
  rw [signed_mul, Int.cast_mul, Int.cast_natCast, mul_div_cancel_right₀ _ hone]

theorem signed_div (negative : Bool) (a b : Nat) :
    signed negative (a / b) = (signed negative a).tdiv b := by
  cases negative <;> simp [signed, Int.neg_tdiv, Int.tdiv_eq_ediv_of_nonneg]

theorem isZero_ofFloat_iff {x : Float} : (ofFloat x).isZero = true ↔ dyadic? x = some 0 := by
  have hone : (one : ℚ) ≠ 0 := Nat.cast_ne_zero.2 one_pos.ne'
  rw [← value?_ofFloat]
  cases ofFloat x with
  | undefined | infinite => simp [isZero, value?]
  | finite negative quanta =>
    rw [isZero, value?, beq_iff_eq, Option.some.injEq, div_eq_zero_iff, or_iff_left hone,
      Int.cast_eq_zero, signed_eq_zero_iff]

end Exact

/-! ## Rounding down -/

variable {x : Float} {q : ℚ}

open Exact in
/-- Rounded down, a double is worth the floor of what it was. -/
theorem dyadic?_floor (h : dyadic? x = some q) :
    dyadic? (ofFloat x).floor.toFloat = some (⌊q⌋ : ℚ) := by
  obtain ⟨negative, quanta, hx, hquanta, rfl⟩ := exists_reading h
  rw [hx, floor_finite, dyadic?_toFloat negative (representable_floorOnes negative hquanta),
    signed_mul_one_div, signed_floorOnes, Rat.floor_intCast_div_natCast]

/-! ## Signs -/

/-- Whether the bit of the sign is set. -/
def isNegative (x : Float) : Bool := x.toBits.toBitVec.msb

theorem Exact.isNegative_eq {x : Float} {negative : Bool} {quanta : Nat}
    (h : ofFloat x = finite negative quanta) : isNegative x = negative := by
  unfold ofFloat ofBits at h
  dsimp only at h
  rw [isNegative, BitVec.msb_eq_decide]
  simp only [Nat.one_shiftLeft] at h
  split_ifs at h <;> exact (finite.inj h).1

/-! ## Cutting off -/

/-- The double `r` is `x` cut off to a whole number. It keeps the sign, also on zero, and what is
not finite stays as it is. -/
structure IsCut (x r : Float) : Prop where
  whole : ∀ q, dyadic? x = some q → dyadic? r = some (towardZero q : ℚ)
  sign : isNegative r = isNegative x
  other : dyadic? x = none → r = x

theorem IsCut.of_none (h : dyadic? x = none) : IsCut x x := by
  refine ⟨?_, rfl, fun _ => rfl⟩
  intro q hq
  rw [h] at hq
  cases hq

open Exact in
theorem isCut_trunc (x : Float) : IsCut x (ofFloat x).trunc.toFloat := by
  have hself := toFloat_ofFloat x
  have hvalue := value?_ofFloat x
  cases hx : ofFloat x with
  | undefined | infinite =>
    rw [hx] at hself hvalue
    rw [trunc, hself]
    · exact .of_none hvalue.symm
    · nofun
  | finite negative quanta =>
    rw [hx] at hvalue
    have hwhole : Representable (quanta / one * one) :=
      representable_floorOnes false (representable_of_ofBits hx)
    refine ⟨?_, ?_, ?_⟩
    · intro q hq
      obtain rfl := Option.some.inj (hvalue.trans hq)
      rw [trunc, dyadic?_toFloat negative hwhole, signed_mul_one_div, signed_div, ← towardZero_div,
        Int.cast_natCast]
    · rw [trunc, isNegative_eq (ofFloat_toFloat negative hwhole), isNegative_eq hx]
    · intro hnone
      rw [hnone] at hvalue
      cases hvalue

/-! ## Words -/

section Words

open Float.Model.UnpackedFloat

/-- Dropping bits one at a time comes to one division. -/
theorem mantissa_shiftRight (em : ExtendedMantissa) (places : Nat) :
    (em >>> places).mantissa = em.mantissa / 2 ^ places := by
  induction places with
  | zero => exact (Nat.div_one _).symm
  | succ places ih =>
    show (em >>> places).mantissa / 2 = _
    rw [ih, Nat.div_div_eq_div_mul, Nat.pow_succ]

/-- Rounding to an integer cuts off what is below one. -/
theorem roundToInt_eq (s : Sign) (mantissa : Nat) (exponent : Int) :
    roundToInt s mantissa exponent = towardZero (s.apply mantissa * 2 ^ exponent) := by
  show s.apply (ExtendedMantissa.ofMantissaAndAccuracy (mantissa <<< (exponent - 0).toNat)
    .exact >>> (0 - (exponent - (exponent - 0).toNat)).toNat).mantissa = _
  rw [mantissa_shiftRight, ExtendedMantissa.ofMantissaAndAccuracy, Nat.shiftLeft_eq]
  obtain ⟨k, rfl | rfl⟩ := exponent.eq_nat_or_neg
  · have hleft : ((k : Int) - 0).toNat = k := by omega
    have hright : (0 - ((k : Int) - (k : Nat))).toNat = 0 := by omega
    have hvalue : (s.apply mantissa * 2 ^ (k : ℤ) : ℚ) =
        (s.apply (mantissa * 2 ^ k : Nat) : ℤ) := by
      cases s <;> simp [Sign.apply]
    rw [hleft, hright, Nat.pow_zero, Nat.div_one, hvalue, towardZero_intCast]
  · have hleft : (-(k : Int) - 0).toNat = 0 := by omega
    have hright : (0 - (-(k : Int) - (0 : Nat))).toNat = k := by omega
    have hvalue : (s.apply mantissa * 2 ^ (-(k : ℤ)) : ℚ) =
        (s.apply mantissa : ℤ) / ((2 ^ k : ℕ) : ℤ) := by
      rw [zpow_neg, zpow_natCast, ← div_eq_mul_inv]
      push_cast
      rfl
    rw [hleft, hright, Nat.pow_zero, Nat.mul_one, hvalue, towardZero_div]
    cases s <;> simp [Sign.apply, Int.neg_tdiv, Int.tdiv_eq_ediv_of_nonneg]

theorem toInt_eq {u : Float.Model.UnpackedFloat} (h : unpackedValue? u = some q)
    (least greatest : Int) : u.toInt least greatest = towardZero q := by
  cases u with
  | notANumber | infinity => cases h
  | zero =>
    obtain rfl := Option.some.inj h
    rfl
  | finite s mantissa exponent pos =>
    obtain rfl := Option.some.inj h
    exact roundToInt_eq s mantissa exponent

/-- A double that comes to a word when it is cut off is converted to that word. -/
theorem nearestWord_eq {w : Int64} (h : dyadic? x = some q) (hw : w.toInt = towardZero q) :
    nearestWord x = w := by
  show Int64.ofIntClamp (x.toModel.unpack.toInt _ _) = w
  rw [toInt_eq h, ← hw, Int64.ofIntClamp, dif_pos w.minValue_le_toInt, dif_pos w.toInt_le,
    Int64.ofIntLE_toInt]

end Words

end GridMachine
