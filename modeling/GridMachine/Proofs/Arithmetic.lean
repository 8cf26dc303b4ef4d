import GridMachine.Operation
import GridMachine.Proofs.Rounding

/-! # What arithmetic gives

`Gives` says what each arithmetic operation gives on two doubles. Sums, differences, products and
quotients are those of doubles. A quotient is cut off toward zero. The modulus is the remainder by
the divisor rounded down, and nothing else is rounded in it: a remainder of doubles is a double,
since it is a multiple of the smaller one of the two last places, and so few times it that a
mantissa can count them (`Representable.mod`). So the modulus can be told over the rationals: from
the dividend it takes the floor of the divisor as often as their quotient says, cut off toward
zero. -/

namespace GridMachine

namespace Exact

variable {a b k : Nat}

/-! ## Remainders of doubles -/

/-- A remainder of doubles is a double. -/
theorem Representable.mod (ha : Representable a) (hb : Representable b) (pos : 0 < b) :
    Representable (a % b) := by
  obtain ⟨m, s, hm, hs, rfl⟩ := ha
  obtain ⟨k, t, hk, ht, rfl⟩ := hb
  -- Count both numbers in the smaller one of their last places.
  rcases Nat.le_total s t with h | h
  · refine ⟨m % (k * 2 ^ (t - s)), s, (Nat.mod_le _ _).trans_lt hm, hs, ?_⟩
    rw [← Nat.mul_mod_mul_right, Nat.mul_assoc, ← Nat.pow_add, Nat.sub_add_cancel h]
  · have hpos : 0 < k := Nat.pos_of_mul_pos_right pos
    refine ⟨m * 2 ^ (s - t) % k, t, (Nat.mod_lt _ hpos).trans hk, ht, ?_⟩
    rw [← Nat.mul_mod_mul_right, Nat.mul_assoc, ← Nat.pow_add, Nat.sub_add_cancel h]

theorem signed_mod (negative negative' : Bool) (a b : Nat) :
    signed negative (a % b) = (signed negative a).tmod (signed negative' b) := by
  cases negative <;> cases negative' <;>
    simp [signed, Int.neg_tmod, Int.tmod_neg, Int.tmod_eq_emod_of_nonneg]

theorem abs_signed (negative : Bool) (n : Nat) : |(signed negative n : ℚ)| = n := by
  cases negative <;> simp [signed]

theorem rem_of_value?_eq_none {x : Exact} (h : x.value? = none) (y : Exact) :
    x.rem y = undefined := by
  cases x with
  | undefined | infinite => rfl
  | finite => cases h

theorem rem_undefined (x : Exact) : x.rem undefined = undefined := by
  cases x <;> rfl

theorem isNaN_undefined : undefined.toFloat.isNaN = true := rfl

/-! ## The remainder by a whole number -/

theorem signed_mod_div_one (negative negative' : Bool) (a k : Nat) :
    (signed negative (a % (k * one)) / one : ℚ) =
      signed negative a / one -
        towardZero (signed negative a / one / signed negative' k) * signed negative' k := by
  have hone : (one : ℚ) ≠ 0 := Nat.cast_ne_zero.2 one_pos.ne'
  have hquotient : (signed negative a / one / signed negative' k : ℚ) =
      signed negative a / (signed negative' (k * one) : ℤ) := by
    rw [signed_mul, div_div, mul_comm]
    push_cast
    rfl
  rw [hquotient, towardZero_div, signed_mod negative negative', Int.tmod_def, signed_mul]
  push_cast
  field_simp

theorem abs_mod_div_one_lt (negative : Bool) (a : Nat) (pos : 0 < k) :
    |(signed negative (a % (k * one)) / one : ℚ)| < k := by
  have hone : (0 : ℚ) < one := Nat.cast_pos.2 one_pos
  have hlt : a % (k * one) < k * one := Nat.mod_lt _ (Nat.mul_pos pos one_pos)
  rw [abs_div, abs_signed, abs_of_pos hone, div_lt_iff₀ hone, ← Nat.cast_mul, Nat.cast_lt]
  exact hlt

end Exact

/-! ## The operations -/

/-- The double `r` is the remainder of the double `x`, which stands for `p`, by a whole number. It
stands for `p` less a multiple of that number, is below it, and keeps the sign of `x`, also on
zero. -/
structure IsRemainder (x : Float) (p : ℚ) (divisor : ℤ) (r : Float) : Prop where
  exact : dyadic? r = some (p - towardZero (p / divisor) * divisor)
  below : ∀ w, dyadic? r = some w → |w| < |(divisor : ℚ)|
  multiple : ∀ w, dyadic? r = some w → ∃ k : ℤ, p - w = k * divisor
  sign : isNegative r = isNegative x

/-- A remainder in quanta, written as a double, is the remainder. -/
theorem Exact.isRemainder_toFloat {x : Float} {negative : Bool} {a k : Nat}
    (hx : ofFloat x = finite negative a) (ha : Representable a) (hk : Representable (k * one))
    (pos : 0 < k) (negative' : Bool) :
    IsRemainder x (signed negative a / one) (signed negative' k)
      (finite negative (a % (k * one))).toFloat := by
  have hmod := ha.mod hk (Nat.mul_pos pos one_pos)
  have hvalue := dyadic?_toFloat negative hmod
  have hremainder := signed_mod_div_one negative negative' a k
  refine ⟨?_, ?_, ?_, ?_⟩
  · rw [hvalue, hremainder]
  · intro w hw
    rw [← Option.some.inj (hvalue.symm.trans hw), abs_signed]
    exact abs_mod_div_one_lt negative a pos
  · intro w hw
    rw [← Option.some.inj (hvalue.symm.trans hw), hremainder, sub_sub_cancel]
    exact ⟨_, rfl⟩
  · rw [isNegative_eq (ofFloat_toFloat negative hmod), isNegative_eq hx]

namespace Arithmetic

variable {x y : Float} {p q : ℚ}

theorem modulo_eq_none_iff (divisor : dyadic? y = some q) :
    modulo.apply x y = none ↔ ⌊q⌋ = 0 := by
  have hzero : (Exact.ofFloat y).floor.isZero = true ↔ ⌊q⌋ = 0 := by
    rw [Exact.isZero_floor_iff, Exact.floor?_ofFloat, divisor, Option.map_some, Option.some.injEq]
  rw [← hzero]
  simp [apply]

theorem modulo_isRemainder (dividend : dyadic? x = some p) (divisor : dyadic? y = some q)
    (nonzero : ⌊q⌋ ≠ 0) : ∃ r, modulo.apply x y = some r ∧ IsRemainder x p ⌊q⌋ r := by
  obtain ⟨negative, a, hx, ha, rfl⟩ := Exact.exists_reading dividend
  obtain ⟨negative', b, hy, hb, rfl⟩ := Exact.exists_reading divisor
  rw [Rat.floor_intCast_div_natCast, ← Exact.signed_floorOnes] at nonzero ⊢
  have hpos : 0 < Exact.floorOnes negative' b := by
    rw [Nat.pos_iff_ne_zero]
    intro hzero
    rw [hzero] at nonzero
    cases negative' <;> exact nonzero rfl
  have hdivisor := Exact.representable_floorOnes negative' hb
  refine ⟨_, ?_, Exact.isRemainder_toFloat hx ha hdivisor hpos negative'⟩
  have hne : Exact.floorOnes negative' b * Exact.one ≠ 0 := (Nat.mul_pos hpos Exact.one_pos).ne'
  rw [apply, hx, hy, Exact.floor_finite]
  simp only [Exact.isZero, Exact.rem, beq_iff_eq, if_neg hne]

/-- There is no value only where the divisor, or for a modulus the divisor rounded down, is zero. -/
theorem apply_eq_none {op : Arithmetic} (h : op.apply x y = none) :
    op = .divide ∧ dyadic? y = some 0 ∨ op = .modulo ∧ ∃ q, dyadic? y = some q ∧ ⌊q⌋ = 0 := by
  cases op with
  | add | subtract | multiply => cases h
  | divide =>
    have hzero : (Exact.ofFloat y).isZero = true := by simpa [apply] using h
    exact .inl ⟨rfl, Exact.isZero_ofFloat_iff.1 hzero⟩
  | modulo =>
    have hzero : (Exact.ofFloat y).floor.isZero = true := by simpa [apply] using h
    rw [Exact.isZero_floor_iff, Exact.floor?_ofFloat] at hzero
    exact .inr ⟨rfl, Option.map_eq_some_iff.1 hzero⟩

/-- What an operation gives, with `left` the number at the destination and `right` the one at the
source. A quotient by zero has no row, nor has a modulus by what is rounded down to zero. -/
inductive Gives (left right : Float) : Arithmetic → Float → Prop
  | add : Gives left right .add (left + right)
  | subtract : Gives left right .subtract (left - right)
  | multiply : Gives left right .multiply (left * right)
  | divide {value : Float} (divisor : dyadic? right ≠ some 0) (cut : IsCut (left / right) value) :
      Gives left right .divide value
  | modulo {p q : ℚ} {value : Float} (dividend : dyadic? left = some p)
      (divisor : dyadic? right = some q) (nonzero : ⌊q⌋ ≠ 0)
      (remainder : IsRemainder left p ⌊q⌋ value) : Gives left right .modulo value
  | moduloInfinity {p : ℚ} (dividend : dyadic? left = some p) (divisor : right.isInf = true) :
      Gives left right .modulo left
  | moduloUndefined {value : Float} (operands : dyadic? left = none ∨ right.isNaN = true)
      (divisor : ∀ q, dyadic? right = some q → ⌊q⌋ ≠ 0) (undefined : value.isNaN = true) :
      Gives left right .modulo value

theorem Gives.of_modulo {value : Float} (h : Arithmetic.modulo.apply x y = some value) :
    Gives x y .modulo value := by
  have hnonzero : ∀ q, dyadic? y = some q → ⌊q⌋ ≠ 0 := by
    intro q hq hzero
    rw [(modulo_eq_none_iff hq).2 hzero] at h
    cases h
  have hvalue : value = ((Exact.ofFloat x).rem (Exact.ofFloat y).floor).toFloat := by
    rw [apply] at h
    split at h <;> cases h
    rfl
  have hx := Exact.value?_ofFloat x
  have hy := Exact.value?_ofFloat y
  have hreads := Exact.reads_ofFloat y
  by_cases hundefined : dyadic? x = none ∨ Exact.ofFloat y = .undefined
  · have hrem : (Exact.ofFloat x).rem (Exact.ofFloat y).floor = .undefined := by
      rcases hundefined with h | h
      · exact Exact.rem_of_value?_eq_none (hx.trans h) _
      · rw [h]
        exact Exact.rem_undefined _
    refine .moduloUndefined ?_ hnonzero ?_
    · refine hundefined.imp_right fun h => ?_
      rw [h] at hreads
      exact Float.Model.UnpackedFloat.isNaN_iff.2 hreads.eq_notANumber
    · rw [hvalue, hrem]
      exact Exact.isNaN_undefined
  · obtain ⟨hfinite, hnumber⟩ := not_or.1 hundefined
    obtain ⟨p, hp⟩ := Option.ne_none_iff_exists'.1 hfinite
    cases hright : Exact.ofFloat y with
    | undefined => exact absurd hright hnumber
    | infinite negative' =>
      rw [hright] at hreads hvalue
      obtain ⟨negative, a, hleft, -, -⟩ := Exact.exists_reading hp
      have hself := Exact.toFloat_ofFloat x
      rw [hleft] at hself hvalue
      obtain rfl : value = x := hvalue.trans hself
      exact .moduloInfinity hp hreads.isInf
    | finite negative' b =>
      rw [hright] at hy
      obtain ⟨r, hr, hremainder⟩ := modulo_isRemainder hp hy.symm (hnonzero _ hy.symm)
      cases hr.symm.trans h
      exact .modulo hp hy.symm (hnonzero _ hy.symm) hremainder

/-- **What is computed is what the table gives.** -/
theorem Gives.of_apply {op : Arithmetic} {value : Float} (h : op.apply x y = some value) :
    Gives x y op value := by
  cases op with
  | add =>
    cases h
    exact .add
  | subtract =>
    cases h
    exact .subtract
  | multiply =>
    cases h
    exact .multiply
  | divide =>
    rw [apply] at h
    split at h
    · cases h
    · rename_i hnonzero
      cases h
      exact .divide (fun hzero => hnonzero (Exact.isZero_ofFloat_iff.2 hzero)) (isCut_trunc _)
  | modulo => exact .of_modulo h

end Arithmetic

end GridMachine
