import GridMachine.Operation
import GridMachine.Proofs.Dyadic

/-! # The order of doubles

Doubles are compared by their fields: the signs first, then the exponents, then the mantissas. That
is the order of the numbers they stand for only because a mantissa uses all its bits where the
exponent could be higher, so that a higher exponent outweighs every mantissa
(`mul_two_pow_lt_of_lt`). `extended?` adds the infinities at the ends, and what is not a number
stands nowhere. -/

namespace GridMachine

open Float.Model (UnpackedFloat)

/-- The number that an unpacked double stands for among the rationals and the two infinities, if it
is a number. -/
def unpackedExtended? : UnpackedFloat → Option (WithBot (WithTop ℚ))
  | .notANumber => none
  | .infinity .positive => some ⊤
  | .infinity .negative => some ⊥
  | u => (unpackedValue? u).map fun q : ℚ => ((q : WithTop ℚ) : WithBot (WithTop ℚ))

/-- The number that a double stands for among the rationals and the two infinities, if it is a
number. -/
def extended? (x : Float) : Option (WithBot (WithTop ℚ)) := unpackedExtended? x.toModel.unpack

theorem unpackedExtended?_of_value? {u : UnpackedFloat} {q : ℚ} (h : unpackedValue? u = some q) :
    unpackedExtended? u = some ((q : WithTop ℚ) : WithBot (WithTop ℚ)) := by
  cases u with
  | notANumber | infinity => cases h
  | zero | finite => rw [unpackedExtended?, h, Option.map_some] <;> nofun

namespace Exact

/-! ## Magnitudes -/

/-- A higher exponent outweighs every mantissa. -/
theorem mul_two_pow_lt_of_lt {m n s t : Nat} (bits : m < 2 ^ 53) (leading : 2 ^ 52 ≤ n ∨ t = 0)
    (h : s < t) : m * 2 ^ s < n * 2 ^ t := by
  have hn : 2 ^ 52 ≤ n := by omega
  calc m * 2 ^ s < 2 ^ 53 * 2 ^ s := Nat.mul_lt_mul_of_pos_right bits (Nat.two_pow_pos s)
    _ = 2 ^ 52 * 2 ^ (s + 1) := by
      rw [← Nat.pow_add, ← Nat.pow_add, Nat.add_comm s, ← Nat.add_assoc]
    _ ≤ n * 2 ^ t := Nat.mul_le_mul hn (Nat.pow_le_pow_right (by decide) h)

theorem compare_fields {m n s t : Nat} (bits : m < 2 ^ 53) (leading : 2 ^ 52 ≤ m ∨ s = 0)
    (bits' : n < 2 ^ 53) (leading' : 2 ^ 52 ≤ n ∨ t = 0) :
    (compare (s - 1074 : Int) (t - 1074)).then (compare m n) = cmp (m * 2 ^ s) (n * 2 ^ t) := by
  rcases Nat.lt_trichotomy s t with h | rfl | h
  · have hexponent : compare (s - 1074 : Int) (t - 1074) = .lt := Int.compare_eq_lt.2 (by omega)
    rw [hexponent, (mul_two_pow_lt_of_lt bits leading' h).cmp_eq_lt, Ordering.lt_then]
  · have hexponent : compare (s - 1074 : Int) (s - 1074) = .eq := Int.compare_eq_eq.2 rfl
    have hmono : StrictMono (· * 2 ^ s : Nat → Nat) := fun a b h =>
      Nat.mul_lt_mul_of_pos_right h (Nat.two_pow_pos s)
    rw [hexponent, hmono.cmp_map_eq, cmp_eq_compare, Ordering.eq_then]
  · have hexponent : compare (s - 1074 : Int) (t - 1074) = .gt := Int.compare_eq_gt.2 (by omega)
    rw [hexponent, (mul_two_pow_lt_of_lt bits' leading h).cmp_eq_gt, Ordering.gt_then]

theorem cmp_signed (negative : Bool) (a b : Nat) :
    cmp (signed negative a) (signed negative b) =
      if negative then (cmp a b).swap else cmp a b := by
  cases negative with
  | false => exact Nat.strictMono_cast.cmp_map_eq a b
  | true =>
    rw [cmp_swap]
    have hmono : StrictAnti (fun n : Nat => -(n : Int)) := fun a b h => by
      show -(b : Int) < -(a : Int)
      omega
    exact hmono.cmp_map_eq a b

theorem signed_true_lt {a b : Nat} (pos : 0 < b) : signed true a < signed false b := by
  show -(a : Int) < (b : Int)
  omega

/-! ## Readings -/

theorem signed_zero (negative : Bool) : signed negative 0 = 0 := signed_eq_zero_iff.2 rfl

theorem cmp_zero_signed {a : Nat} (negative : Bool) (pos : 0 < a) :
    cmp 0 (signed negative a) = if negative then .gt else .lt := by
  cases negative with
  | false => exact LT.lt.cmp_eq_lt (Int.natCast_pos.2 pos)
  | true => exact LT.lt.cmp_eq_gt (Int.neg_neg_of_pos (Int.natCast_pos.2 pos))

theorem cmp_signed_zero {a : Nat} (negative : Bool) (pos : 0 < a) :
    cmp (signed negative a) 0 = if negative then .lt else .gt := by
  rw [← cmp_swap, cmp_zero_signed negative pos]
  cases negative <;> rfl

variable {u v : UnpackedFloat} {x y : Exact} {negative negative' : Bool} {a b : Nat}

/-- Finite doubles are in the order of their signed numbers of quanta. -/
theorem Reads.compare_finite (hu : Reads u (.finite negative a))
    (hv : Reads v (.finite negative' b)) :
    u.compare v = some (cmp (signed negative a) (signed negative' b)) := by
  cases hu with
  | zero =>
    rw [signed_zero]
    cases hv with
    | zero => rw [signed_zero, cmp_self_eq_eq, UnpackedFloat.compare]
    | finite _ t pos above counted =>
      subst counted
      rw [cmp_zero_signed negative' (Nat.mul_pos pos (Nat.two_pow_pos t))]
      cases negative' <;> rfl
  | finite _ s pos above counted bits leading =>
    subst counted above
    have hpos := Nat.mul_pos pos (Nat.two_pow_pos s)
    cases hv with
    | zero =>
      rw [signed_zero, cmp_signed_zero negative hpos]
      cases negative <;> rfl
    | finite _ t pos' above' counted' bits' leading' =>
      subst counted' above'
      have hpos' := Nat.mul_pos pos' (Nat.two_pow_pos t)
      have hfields := compare_fields bits leading bits' leading'
      cases negative <;> cases negative'
      · rw [cmp_signed, ← hfields]
        rfl
      · rw [(signed_true_lt hpos).cmp_eq_gt]
        rfl
      · rw [(signed_true_lt hpos').cmp_eq_lt]
        rfl
      · rw [cmp_signed, ← hfields]
        rfl

theorem strictMono_counted : StrictMono fun k : ℤ =>
    (((k / one : ℚ) : WithTop ℚ) : WithBot (WithTop ℚ)) := by
  intro a b h
  have hone : (0 : ℚ) < one := Nat.cast_pos.2 one_pos
  rw [WithBot.coe_lt_coe, WithTop.coe_lt_coe, div_lt_div_iff_of_pos_right hone, Int.cast_lt]
  exact h

theorem Reads.extended?_eq (hu : Reads u (.finite negative a)) :
    unpackedExtended? u =
      some (((signed negative a / one : ℚ) : WithTop ℚ) : WithBot (WithTop ℚ)) :=
  unpackedExtended?_of_value? hu.value?_eq.symm

/-- **Doubles are compared as what they stand for.** -/
theorem Reads.compare_eq (hu : Reads u x) (hv : Reads v y) :
    u.compare v = Option.map₂ cmp (unpackedExtended? u) (unpackedExtended? v) := by
  cases x with
  | undefined =>
    cases hu
    rfl
  | infinite negative =>
    cases hu
    cases y with
    | undefined =>
      cases hv
      cases negative <;> rfl
    | infinite negative' =>
      cases hv
      cases negative <;> cases negative' <;> rfl
    | finite negative' b =>
      rw [hv.extended?_eq]
      cases hv with
      | zero | finite => cases negative <;> cases negative' <;> rfl
  | finite negative a =>
    rw [hu.extended?_eq]
    cases y with
    | undefined =>
      cases hv
      cases hu <;> rfl
    | infinite negative' =>
      cases hv
      cases hu with
      | zero | finite => cases negative <;> cases negative' <;> rfl
    | finite negative' b =>
      rw [hv.extended?_eq, hu.compare_finite hv, Option.map₂_some_some]
      exact congrArg some (strictMono_counted.cmp_map_eq _ _).symm

end Exact

/-! ## Doubles -/

variable {x y : Float} {p q : ℚ}

theorem compare_eq (x y : Float) :
    x.toModel.unpack.compare y.toModel.unpack = Option.map₂ cmp (extended? x) (extended? y) :=
  (Exact.reads_ofFloat x).compare_eq (Exact.reads_ofFloat y)

theorem beq_iff : (x == y) = true ↔ ∃ p q, extended? x = some p ∧ extended? y = some q ∧ p = q := by
  show (x.toModel.unpack.compare y.toModel.unpack == some .eq) = true ↔ _
  rw [compare_eq, beq_iff_eq, Option.map₂_eq_some_iff]
  simp only [cmp_eq_eq_iff, Option.mem_def]

theorem lt_iff : x < y ↔ ∃ p q, extended? x = some p ∧ extended? y = some q ∧ p < q := by
  show decide ((x.toModel.unpack.compare y.toModel.unpack == some .lt) = true) = true ↔ _
  rw [decide_eq_true_iff, compare_eq, beq_iff_eq, Option.map₂_eq_some_iff]
  simp only [cmp_eq_lt_iff, Option.mem_def]

theorem extended?_of_dyadic? (h : dyadic? x = some p) :
    extended? x = some ((p : WithTop ℚ) : WithBot (WithTop ℚ)) :=
  unpackedExtended?_of_value? h

theorem lt_iff_of_dyadic? (hx : dyadic? x = some p) (hy : dyadic? y = some q) : x < y ↔ p < q := by
  rw [lt_iff, extended?_of_dyadic? hx, extended?_of_dyadic? hy]
  simp

theorem le_iff_of_dyadic? (hx : dyadic? x = some p) (hy : dyadic? y = some q) : x ≤ y ↔ p ≤ q := by
  show decide ((x.toModel.unpack.compare y.toModel.unpack).any (·.isLE) = true) = true ↔ _
  rw [decide_eq_true_iff, compare_eq, extended?_of_dyadic? hx, extended?_of_dyadic? hy,
    Option.map₂_some_some, Option.any_some, Ordering.isLE_iff_ne_gt, cmp_eq_gt_iff, not_lt,
    WithBot.coe_le_coe, WithTop.coe_le_coe]

/-- When a test holds, by the numbers that are compared. One that is no number is not equal to
anything, nor below or above it. -/
def Comparison.Holds (test : Comparison) (x y : Float) : Prop :=
  ∃ p q, extended? x = some p ∧ extended? y = some q ∧
    match test with
    | equal => p = q
    | lessThan => p < q

theorem Comparison.holds_iff {test : Comparison} : test.holds x y = true ↔ test.Holds x y := by
  cases test with
  | equal => exact beq_iff
  | lessThan =>
    rw [holds, decide_eq_true_iff]
    exact lt_iff

end GridMachine
