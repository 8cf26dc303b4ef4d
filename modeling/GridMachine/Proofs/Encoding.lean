import GridMachine.Proofs.Dyadic

/-! # Doubles from readings

A double has a mantissa of 53 bits and an exponent of eleven, so not every number of quanta is that
of a double. Those that are, are `Representable`. `toFloat` writes such a number of quanta into the
fields of a bit pattern, and the double that has this pattern is read back as the same number
(`ofFloat_toFloat`): nothing is rounded. Nor is anything lost the other way, and a double whose
reading is written is that double (`toFloat_ofFloat`). The standard model of doubles takes a pattern
apart and puts it together again when it makes a double of it. For whatever is a number this changes
no bit (`toBits_float`). -/

namespace GridMachine

open Float.Model (UnpackedFloat Format)
open Float.Model.UnpackedFloat (unpack pack pack_unpack isNaNBits)

namespace Exact

/-! ## The numbers of quanta of doubles -/

/-- The number of quanta of some finite double: a mantissa of at most 53 bits, doubled as often as
an exponent can say. -/
def Representable (quanta : Nat) : Prop :=
  ∃ mantissa doublings, mantissa < 2 ^ 53 ∧ doublings ≤ 2045 ∧ quanta = mantissa * 2 ^ doublings

theorem representable_of_ofBits {bits : UInt64} {negative : Bool} {quanta : Nat}
    (h : ofBits bits = finite negative quanta) : Representable quanta := by
  unfold ofBits at h
  simp only [Nat.one_shiftLeft] at h
  split_ifs at h with hmax hzero hmin
  · obtain ⟨-, rfl⟩ := finite.inj h
    exact ⟨_, 0, by omega, by omega, (Nat.mul_one _).symm⟩
  · obtain ⟨-, rfl⟩ := finite.inj h
    exact ⟨_, _, by omega, by omega, rfl⟩

/-- The places below the mantissa are all zero, and there are not too many of them. -/
theorem Representable.places {quanta : Nat} (h : Representable quanta) (large : 2 ^ 52 ≤ quanta) :
    quanta.log2 - 52 ≤ 2045 ∧ 2 ^ (quanta.log2 - 52) ∣ quanta := by
  obtain ⟨mantissa, doublings, hmantissa, hdoublings, rfl⟩ := h
  have hlog : (mantissa * 2 ^ doublings).log2 < 53 + doublings := by
    rw [Nat.log2_lt (by omega), Nat.pow_add]
    exact Nat.mul_lt_mul_of_pos_right hmantissa (Nat.two_pow_pos doublings)
  refine ⟨by omega, Nat.dvd_mul_left_of_dvd (Nat.pow_dvd_pow 2 ?_) mantissa⟩
  omega

/-- Cut off below its 53rd significant bit, a number has 53 bits. -/
theorem cut_bounds {quanta : Nat} (large : 2 ^ 52 ≤ quanta) :
    2 ^ 52 ≤ quanta / 2 ^ (quanta.log2 - 52) ∧ quanta / 2 ^ (quanta.log2 - 52) < 2 ^ 53 := by
  have hne : quanta ≠ 0 := by omega
  have hlog : 52 ≤ quanta.log2 := (Nat.le_log2 hne).2 large
  have hpos := Nat.two_pow_pos (quanta.log2 - 52)
  rw [Nat.le_div_iff_mul_le hpos, Nat.div_lt_iff_lt_mul hpos, ← Nat.pow_add, ← Nat.pow_add,
    Nat.add_sub_cancel' hlog, show 53 + (quanta.log2 - 52) = quanta.log2 + 1 by omega]
  exact ⟨Nat.log2_self_le hne, Nat.lt_log2_self⟩

/-! ## Writing a reading -/

/-- The number of quanta that the two fields below the sign stand for. -/
def quantaOf (exponent fraction : Nat) : Nat :=
  if exponent = 0 then fraction else (2 ^ 52 + fraction) * 2 ^ (exponent - 1)

theorem log2_sub_eq_zero {quanta : Nat} (small : quanta < 2 ^ 52) : quanta.log2 - 52 = 0 := by
  by_cases hzero : quanta = 0
  · simp [hzero]
  · have hlog : quanta.log2 < 52 := (Nat.log2_lt hzero).2 small
    omega

/-- The bits of a magnitude are two fields that stand for it. -/
theorem Representable.exists_fields {quanta : Nat} (h : Representable quanta) :
    ∃ exponent fraction, exponent < 2047 ∧ fraction < 2 ^ 52 ∧
      magnitudeBits quanta = exponent * 2 ^ 52 + fraction ∧
      quanta = quantaOf exponent fraction := by
  simp only [magnitudeBits, Nat.one_shiftLeft]
  by_cases hsmall : quanta < 2 ^ 52
  · exact ⟨0, quanta, by decide, hsmall, by simp [log2_sub_eq_zero hsmall], rfl⟩
  · have hlarge : 2 ^ 52 ≤ quanta := Nat.not_lt.1 hsmall
    obtain ⟨hplaces, hdvd⟩ := h.places hlarge
    obtain ⟨hlow, hhigh⟩ := cut_bounds hlarge
    -- The leading bit is hidden, and carries into the exponent: that is one above the number of
    -- places cut off.
    refine ⟨quanta.log2 - 52 + 1, quanta / 2 ^ (quanta.log2 - 52) - 2 ^ 52, by omega, by omega,
      by omega, ?_⟩
    rw [quantaOf, if_neg (by omega), Nat.add_sub_cancel' hlow, Nat.add_sub_cancel,
      Nat.div_mul_cancel hdvd]

/-- The bit that a sign sets. -/
def signBits (negative : Bool) : Nat := if negative then 2 ^ 63 else 0

/-- A pattern put together from its fields is read by them. -/
theorem ofBits_fields (negative : Bool) {exponent fraction : Nat} (finite : exponent < 2047)
    (small : fraction < 2 ^ 52) :
    ofBits (UInt64.ofNat (signBits negative + (exponent * 2 ^ 52 + fraction))) =
      .finite negative (quantaOf exponent fraction) := by
  generalize hn : signBits negative + (exponent * 2 ^ 52 + fraction) = n
  have hsign : signBits negative = 0 ∧ negative = false ∨
      signBits negative = 2 ^ 63 ∧ negative = true := by
    cases negative <;> simp [signBits]
  have hlt : n < 2 ^ 64 := by omega
  have hexponent : n / 2 ^ 52 % 2 ^ 11 = exponent := by omega
  have hfraction : n % 2 ^ 52 = fraction := by omega
  have hnegative : decide (2 ^ 63 ≤ n) = negative := by
    obtain ⟨hbit, rfl⟩ | ⟨hbit, rfl⟩ := hsign
    · exact decide_eq_false (by omega)
    · exact decide_eq_true (by omega)
  simp only [ofBits, UInt64.toNat_ofNat_of_lt' hlt, Nat.one_shiftLeft, hnegative, hexponent,
    hfraction]
  rw [if_neg (by omega), quantaOf]
  split <;> rfl

theorem toBits_infinite (negative : Bool) :
    (infinite negative).toBits = UInt64.ofNat (signBits negative + 2047 * 2 ^ 52) := by
  simp only [toBits, signBits, Nat.one_shiftLeft]

theorem toBits_finite (negative : Bool) (quanta : Nat) :
    (finite negative quanta).toBits = UInt64.ofNat (signBits negative + magnitudeBits quanta) := by
  simp only [toBits, signBits, Nat.one_shiftLeft]

theorem ofBits_toBits (negative : Bool) {quanta : Nat} (h : Representable quanta) :
    ofBits (finite negative quanta).toBits = finite negative quanta := by
  obtain ⟨exponent, fraction, hexponent, hfraction, hbits, hquanta⟩ := h.exists_fields
  rw [toBits_finite, hbits, ofBits_fields negative hexponent hfraction, ← hquanta]

theorem unpack_of_isNaNBits {bits : BitVec Format.binary64.numBits} (h : isNaNBits bits = true) :
    unpack Format.binary64 bits = .notANumber := by
  obtain ⟨hexponent, hmantissa⟩ := of_decide_eq_true h
  rw [unpack, if_pos hexponent, if_neg hmantissa]

/-- A pattern that is a number is the pattern of its double. -/
theorem toBits_float {bits : UInt64} (h : ofBits bits ≠ undefined) :
    (Float.ofBits bits).toBits = bits := by
  have hreads := reads_ofBits bits
  have hnumber : ¬@isNaNBits Format.binary64 bits.toBitVec = true := by
    intro hnan
    rw [unpack_of_isNaNBits hnan] at hreads
    exact h hreads.eq_undefined
  show UInt64.ofBitVec (pack Format.binary64 (unpack Format.binary64 bits.toBitVec)) = bits
  rw [pack_unpack, if_neg hnumber]

/-- **Writing a reading rounds nothing.** The double that is written is read as what was written. -/
theorem ofFloat_toFloat (negative : Bool) {quanta : Nat} (h : Representable quanta) :
    ofFloat (finite negative quanta).toFloat = finite negative quanta := by
  have hbits := ofBits_toBits negative h
  have hnumber : ofBits (finite negative quanta).toBits ≠ undefined := by simp [hbits]
  rw [ofFloat, toFloat, toBits_float hnumber, hbits]

/-! ## Writing what was read -/

/-- The bits of a magnitude are the fields that it was read from. -/
theorem magnitudeBits_quantaOf (exponent : Nat) {fraction : Nat} (small : fraction < 2 ^ 52) :
    magnitudeBits (quantaOf exponent fraction) = exponent * 2 ^ 52 + fraction := by
  simp only [magnitudeBits, Nat.one_shiftLeft, quantaOf]
  split
  · rename_i hzero
    rw [log2_sub_eq_zero small, hzero]
    simp
  · rename_i hpos
    have hlog : ((2 ^ 52 + fraction) * 2 ^ (exponent - 1)).log2 = 52 + (exponent - 1) := by
      have hne : (2 ^ 52 + fraction) * 2 ^ (exponent - 1) ≠ 0 :=
        (Nat.mul_pos (by omega) (Nat.two_pow_pos _)).ne'
      rw [Nat.log2_eq_iff hne, Nat.add_right_comm, Nat.pow_add, Nat.pow_add]
      exact ⟨Nat.mul_le_mul_right _ (by omega),
        Nat.mul_lt_mul_of_pos_right (by omega) (Nat.two_pow_pos _)⟩
    rw [hlog, Nat.add_sub_cancel_left, Nat.mul_div_cancel _ (Nat.two_pow_pos _)]
    omega

/-- A pattern is the sum of its fields, each in its place. -/
theorem sum_fields (bits : UInt64) :
    signBits (decide (2 ^ 63 ≤ bits.toNat)) +
      (bits.toNat / 2 ^ 52 % 2 ^ 11 * 2 ^ 52 + bits.toNat % 2 ^ 52) = bits.toNat := by
  have hbits : bits.toNat < 2 ^ 64 := bits.toNat_lt
  simp only [signBits, decide_eq_true_eq]
  split <;> omega

theorem toBits_ofBits {bits : UInt64} (h : ofBits bits ≠ undefined) :
    (ofBits bits).toBits = bits := by
  have hsum := sum_fields bits
  have hfraction : bits.toNat % 2 ^ 52 < 2 ^ 52 := Nat.mod_lt _ (Nat.two_pow_pos 52)
  have hmagnitude := magnitudeBits_quantaOf (bits.toNat / 2 ^ 52 % 2 ^ 11) hfraction
  have hself : UInt64.ofNat bits.toNat = bits := UInt64.ofNat_toNat
  unfold ofBits at h ⊢
  simp only [Nat.one_shiftLeft] at h ⊢
  split_ifs at h ⊢ with hmax hzero hmin
  · rw [hmax, hzero, Nat.add_zero] at hsum
    rw [toBits_infinite, hsum, hself]
  · exact absurd rfl h
  · rw [quantaOf, if_pos hmin] at hmagnitude
    rw [toBits_finite, hmagnitude, hsum, hself]
  · rw [quantaOf, if_neg hmin] at hmagnitude
    rw [toBits_finite, hmagnitude, hsum, hself]

/-- **Nothing is lost by reading.** -/
theorem toFloat_ofFloat (x : Float) : (ofFloat x).toFloat = x := by
  by_cases h : ofFloat x = undefined
  · have hreads := reads_ofFloat x
    rw [h] at hreads ⊢
    rw [← Float.ofBits_toBits x]
    show Float.ofModel (.pack .notANumber) = Float.ofModel (.pack x.toModel.unpack)
    rw [hreads.eq_notANumber]
  · rw [toFloat, ofFloat, toBits_ofBits h, Float.ofBits_toBits]

end Exact

end GridMachine
