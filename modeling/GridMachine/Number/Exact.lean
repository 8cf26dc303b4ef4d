/-! Doubles read exactly. Every finite double is a whole number of quanta, the quantum being the
least positive double, 2 ^ -1074. Read that way, rounding to whole numbers and remainders are
plain arithmetic on naturals, with no rounding error at any magnitude; only the sign is kept
apart, because zero has one. Between words and doubles there are the conversions of the standard
model, each of which comes as near as it can. -/

namespace GridMachine

/-- What a double stands for: no number, an infinity, or a signed whole number of quanta. -/
inductive Exact where
  | undefined
  | infinite (negative : Bool)
  | finite (negative : Bool) (quanta : Nat)
deriving DecidableEq

namespace Exact

/-- The number of quanta in one. -/
def one : Nat := 1 <<< 1074

/-- The reading of a bit pattern: a sign bit, eleven bits of exponent, 52 bits of fraction. The
lowest exponent has no hidden leading bit, and the highest one marks what is not finite. -/
def ofBits (bits : UInt64) : Exact :=
  let n := bits.toNat
  let negative := decide (1 <<< 63 ≤ n)
  let exponent := n / (1 <<< 52) % (1 <<< 11)
  let fraction := n % (1 <<< 52)
  if exponent = 2047 then
    if fraction = 0 then infinite negative else undefined
  else if exponent = 0 then
    finite negative fraction
  else
    finite negative (((1 <<< 52) + fraction) * (1 <<< (exponent - 1)))

def ofFloat (x : Float) : Exact := ofBits x.toBits

/-- The bits of a magnitude below the sign. The hidden leading bit of a number with 53 significant
bits carries into the exponent field, which is why the two fields are added. -/
def magnitudeBits (quanta : Nat) : Nat :=
  let places := quanta.log2 - 52
  places * (1 <<< 52) + quanta / (1 <<< places)

/-- The bit pattern of a reading. It is the pattern read, for each reading of a double. -/
def toBits (x : Exact) : UInt64 :=
  let sign (negative : Bool) : Nat := if negative then 1 <<< 63 else 0
  match x with
  | undefined => 0x7FF8000000000000
  | infinite negative => UInt64.ofNat (sign negative + 2047 * (1 <<< 52))
  | finite negative quanta => UInt64.ofNat (sign negative + magnitudeBits quanta)

def toFloat (x : Exact) : Float := Float.ofBits x.toBits

/-- Rounding down to a whole number. The sign is kept, also on zero, and what is not finite stays
as it is. -/
def floor : Exact → Exact
  | finite true quanta => finite true ((quanta + (one - 1)) / one * one)
  | finite false quanta => finite false (quanta / one * one)
  | x => x

/-- Rounding toward zero to a whole number, keeping the sign. -/
def trunc : Exact → Exact
  | finite negative quanta => finite negative (quanta / one * one)
  | x => x

/-- The remainder of the division rounded toward zero: below the divisor in magnitude and with the
sign of the dividend. An infinite divisor leaves a finite dividend as it is; there is no remainder
of an infinity, nor by zero. -/
def rem : Exact → Exact → Exact
  | finite negative a, finite _ b => if b = 0 then undefined else finite negative (a % b)
  | finite negative a, infinite _ => finite negative a
  | _, _ => undefined

def isZero : Exact → Bool
  | finite _ quanta => quanta == 0
  | _ => false

theorem one_pos : 0 < one := by decide

/-- Only the two zeros are zero. -/
theorem isZero_iff {x : Exact} : x.isZero = true ↔ ∃ negative, x = finite negative 0 := by
  cases x <;> simp [isZero]

end Exact

/-- The double nearest to the word. -/
def nearestDouble (w : Int64) : Float := .ofModel (.ofInt64 w)

/-- The word nearest to the double, which is first cut off to a whole number. -/
def nearestWord (x : Float) : Int64 := x.toModel.toInt64

end GridMachine
