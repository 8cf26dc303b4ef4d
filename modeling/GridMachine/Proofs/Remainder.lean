import GridMachine.Proofs.Shifting

/-! # The modulus

A step that takes a number modulo another one stores the exact remainder by the divisor rounded
down, or is refused for a divisor that is rounded down to zero. -/

namespace GridMachine

theorem floor_eq_zero_iff {q : ℚ} : ⌊q⌋ = 0 ↔ 0 ≤ q ∧ q < 1 := by
  simp [Int.floor_eq_iff]

/-! ## The step -/

theorem DataOp.store_arithmetic {m : Memory} {a b : Coord} {x y : Float}
    (right : m.read a = some (.data y)) (left : m.read b = some (.data x)) (op : Arithmetic)
    (origin : Coord) :
    (DataOp.arithmetic op).store m origin a b =
      match op.apply x y with
      | some value => .ok (some ⟨b, .data value⟩)
      | none => .error (.divisionByZero a) := by
  have hy := Memory.dataAt_eq_ok_iff.2 right
  have hx := Memory.dataAt_eq_ok_iff.2 left
  simp only [store, hy, hx, ok_bind]
  rfl

namespace Machine

/-- **The modulus is the exact remainder by the floor of the divisor.** Of two doubles that stand
for rationals it has no value exactly if that floor is zero, and a step then traps at the source and
changes nothing. Otherwise the step stores the remainder, which is a double. -/
theorem modulus_exact {x y : Float} {p q : ℚ} (dividend : dyadic? x = some p)
    (divisor : dyadic? y = some q) :
    (Arithmetic.modulo.apply x y = none ↔ ⌊q⌋ = 0) ∧
    (⌊q⌋ = 0 ↔ 0 ≤ q ∧ q < 1 ∨ y = -0.0) ∧
    (⌊q⌋ ≠ 0 → ∃ r, Arithmetic.modulo.apply x y = some r ∧ IsRemainder x p ⌊q⌋ r) ∧
    ∀ (m : Machine) (source destination : Address) (next : NodeId) (a b : Coord),
      m.currentInstruction? = some (.data (.arithmetic .modulo) source destination next) →
      m.resolve source = .ok a → m.resolve destination = .ok b →
      m.memory.read a = some (.data y) → m.memory.read b = some (.data x) →
      (⌊q⌋ = 0 → m.execute = (.error (.divisionByZero a), m)) ∧
      (⌊q⌋ ≠ 0 → ∃ n r, m.execute = (.ok true, n) ∧ n.memory.read b = some (.data r) ∧
        IsRemainder x p ⌊q⌋ r) := by
  have hnone := Arithmetic.modulo_eq_none_iff (x := x) divisor
  have hsome := Arithmetic.modulo_isRemainder dividend divisor
  refine ⟨hnone, ?_, hsome, ?_⟩
  · rw [floor_eq_zero_iff]
    constructor
    · exact .inl
    · rintro (h | rfl)
      · exact h
      · have hzero : dyadic? (-0.0) = some 0 := rfl
        obtain rfl := Option.some.inj (hzero.symm.trans divisor)
        norm_num
  · intro m source destination next a b current source_at destination_at right left
    have hexecute := execute_data current source_at destination_at
    rw [DataOp.store_arithmetic right left] at hexecute
    constructor
    · intro hzero
      rw [hexecute, hnone.2 hzero]
    · intro nonzero
      obtain ⟨r, hr, hremainder⟩ := hsome nonzero
      rw [hr] at hexecute
      refine ⟨_, r, hexecute, ?_, hremainder⟩
      show (m.memory.write b _).read b = _
      rw [Memory.read_write, if_pos rfl]

/-- A machine about to take the number `x` modulo `y`. -/
def aboutToDivide (x y : Float) : Machine :=
  { ofMemory (.ofList [(⟨1, 0⟩, .data y), (⟨1, 1⟩, .data x)]) with
    program := ⟨#[.data (.arithmetic .modulo) (.absolute ⟨1, 0⟩) (.absolute ⟨1, 1⟩) ⟨0⟩]⟩ }

/-- Six below zero has no remainder by three, and the zero that is stored keeps the sign. A dividend
with no place for ones has its remainder all the same. A divisor of a half, or of a zero below zero,
is refused. -/
theorem aboutToDivide_exact :
    (∃ n r, (aboutToDivide (-6) 3.5).execute = (.ok true, n) ∧
      n.memory.read ⟨1, 1⟩ = some (.data r) ∧ dyadic? r = some 0 ∧ isNegative r = true) ∧
    (∃ n r, (aboutToDivide 1e22 7).execute = (.ok true, n) ∧
      n.memory.read ⟨1, 1⟩ = some (.data r) ∧ dyadic? r = some 4 ∧ isNegative r = false) ∧
    (aboutToDivide 7 0.5).execute = (.error (.divisionByZero ⟨1, 0⟩), aboutToDivide 7 0.5) ∧
    (aboutToDivide 7 (-0.0)).execute =
      (.error (.divisionByZero ⟨1, 0⟩), aboutToDivide 7 (-0.0)) := by
  have hsix : dyadic? (-6) = some (-6) := by
    show some ((-6755399441055744 : ℤ) * 2 ^ (-50 : ℤ) : ℚ) = some (-6)
    norm_num
  have hlarge : dyadic? 1e22 = some (10 ^ 22) := by
    show some ((4768371582031250 : ℤ) * 2 ^ (21 : ℤ) : ℚ) = some (10 ^ 22)
    norm_num
  have hseven : dyadic? 7 = some 7 := by
    show some ((7881299347898368 : ℤ) * 2 ^ (-50 : ℤ) : ℚ) = some 7
    norm_num
  have hover : dyadic? 3.5 = some (7 / 2) := by
    show some ((7881299347898368 : ℤ) * 2 ^ (-51 : ℤ) : ℚ) = some (7 / 2)
    norm_num
  have hhalf : dyadic? 0.5 = some (1 / 2) := by
    show some ((4503599627370496 : ℤ) * 2 ^ (-53 : ℤ) : ℚ) = some (1 / 2)
    norm_num
  have hzero : dyadic? (-0.0) = some 0 := rfl
  have hexact {x y : Float} {p q : ℚ} (hx : dyadic? x = some p) (hy : dyadic? y = some q) :=
    (modulus_exact hx hy).2.2.2 (aboutToDivide x y) _ _ _ ⟨1, 0⟩ ⟨1, 1⟩ rfl rfl rfl rfl rfl
  refine ⟨?_, ?_, ?_, ?_⟩
  · obtain ⟨n, r, hn, hread, hremainder⟩ := (hexact hsix hover).2 (by norm_num)
    refine ⟨n, r, hn, hread, ?_, hremainder.sign⟩
    rw [hremainder.exact]
    norm_num [towardZero]
  · obtain ⟨n, r, hn, hread, hremainder⟩ := (hexact hlarge hseven).2 (by norm_num)
    refine ⟨n, r, hn, hread, ?_, hremainder.sign⟩
    rw [hremainder.exact]
    norm_num [towardZero]
  · exact (hexact hseven hhalf).1 (by norm_num)
  · exact (hexact hseven hzero).1 (by norm_num)

end Machine

end GridMachine
