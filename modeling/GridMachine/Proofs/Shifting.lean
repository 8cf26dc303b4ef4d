import GridMachine.Proofs.Storing

/-! # Shifting a pointer

To shift a pointer is to add the floor of a double to its column. Two numbers have to fit a signed
64-bit word, the floor first and then the sum, and the greatest word is no double. Here a shift is
described over the rationals and the integers, where nothing is rounded and nothing wraps: which of
the two numbers does not fit decides which operand the trap names, and where both fit, the new
column is the sum. -/

namespace GridMachine

/-! ## The number of columns -/

section Columns

variable {site : Coord} {x : Float} {q : ℚ}

theorem shiftColumns_of_none (value : dyadic? x = none) :
    shiftColumns site x = .error (.nonFiniteShift site) := by
  rw [shiftColumns_eq, value]

theorem shiftColumns_of_offRange (value : dyadic? x = some q) (off : OffRange ⌊q⌋) :
    shiftColumns site x = .error (.addressOutOfRange site) := by
  simp only [shiftColumns_eq, value, word?_eq_none_iff.2 off]

theorem shiftColumns_of_floor {n : Int64} (value : dyadic? x = some q) (floor : n.toInt = ⌊q⌋) :
    shiftColumns site x = .ok n := by
  simp only [shiftColumns_eq, value, word?_eq_some_iff.2 floor]

end Columns

/-! ## The pointer -/

theorem Address.shift?_of_offRange {p : Address} {columns : Int64}
    (off : OffRange (p.coord.col.toInt + columns.toInt)) : p.shift? columns = none := by
  cases hq : p.shift? columns with
  | none => rfl
  | some q =>
    obtain ⟨col, hcol, -⟩ := shift?_eq_some hq
    rw [← hcol] at off
    exact absurd off (exists_word_iff.1 ⟨col, rfl⟩)

theorem Address.shift?_of_word {p : Address} {columns col : Int64}
    (sum : col.toInt = p.coord.col.toInt + columns.toInt) :
    p.shift? columns = some { p with coord := ⟨p.coord.row, col⟩ } := by
  cases hq : p.shift? columns with
  | none =>
    have off := shift?_eq_none hq
    rw [← sum] at off
    exact absurd off (exists_word_iff.1 ⟨col, rfl⟩)
  | some q =>
    obtain ⟨col', hcol, rfl⟩ := shift?_eq_some hq
    rw [Int64.toInt_inj.1 (sum.trans hcol.symm)]

theorem DataOp.store_shift {m : Memory} {origin a b : Coord} {p : Address} {x : Float}
    (pointer : m.read b = some (.pointer p)) (amount : m.read a = some (.data x)) :
    DataOp.shift.store m origin a b =
      shiftColumns a x >>= fun columns =>
        match p.shift? columns with
        | some moved => .ok (some ⟨b, .pointer moved⟩)
        | none => .error (.addressOutOfRange b) := by
  have hp := Memory.pointerAt_eq_ok_iff.2 pointer
  have hx := Memory.dataAt_eq_ok_iff.2 amount
  simp only [store, hp, hx, ok_bind]
  rfl

/-! ## The step -/

namespace Machine

variable {m : Machine} {op : DataOp} {source destination p : Address} {next : NodeId} {a b : Coord}
  {x : Float}

/-- An operation on data whose operands resolve stores its cell and goes on, or traps. -/
theorem execute_data (current : m.currentInstruction? = some (.data op source destination next))
    (source_at : m.resolve source = .ok a) (destination_at : m.resolve destination = .ok b) :
    m.execute =
      match op.store m.memory m.active.origin a b with
      | .ok store =>
        (.ok true, { m.advance next with memory := m.memory.apply store, flag := none })
      | .error trap => (.error trap, m) := by
  rw [execute_eq, step_of_current current]
  simp only [perform, stepData, source_at, destination_at, ok_bind]
  cases op.store m.memory m.active.origin a b <;> rfl

/-- **Shifting a pointer is exact.** Every double is not finite or stands for a rational. One that
is not finite is refused. Of a rational the floor has to be a word, and the sum of the column and
the floor has to be one; then the pointer is moved to that column and is otherwise as it was. -/
theorem shift_exact
    (current : m.currentInstruction? = some (.data .shift source destination next))
    (source_at : m.resolve source = .ok a) (destination_at : m.resolve destination = .ok b)
    (pointer : m.memory.read b = some (.pointer p)) (amount : m.memory.read a = some (.data x)) :
    (dyadic? x = none ↔ x.isNaN = true ∨ x.isInf = true) ∧
    (x.isNaN = true ∨ x.isInf = true → m.execute = (.error (.nonFiniteShift a), m)) ∧
    ∀ q, dyadic? x = some q →
      (OffRange ⌊q⌋ → m.execute = (.error (.addressOutOfRange a), m)) ∧
      (¬OffRange ⌊q⌋ → OffRange (p.coord.col.toInt + ⌊q⌋) →
        m.execute = (.error (.addressOutOfRange b), m)) ∧
      (¬OffRange ⌊q⌋ → ¬OffRange (p.coord.col.toInt + ⌊q⌋) →
        ∃ n col, m.execute = (.ok true, n) ∧ col.toInt = p.coord.col.toInt + ⌊q⌋ ∧
          n.memory.read b = some (.pointer { p with coord := ⟨p.coord.row, col⟩ })) := by
  have hexecute := execute_data current source_at destination_at
  rw [DataOp.store_shift pointer amount] at hexecute
  refine ⟨dyadic?_eq_none_iff, ?_, ?_⟩
  · intro h
    rw [hexecute, shiftColumns_of_none (dyadic?_eq_none_iff.2 h)]
    rfl
  · intro q hq
    refine ⟨?_, ?_, ?_⟩
    · intro off
      rw [hexecute, shiftColumns_of_offRange hq off]
      rfl
    · intro fits off
      obtain ⟨columns, hcolumns⟩ := exists_word_iff.2 fits
      rw [← hcolumns] at off
      simp only [hexecute, shiftColumns_of_floor hq hcolumns, ok_bind,
        Address.shift?_of_offRange off]
    · intro fits stays
      obtain ⟨columns, hcolumns⟩ := exists_word_iff.2 fits
      obtain ⟨col, hcol⟩ := exists_word_iff.2 stays
      have hshift := Address.shift?_of_word (hcolumns ▸ hcol)
      simp only [shiftColumns_of_floor hq hcolumns, ok_bind, hshift] at hexecute
      refine ⟨_, col, hexecute, hcol, ?_⟩
      show (m.memory.write b _).read b = _
      rw [Memory.read_write, if_pos rfl]

/-- A machine about to shift a pointer to the last column by the number `x`. -/
def atLastColumn (x : Float) : Machine :=
  { ofMemory (.ofList
      [(⟨1, 0⟩, .data x), (⟨1, 1⟩, .pointer (.indirect (.relative ⟨3, Int64.maxValue⟩)))]) with
    program := ⟨#[.data .shift (.absolute ⟨1, 0⟩) (.absolute ⟨1, 1⟩) ⟨0⟩]⟩ }

/-- A half below zero moves the pointer by a whole column, one moves it off the grid, and the least
double above every word is refused before it is added. -/
theorem atLastColumn_exact :
    (∃ n, (atLastColumn (-0.5)).execute = (.ok true, n) ∧
      n.memory.read ⟨1, 1⟩ = some (.pointer (.indirect (.relative ⟨3, Int64.maxValue - 1⟩)))) ∧
    (atLastColumn 1).execute = (.error (.addressOutOfRange ⟨1, 1⟩), atLastColumn 1) ∧
    (atLastColumn 9223372036854775808).execute =
      (.error (.addressOutOfRange ⟨1, 0⟩), atLastColumn 9223372036854775808) := by
  have hexact (x : Float) := (shift_exact (m := atLastColumn x) (a := ⟨1, 0⟩) (b := ⟨1, 1⟩)
    (x := x) rfl rfl rfl rfl rfl).2.2
  have hhalf : dyadic? (-0.5) = some (-1 / 2) := by
    show some ((-4503599627370496 : ℤ) * 2 ^ (-53 : ℤ) : ℚ) = some (-1 / 2)
    norm_num
  have hone : dyadic? 1 = some 1 := by
    show some ((4503599627370496 : ℤ) * 2 ^ (-52 : ℤ) : ℚ) = some 1
    norm_num
  have hlarge : dyadic? 9223372036854775808 = some 9223372036854775808 := by
    show some ((4503599627370496 : ℤ) * 2 ^ (11 : ℤ) : ℚ) = some 9223372036854775808
    norm_num
  have hfloor : ⌊(-1 / 2 : ℚ)⌋ = -1 := by norm_num
  refine ⟨?_, ?_, ?_⟩
  · obtain ⟨-, -, hmoved⟩ := hexact _ _ hhalf
    rw [hfloor] at hmoved
    obtain ⟨n, col, hn, hcol, hread⟩ := hmoved (by decide) (by decide)
    obtain rfl : col = Int64.maxValue - 1 := Int64.toInt_inj.1 hcol
    exact ⟨n, hn, hread⟩
  · obtain ⟨-, hoff, -⟩ := hexact _ _ hone
    rw [Int.floor_one] at hoff
    exact hoff (by decide) (by decide)
  · obtain ⟨hoff, -, -⟩ := hexact _ _ hlarge
    rw [Int.floor_ofNat] at hoff
    exact hoff (by decide)

end Machine

end GridMachine
