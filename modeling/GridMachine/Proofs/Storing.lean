import GridMachine.Proofs.Arithmetic
import GridMachine.Proofs.Ordering
import GridMachine.Proofs.Resolution

/-! # What an operation on data comes to

Once its operands are resolved, an operation on data stores a cell, or stores nothing, or is
refused. `Stores` lists what it can store and `Refuses` what it can be refused for, each row with
what the cells hold that leads to it; numbers are rationals there, and columns are whole numbers
without bounds. What an operation computes is taken apart here once for each of the two, and
everywhere else they take its place. -/

namespace GridMachine

/-! ## The number of columns -/

/-- The least word is a double. -/
theorem dyadic?_least : dyadic? (nearestDouble Int64.minValue) = some (-2 ^ 63) := by
  show some ((-4503599627370496 : ℤ) * 2 ^ (11 : ℤ) : ℚ) = some (-2 ^ 63)
  norm_num

/-- The greatest word is none, and the double nearest to it is the next number above it. -/
theorem dyadic?_greatest : dyadic? (nearestDouble Int64.maxValue) = some (2 ^ 63) := by
  show some ((4503599627370496 : ℤ) * 2 ^ (11 : ℤ) : ℚ) = some (2 ^ 63)
  norm_num

/-- So to compare with these doubles is to compare with the ends of the range. -/
theorem offRange_iff {n : ℤ} : (n : ℚ) < -2 ^ 63 ∨ 2 ^ 63 ≤ (n : ℚ) ↔ OffRange n := by
  have hleast : (n : ℚ) < -2 ^ 63 ↔ n < -2 ^ 63 := by exact_mod_cast Iff.rfl
  have hgreatest : 2 ^ 63 ≤ (n : ℚ) ↔ 2 ^ 63 ≤ n := by exact_mod_cast Iff.rfl
  have hends : Int64.minValue.toInt = -2 ^ 63 ∧ Int64.maxValue.toInt = 2 ^ 63 - 1 := ⟨rfl, rfl⟩
  rw [hleast, hgreatest, OffRange]
  omega

/-- **The columns of a shift are the floor of the amount, if that is a word.** -/
theorem shiftColumns_eq (site : Coord) (x : Float) :
    shiftColumns site x =
      match dyadic? x with
      | none => .error (.nonFiniteShift site)
      | some q =>
        match word? ⌊q⌋ with
        | none => .error (.addressOutOfRange site)
        | some n => .ok n := by
  unfold shiftColumns
  rw [isFinite_eq]
  cases hx : dyadic? x with
  | none => rfl
  | some q =>
    have hfloor := dyadic?_floor hx
    have hcompare := offRange_iff (n := ⌊q⌋)
    rw [← lt_iff_of_dyadic? hfloor dyadic?_least, ← le_iff_of_dyadic? dyadic?_greatest hfloor]
      at hcompare
    simp only [Option.isSome_some, if_true, hcompare]
    cases hw : word? ⌊q⌋ with
    | none =>
      have hoff : OffRange ⌊q⌋ := word?_eq_none_iff.1 hw
      rw [if_pos hoff]
    | some n =>
      have hn := word?_eq_some_iff.1 hw
      rw [if_neg (exists_word_iff.1 ⟨n, hn⟩), nearestWord_eq hfloor]
      rw [towardZero_intCast, hn]

theorem shiftColumns_eq_ok {site : Coord} {x : Float} {n : Int64}
    (h : shiftColumns site x = .ok n) : ∃ q, dyadic? x = some q ∧ n.toInt = ⌊q⌋ := by
  rw [shiftColumns_eq] at h
  split at h
  · cases h
  · split at h <;> cases h
    exact ⟨_, ‹_›, word?_eq_some_iff.1 ‹_›⟩

theorem shiftColumns_eq_error {site : Coord} {x : Float} {trap : Trap}
    (h : shiftColumns site x = .error trap) :
    trap = .nonFiniteShift site ∧ dyadic? x = none ∨
      trap = .addressOutOfRange site ∧ ∃ q, dyadic? x = some q ∧ OffRange ⌊q⌋ := by
  rw [shiftColumns_eq] at h
  split at h
  · cases h
    exact .inl ⟨rfl, ‹_›⟩
  · split at h <;> cases h
    exact .inr ⟨rfl, _, ‹_›, word?_eq_none_iff.1 ‹_›⟩

/-- A pointer that is moved along its row keeps all but its column. -/
theorem Address.shift?_eq_some {p q : Address} {columns : Int64} (h : p.shift? columns = some q) :
    ∃ col : Int64, col.toInt = p.coord.col.toInt + columns.toInt ∧
      q = { p with coord := ⟨p.coord.row, col⟩ } := by
  obtain ⟨c, hc, rfl⟩ := Option.map_eq_some_iff.1 h
  obtain ⟨hrow, hcol⟩ := Prod.mk.inj (Coord.add?_eq_some_iff.1 hc)
  have hsame : c.row = p.coord.row := Int64.toInt_inj.1 (hrow.trans (Int.add_zero _))
  refine ⟨c.col, hcol, ?_⟩
  rw [← hsame]

theorem Address.shift?_eq_none {p : Address} {columns : Int64} (h : p.shift? columns = none) :
    OffRange (p.coord.col.toInt + columns.toInt) := by
  refine word?_eq_none_iff.1 ?_
  cases hw : word? (p.coord.col.toInt + columns.toInt) with
  | none => rfl
  | some col =>
    -- The row stays, so with a column there is a coordinate.
    have hc : (⟨p.coord.row, col⟩ : Coord).toInts =
        (p.coord.row.toInt + (0 : Int64).toInt, p.coord.col.toInt + columns.toInt) :=
      Prod.ext (Int.add_zero _).symm (word?_eq_some_iff.1 hw)
    have hadd := Coord.add?_eq_some_iff (b := ⟨0, columns⟩).2 hc
    rw [shift?, hadd] at h
    cases h

/-! ## Looks that fail -/

/-- The trap says that there is no number in the cell `c`, and whether it is empty. -/
inductive Memory.NoNumber (m : Memory) (c : Coord) : Trap → Prop
  | empty (held : m.read c = none) : NoNumber m c (.emptyCell c)
  | other (held : m.read c ≠ none) (other : ∀ x, m.read c ≠ some (.data x)) :
      NoNumber m c (.notData c)

theorem Address.locate_eq_error {a : Address} {origin site : Coord} {trap : Trap}
    (h : a.locate origin site = .error trap) :
    trap = .addressOutOfRange site ∧ ¬OnGrid (a.counted origin) := by
  by_cases hgrid : OnGrid (a.counted origin)
  · obtain ⟨c, hc⟩ := onGrid_iff.1 hgrid
    rw [locate_eq_ok_iff.2 hc] at h
    cases h
  · rw [locate_of_offGrid hgrid] at h
    cases h
    exact ⟨rfl, hgrid⟩

namespace Memory

variable {m : Memory} {c : Coord} {trap : Trap}

theorem occupiedAt_eq_error (h : m.occupiedAt c = .error trap) :
    trap = .emptyCell c ∧ m.read c = none := by
  unfold occupiedAt at h
  split at h <;> cases h
  exact ⟨rfl, ‹_›⟩

theorem pointerAt_eq_error (h : m.pointerAt c = .error trap) :
    trap = .notAnAddress c ∧ ∀ p, m.read c ≠ some (.pointer p) := by
  unfold pointerAt at h
  split at h <;> cases h
  exact ⟨rfl, ‹_›⟩

theorem dataAt_eq_error (h : m.dataAt c = .error trap) : m.NoNumber c trap := by
  unfold dataAt at h
  split at h <;> cases h
  · rename_i cell hother hc
    refine .other ?_ ?_
    · rw [hc]
      nofun
    · intro x hx
      exact hother x (Option.some.inj (hc.symm.trans hx))
  · exact .empty ‹_›

end Memory

/-! ## What is stored -/

/-- The cell that an operation on data stores, if it stores one, with its source at `a` and its
destination at `b`. A pointer is followed as a direct address of the frame whose origin is
`origin`. -/
inductive DataOp.Stores (m : Memory) (origin a b : Coord) : DataOp → Option Store → Prop
  | addressOf : Stores m origin a b .addressOf (some ⟨b, .pointer (.absolute a)⟩)
  | shift {p : Address} {x : Float} {q : ℚ} {col : Int64}
      (destination : m.read b = some (.pointer p)) (source : m.read a = some (.data x))
      (value : dyadic? x = some q) (moved : col.toInt = p.coord.col.toInt + ⌊q⌋) :
      Stores m origin a b .shift (some ⟨b, .pointer { p with coord := ⟨p.coord.row, col⟩ }⟩)
  | read {p : Address} {c : Coord} {cell : Cell} (source : m.read a = some (.pointer p))
      (pointee : m.resolve origin p.direct = .ok c) (held : m.read c = some cell) :
      Stores m origin a b .read (some ⟨b, cell⟩)
  | readEmpty {p : Address} {c : Coord} (source : m.read a = some (.pointer p))
      (pointee : m.resolve origin p.direct = .ok c) (empty : m.read c = none) :
      Stores m origin a b .read none
  | write {p : Address} {c : Coord} {cell : Cell} (destination : m.read b = some (.pointer p))
      (pointee : m.resolve origin p.direct = .ok c) (source : m.read a = some cell) :
      Stores m origin a b .write (some ⟨c, cell⟩)
  | move {cell : Cell} (source : m.read a = some cell) :
      Stores m origin a b .move (some ⟨b, cell⟩)
  | arithmetic {op : Arithmetic} {left right value : Float}
      (destination : m.read b = some (.data left)) (source : m.read a = some (.data right))
      (result : op.Gives left right value) :
      Stores m origin a b (.arithmetic op) (some ⟨b, .data value⟩)

/-- A pointer that counts to a cell resolves to it, taken as direct. -/
theorem Memory.resolve_direct_of_locate (m : Memory) {p : Address} {origin site c : Coord}
    (h : p.locate origin site = .ok c) : m.resolve origin p.direct = .ok c :=
  resolve_direct_eq_ok_iff.2 (Address.locate_eq_ok_iff.1 h)

theorem DataOp.Stores.of_store {op : DataOp} {m : Memory} {origin a b : Coord}
    {store : Option Store} (h : op.store m origin a b = .ok store) :
    op.Stores m origin a b store := by
  cases op with
  | addressOf =>
    cases h
    exact .addressOf
  | shift =>
    obtain ⟨p, hp, h⟩ := bind_eq_ok_iff.1 h
    obtain ⟨x, hx, h⟩ := bind_eq_ok_iff.1 h
    obtain ⟨n, hn, h⟩ := bind_eq_ok_iff.1 h
    split at h
    · rename_i moved hmoved
      cases h
      obtain ⟨q, hq, hfloor⟩ := shiftColumns_eq_ok hn
      obtain ⟨col, hcol, rfl⟩ := Address.shift?_eq_some hmoved
      rw [hfloor] at hcol
      exact .shift (Memory.pointerAt_eq_ok_iff.1 hp) (Memory.dataAt_eq_ok_iff.1 hx) hq hcol
    · cases h
  | read =>
    obtain ⟨p, hp, h⟩ := bind_eq_ok_iff.1 h
    obtain ⟨c, hc, h⟩ := bind_eq_ok_iff.1 h
    have hsource := Memory.pointerAt_eq_ok_iff.1 hp
    have hpointee := m.resolve_direct_of_locate hc
    cases hcell : m.read c with
    | none =>
      rw [hcell] at h
      cases h
      exact .readEmpty hsource hpointee hcell
    | some cell =>
      rw [hcell] at h
      cases h
      exact .read hsource hpointee hcell
  | write =>
    obtain ⟨p, hp, h⟩ := bind_eq_ok_iff.1 h
    obtain ⟨cell, hcell, h⟩ := bind_eq_ok_iff.1 h
    obtain ⟨c, hc, ⟨⟩⟩ := bind_eq_ok_iff.1 h
    exact .write (Memory.pointerAt_eq_ok_iff.1 hp) (m.resolve_direct_of_locate hc)
      (Memory.occupiedAt_eq_ok_iff.1 hcell)
  | move =>
    obtain ⟨cell, hcell, ⟨⟩⟩ := bind_eq_ok_iff.1 h
    exact .move (Memory.occupiedAt_eq_ok_iff.1 hcell)
  | arithmetic op =>
    obtain ⟨right, hright, h⟩ := bind_eq_ok_iff.1 h
    obtain ⟨left, hleft, h⟩ := bind_eq_ok_iff.1 h
    split at h
    · cases h
      exact .arithmetic (Memory.dataAt_eq_ok_iff.1 hleft) (Memory.dataAt_eq_ok_iff.1 hright)
        (.of_apply ‹_›)
    · cases h

/-! ## What is refused -/

/-- The trap of an operation on data that is refused, with its source at `a` and its destination at
`b`. Where the reason is a number or a pointer that leads nowhere, all cells are of the kind that
the operation needs. -/
inductive DataOp.Refuses (m : Memory) (origin a b : Coord) : DataOp → Trap → Prop
  | moveEmpty (source : m.read a = none) : Refuses m origin a b .move (.emptyCell a)
  | shiftNoPointer (destination : ∀ p, m.read b ≠ some (.pointer p)) :
      Refuses m origin a b .shift (.notAnAddress b)
  | shiftNoNumber {trap : Trap} (source : m.NoNumber a trap) : Refuses m origin a b .shift trap
  | shiftNotFinite {p : Address} {x : Float} (destination : m.read b = some (.pointer p))
      (source : m.read a = some (.data x)) (value : dyadic? x = none) :
      Refuses m origin a b .shift (.nonFiniteShift a)
  | shiftTooFar {p : Address} {x : Float} {q : ℚ} (destination : m.read b = some (.pointer p))
      (source : m.read a = some (.data x)) (value : dyadic? x = some q) (off : OffRange ⌊q⌋) :
      Refuses m origin a b .shift (.addressOutOfRange a)
  | shiftOffGrid {p : Address} {x : Float} {q : ℚ} (destination : m.read b = some (.pointer p))
      (source : m.read a = some (.data x)) (value : dyadic? x = some q)
      (off : OffRange (p.coord.col.toInt + ⌊q⌋)) :
      Refuses m origin a b .shift (.addressOutOfRange b)
  | readNoPointer (source : ∀ p, m.read a ≠ some (.pointer p)) :
      Refuses m origin a b .read (.notAnAddress a)
  | readOffGrid {p : Address} (source : m.read a = some (.pointer p))
      (off : ¬OnGrid (p.counted origin)) : Refuses m origin a b .read (.addressOutOfRange a)
  | writeNoPointer (destination : ∀ p, m.read b ≠ some (.pointer p)) :
      Refuses m origin a b .write (.notAnAddress b)
  | writeEmpty (source : m.read a = none) : Refuses m origin a b .write (.emptyCell a)
  | writeOffGrid {p : Address} {cell : Cell} (destination : m.read b = some (.pointer p))
      (source : m.read a = some cell) (off : ¬OnGrid (p.counted origin)) :
      Refuses m origin a b .write (.addressOutOfRange b)
  | noRight {op : Arithmetic} {trap : Trap} (source : m.NoNumber a trap) :
      Refuses m origin a b (.arithmetic op) trap
  | noLeft {op : Arithmetic} {trap : Trap} (destination : m.NoNumber b trap) :
      Refuses m origin a b (.arithmetic op) trap
  | divide {left right : Float} (destination : m.read b = some (.data left))
      (source : m.read a = some (.data right)) (zero : dyadic? right = some 0) :
      Refuses m origin a b (.arithmetic .divide) (.divisionByZero a)
  | modulo {left right : Float} {q : ℚ} (destination : m.read b = some (.data left))
      (source : m.read a = some (.data right)) (value : dyadic? right = some q)
      (zero : ⌊q⌋ = 0) : Refuses m origin a b (.arithmetic .modulo) (.divisionByZero a)

theorem DataOp.Refuses.of_store {op : DataOp} {m : Memory} {origin a b : Coord} {trap : Trap}
    (h : op.store m origin a b = .error trap) : op.Refuses m origin a b trap := by
  cases op with
  | addressOf => cases h
  | move =>
    rcases bind_eq_error_iff.1 h with h | ⟨cell, hcell, h⟩
    · obtain ⟨rfl, hempty⟩ := Memory.occupiedAt_eq_error h
      exact .moveEmpty hempty
    · cases h
  | shift =>
    rcases bind_eq_error_iff.1 h with h | ⟨p, hp, h⟩
    · obtain ⟨rfl, hother⟩ := Memory.pointerAt_eq_error h
      exact .shiftNoPointer hother
    rcases bind_eq_error_iff.1 h with h | ⟨x, hx, h⟩
    · exact .shiftNoNumber (Memory.dataAt_eq_error h)
    have hdestination := Memory.pointerAt_eq_ok_iff.1 hp
    have hsource := Memory.dataAt_eq_ok_iff.1 hx
    rcases bind_eq_error_iff.1 h with h | ⟨n, hn, h⟩
    · rcases shiftColumns_eq_error h with ⟨rfl, hnone⟩ | ⟨rfl, q, hq, hoff⟩
      · exact .shiftNotFinite hdestination hsource hnone
      · exact .shiftTooFar hdestination hsource hq hoff
    · obtain ⟨q, hq, hfloor⟩ := shiftColumns_eq_ok hn
      split at h <;> cases h
      have hoff := Address.shift?_eq_none ‹_›
      rw [hfloor] at hoff
      exact .shiftOffGrid hdestination hsource hq hoff
  | read =>
    rcases bind_eq_error_iff.1 h with h | ⟨p, hp, h⟩
    · obtain ⟨rfl, hother⟩ := Memory.pointerAt_eq_error h
      exact .readNoPointer hother
    rcases bind_eq_error_iff.1 h with h | ⟨c, hc, h⟩
    · obtain ⟨rfl, hoff⟩ := Address.locate_eq_error h
      exact .readOffGrid (Memory.pointerAt_eq_ok_iff.1 hp) hoff
    · cases h
  | write =>
    rcases bind_eq_error_iff.1 h with h | ⟨p, hp, h⟩
    · obtain ⟨rfl, hother⟩ := Memory.pointerAt_eq_error h
      exact .writeNoPointer hother
    rcases bind_eq_error_iff.1 h with h | ⟨cell, hcell, h⟩
    · obtain ⟨rfl, hempty⟩ := Memory.occupiedAt_eq_error h
      exact .writeEmpty hempty
    rcases bind_eq_error_iff.1 h with h | ⟨c, hc, h⟩
    · obtain ⟨rfl, hoff⟩ := Address.locate_eq_error h
      exact .writeOffGrid (Memory.pointerAt_eq_ok_iff.1 hp) (Memory.occupiedAt_eq_ok_iff.1 hcell)
        hoff
    · cases h
  | arithmetic op =>
    rcases bind_eq_error_iff.1 h with h | ⟨right, hright, h⟩
    · exact .noRight (Memory.dataAt_eq_error h)
    rcases bind_eq_error_iff.1 h with h | ⟨left, hleft, h⟩
    · exact .noLeft (Memory.dataAt_eq_error h)
    have hsource := Memory.dataAt_eq_ok_iff.1 hright
    have hdestination := Memory.dataAt_eq_ok_iff.1 hleft
    split at h <;> cases h
    rcases Arithmetic.apply_eq_none ‹_› with ⟨rfl, hzero⟩ | ⟨rfl, q, hq, hzero⟩
    · exact .divide hdestination hsource hzero
    · exact .modulo hdestination hsource hq hzero

end GridMachine
