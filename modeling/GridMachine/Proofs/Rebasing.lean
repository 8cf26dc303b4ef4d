import GridMachine.Proofs.Resolution

/-! # Changing the base of an address

An address is made absolute by adding the origin and relative by subtracting it, by words that wrap.
Wrapped sums and differences undo each other, so no address is lost by changing its base and
changing it back, wherever the origin is. The exact conversion has a value only for the addresses
that count to a cell (`toAbsolute?_eq_some_iff`), and for those nothing wraps: the three conversions
and the exact difference tell the same. -/

namespace GridMachine

instance (z : Int × Int) : Decidable (OnGrid z) :=
  inferInstanceAs (Decidable ((_ ∧ _) ∧ _ ∧ _))

namespace Address

variable {a b : Address} {origin : Coord}

@[simp]
theorem toRelative_base (a : Address) (origin : Coord) :
    (a.toRelative origin).base = .relative := by
  cases h : a.base <;> simp [toRelative, h]

@[simp]
theorem toRelative_indirection (a : Address) (origin : Coord) :
    (a.toRelative origin).indirection = a.indirection := by
  cases h : a.base <;> simp [toRelative, h]

theorem toAbsolute_of_absolute (h : a.base = .absolute) (origin : Coord) :
    a.toAbsolute origin = a := by
  simp [toAbsolute, h]

theorem toRelative_of_relative (h : a.base = .relative) (origin : Coord) :
    a.toRelative origin = a := by
  simp [toRelative, h]

/-- Made absolute and relative again, an address is as it was, also if the sum wrapped. -/
theorem toRelative_toAbsolute (h : a.base = .relative) (origin : Coord) :
    (a.toAbsolute origin).toRelative origin = a := by
  refine Address.ext (by simp) (by simp [h]) ?_
  simp [toAbsolute, toRelative, h]

/-- Made relative and absolute again, an address is as it was, also if the difference wrapped. -/
theorem toAbsolute_toRelative (h : a.base = .absolute) (origin : Coord) :
    (a.toRelative origin).toAbsolute origin = a := by
  refine Address.ext (by simp) (by simp [h]) ?_
  simp [toAbsolute, toRelative, h]

/-- The exact conversion keeps the indirection and stores the cell that the address counts to. -/
theorem toAbsolute?_eq_some_iff :
    a.toAbsolute? origin = some b ↔
      b.indirection = a.indirection ∧ b.base = .absolute ∧ b.coord.toInts = a.counted origin := by
  unfold toAbsolute? counted
  cases h : a.base with
  | absolute =>
    constructor
    · intro hb
      rw [← Option.some.inj hb]
      exact ⟨rfl, h, rfl⟩
    · rintro ⟨hindirection, hbase, hcoord⟩
      rw [Address.ext hindirection (hbase.trans h.symm) (Coord.toInts_inj hcoord)]
  | relative =>
    simp only [Option.map_eq_some_iff, Coord.add?_eq_some_iff]
    constructor
    · rintro ⟨c, hc, rfl⟩
      exact ⟨rfl, rfl, hc⟩
    · rintro ⟨hindirection, hbase, hcoord⟩
      exact ⟨b.coord, hcoord, Address.ext hindirection.symm hbase.symm rfl⟩

/-- It has a value exactly for the addresses that count to a cell. -/
theorem exists_toAbsolute?_iff :
    (∃ b, a.toAbsolute? origin = some b) ↔ OnGrid (a.counted origin) := by
  rw [onGrid_iff]
  constructor
  · rintro ⟨b, hb⟩
    exact ⟨b.coord, (toAbsolute?_eq_some_iff.1 hb).2.2⟩
  · rintro ⟨c, hc⟩
    exact ⟨⟨a.indirection, .absolute, c⟩, toAbsolute?_eq_some_iff.2 ⟨rfl, rfl, hc⟩⟩

/-- Counted from where it is used, every absolute address is on the grid. -/
theorem onGrid_counted_iff :
    OnGrid (a.counted origin) ↔ a.base = .absolute ∨
      OnGrid (a.coord.row.toInt + origin.row.toInt, a.coord.col.toInt + origin.col.toInt) := by
  cases h : a.base with
  | absolute => simp [counted, h, onGrid_iff]
  | relative => simp [counted, h]

/-- The exact difference leads back from where a relative address counts to. -/
theorem sub?_of_toAbsolute? (hbase : a.base = .relative) (h : a.toAbsolute? origin = some b) :
    b.coord.sub? origin = some a.coord := by
  obtain ⟨-, -, hcoord⟩ := toAbsolute?_eq_some_iff.1 h
  rw [counted, hbase] at hcoord
  exact Coord.sub?_eq_some_iff_add?.2 (Coord.add?_eq_some_iff.2 hcoord)

/-- **The laws of changing the base**, for every address and every origin. The wrapping conversions
undo each other, leave alone what has the base already, and keep the indirection. The exact one has
a value exactly if the address is absolute or its sums without bounds are on the grid. That value is
the wrapped one, its coordinates are those sums, and the exact difference leads back from it. -/
theorem conversions_agree (a : Address) (origin : Coord) :
    (a.base = .relative → (a.toAbsolute origin).toRelative origin = a) ∧
    (a.base = .absolute → (a.toRelative origin).toAbsolute origin = a) ∧
    (a.base = .absolute → a.toAbsolute origin = a) ∧
    (a.base = .relative → a.toRelative origin = a) ∧
    ((a.toAbsolute origin).base = .absolute ∧ (a.toRelative origin).base = .relative) ∧
    ((a.toAbsolute origin).indirection = a.indirection ∧
      (a.toRelative origin).indirection = a.indirection) ∧
    ((∃ b, a.toAbsolute? origin = some b) ↔ a.base = .absolute ∨
      OnGrid (a.coord.row.toInt + origin.row.toInt, a.coord.col.toInt + origin.col.toInt)) ∧
    ∀ b, a.toAbsolute? origin = some b →
      b = a.toAbsolute origin ∧ b.coord.toInts = a.counted origin ∧
      (a.base = .relative → b.coord.sub? origin = some a.coord) := by
  refine ⟨fun h => toRelative_toAbsolute h origin, fun h => toAbsolute_toRelative h origin,
    fun h => toAbsolute_of_absolute h origin, fun h => toRelative_of_relative h origin,
    ⟨toAbsolute_base a origin, toRelative_base a origin⟩,
    ⟨toAbsolute_indirection a origin, toRelative_indirection a origin⟩, ?_, ?_⟩
  · rw [exists_toAbsolute?_iff, onGrid_counted_iff]
  · intro b hb
    refine ⟨(toAbsolute_eq_of_toAbsolute? hb).symm, ?_, fun h => sub?_of_toAbsolute? h hb⟩
    exact (toAbsolute?_eq_some_iff.1 hb).2.2

/-- Counted from the origin `(0, 1)`, the last column wraps to the first one, and back. There is no
such cell to count to. Counted to the column before it, there is one, and the difference leads
back. -/
theorem lastColumn_conversions_agree :
    let origin : Coord := ⟨0, 1⟩
    let last : Address := .indirect (.relative ⟨0, Int64.maxValue⟩)
    let before : Address := .relative ⟨0, Int64.maxValue - 1⟩
    last.toAbsolute origin = .indirect (.absolute ⟨0, Int64.minValue⟩) ∧
      (last.toAbsolute origin).toRelative origin = last ∧
      (¬∃ b, last.toAbsolute? origin = some b) ∧
      ∃ b, before.toAbsolute? origin = some b ∧ b.coord = ⟨0, Int64.maxValue⟩ ∧
        b.coord.sub? origin = some before.coord := by
  intro origin last before
  obtain ⟨hback, -, -, -, -, -, hlast, -⟩ := conversions_agree last origin
  obtain ⟨-, -, -, -, -, -, hbefore, hvalue⟩ := conversions_agree before origin
  refine ⟨by decide, hback rfl, ?_, ?_⟩
  · rw [hlast]
    decide
  · obtain ⟨b, hb⟩ := hbefore.2 (.inr (by decide))
    obtain ⟨heq, -, hsub⟩ := hvalue b hb
    refine ⟨b, hb, ?_, hsub rfl⟩
    rw [heq]
    decide

end Address

end GridMachine
