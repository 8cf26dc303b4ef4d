import GridMachine.Proofs.Effect

/-! # Reading after writing

A write changes one cell, and so what is read there, by whatever address. It may also change where
addresses lead: the indirect ones that go through that cell, the address of the write itself among
them if it went through a pointer to its own cell. For every other address it is the content of its
cell that changes, or nothing. For those that go through the cell, what was written decides: it is
followed as a pointer, or refused. -/

namespace GridMachine

namespace Memory

variable {m : Memory} {origin p : Coord} {b : Address}

/-- A direct address leads where it did, whatever is written. -/
theorem resolve_write_of_direct (kind : b.indirection = .direct) (cell : Cell) :
    (m.write p cell).resolve origin b = m.resolve origin b := by
  simp only [resolve, kind]

/-- So does an address that counts to another cell first. -/
theorem resolve_write_of_ne (other : p.toInts ≠ b.counted origin) (cell : Cell) :
    (m.write p cell).resolve origin b = m.resolve origin b := by
  obtain ⟨r, hr⟩ := m.exists_resolves origin b
  rw [hr.resolve_eq]
  refine (hr.congr ?_).resolve_eq
  intro c first
  rw [read_write, if_neg]
  rintro rfl
  exact other first

end Memory

namespace Machine

variable {m n : Machine} {a b : Address} {cell : Cell} {p : Coord}

/-- The address is indirect, and the pointer that it follows from the active frame is kept at
`c`. -/
def GoesThrough (m : Machine) (a : Address) (c : Coord) : Prop :=
  a.indirection = .indirect ∧ c.toInts = a.counted m.active.origin

theorem write_eq_ok_iff :
    m.write a cell = (.ok (), n) ↔
      ∃ p, m.resolve a = .ok p ∧ n = { m with memory := m.memory.write p cell } := by
  unfold write
  cases m.resolve a <;> simp [eq_comm]

/-- An address that does not go through the cell written leads where it did. -/
theorem resolve_write (h : ¬m.GoesThrough b p) (cell : Cell) :
    ({ m with memory := m.memory.write p cell } : Machine).resolve b = m.resolve b := by
  by_cases kind : b.indirection = .direct
  · exact Memory.resolve_write_of_direct kind cell
  · have indirect : b.indirection = .indirect := by
      cases hb : b.indirection with
      | direct => exact absurd hb kind
      | indirect => rfl
    exact Memory.resolve_write_of_ne (fun first => h ⟨indirect, first⟩) cell

/-- Read by such an address, the cell written holds what was written, and every other cell, and
every refusal, is as before. -/
theorem read_write_of_not_through (h : ¬m.GoesThrough b p) (cell : Cell) :
    (m.resolve b = .ok p →
      ({ m with memory := m.memory.write p cell } : Machine).read b = .ok (some cell)) ∧
    (m.resolve b ≠ .ok p →
      ({ m with memory := m.memory.write p cell } : Machine).read b = m.read b) := by
  constructor
  · intro hb
    rw [read, resolve_write h, hb, ok_bind, Memory.read_write, if_pos rfl]
    rfl
  · intro hb
    rw [read, read, resolve_write h]
    cases hr : m.resolve b with
    | error trap => rfl
    | ok c =>
      have hne : c ≠ p := by
        rintro rfl
        exact hb hr
      rw [ok_bind, ok_bind, Memory.read_write, if_neg hne]

/-- An address that goes through a cell follows the pointer that it finds there, or is refused. -/
theorem read_of_through (h : m.GoesThrough b p) :
    ((∀ q, m.memory.read p ≠ some (.pointer q)) → m.read b = .error (.notAnAddress p)) ∧
    ∀ q : Address, m.memory.read p = some (.pointer q) →
      (∀ c : Coord, c.toInts = q.counted m.active.origin →
        m.read b = .ok (m.memory.read c)) ∧
      (¬OnGrid (q.counted m.active.origin) → m.read b = .error (.addressOutOfRange p)) := by
  obtain ⟨kind, first⟩ := h
  refine ⟨?_, fun q held => ⟨?_, ?_⟩⟩
  · intro other
    rw [read, resolve, (Memory.Resolves.notPointer first kind other).resolve_eq, error_bind]
  · intro c second
    rw [read, resolve, (Memory.Resolves.indirect first kind held second).resolve_eq, ok_bind]
    rfl
  · intro off
    rw [read, resolve, (Memory.Resolves.pointeeOffGrid first kind held off).resolve_eq, error_bind]

/-- **Reading after writing**, for all pairs of addresses. What is written through `a` is stored at
the cell `p` that `a` named before. An address that does not go through `p` reads what was written
if it names `p`, and otherwise what it read before. An address that goes through `p` follows what
was written: it is refused at `p` unless that is a pointer on the grid, and then reads the cell that
this designates. So the address of the write reads it back, unless it went through a pointer to its
own cell. -/
theorem read_after_write (h : m.write a cell = (.ok (), n)) :
    ∃ p, m.resolve a = .ok p ∧ m.memory.Written (some ⟨p, cell⟩) n.memory ∧
      (∀ b, ¬m.GoesThrough b p →
        (m.resolve b = .ok p → n.read b = .ok (some cell)) ∧
        (m.resolve b ≠ .ok p → n.read b = m.read b)) ∧
      (∀ b, m.GoesThrough b p →
        ((∀ q, cell ≠ .pointer q) → n.read b = .error (.notAnAddress p)) ∧
        ∀ q : Address, cell = .pointer q →
          (∀ c : Coord, c.toInts = q.counted m.active.origin → n.read b = .ok (n.memory.read c)) ∧
          (¬OnGrid (q.counted m.active.origin) → n.read b = .error (.addressOutOfRange p))) ∧
      (¬m.GoesThrough a p → n.read a = .ok (some cell)) := by
  obtain ⟨p, hp, rfl⟩ := write_eq_ok_iff.1 h
  refine ⟨p, hp, m.memory.written_apply (some ⟨p, cell⟩), ?_, ?_, ?_⟩
  · intro b hb
    exact read_write_of_not_through hb cell
  · intro b hb
    have hheld : (m.memory.write p cell).read p = some cell := by
      rw [Memory.read_write, if_pos rfl]
    -- The frames are those of `m`, so `b` goes through the same cell after the write.
    obtain ⟨hother, hpointer⟩ :=
      read_of_through (m := { m with memory := m.memory.write p cell }) hb
    refine ⟨fun hcell => hother fun q hq => ?_, fun q hq => hpointer q ?_⟩
    · exact hcell q (Option.some.inj (hheld.symm.trans hq))
    · rw [← hq]
      exact hheld
  · intro ha
    exact (read_write_of_not_through ha cell).1 hp

/-- A pointer to its own cell, with a number beside it. -/
def pointerToItself : Machine :=
  ofMemory (.ofList [(⟨0, 1⟩, .pointer (.relative ⟨0, 1⟩)), (⟨0, 2⟩, .data 7)])

/-- Another pointer is written through it, over it. The address of the write does not read that
pointer back but follows it to the number; a direct address reads it back. -/
theorem pointerToItself_read_back :
    let a : Address := .indirect (.relative ⟨0, 1⟩)
    let b : Address := .relative ⟨0, 1⟩
    let cell : Cell := .pointer (.relative ⟨0, 2⟩)
    ∃ n, pointerToItself.write a cell = (.ok (), n) ∧ pointerToItself.GoesThrough a ⟨0, 1⟩ ∧
      n.read a = .ok (n.memory.read ⟨0, 2⟩) ∧ n.read b = .ok (some cell) := by
  intro a b cell
  have hwrite : pointerToItself.write a cell = (.ok (), _) := rfl
  obtain ⟨p, hp, -, hdirect, hthrough, -⟩ := read_after_write hwrite
  obtain rfl : ⟨0, 1⟩ = p := Except.ok.inj hp
  have ha : pointerToItself.GoesThrough a ⟨0, 1⟩ := ⟨rfl, rfl⟩
  have hb : ¬pointerToItself.GoesThrough b ⟨0, 1⟩ := fun hb => nomatch hb.1
  refine ⟨_, hwrite, ha, ?_, (hdirect b hb).1 rfl⟩
  exact ((hthrough a ha).2 (.relative ⟨0, 2⟩) rfl).1 ⟨0, 2⟩ rfl

end Machine

end GridMachine
