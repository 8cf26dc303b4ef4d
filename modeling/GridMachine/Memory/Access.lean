import GridMachine.Memory.Basic
import GridMachine.Trap

/-! Reaching cells through addresses. Resolution is exact: an address whose coordinates, counted
from the origin, leave the grid is refused and never wraps. An indirect address takes one hop
through the pointer it finds, and that pointer is then taken as direct, whatever its own
indirection says. -/

namespace GridMachine

/-- The cell that `a` counts to from `origin`. If that is off the grid, the trap is at `site`. -/
def Address.locate (a : Address) (origin site : Coord) : Except Trap Coord :=
  match a.toAbsolute? origin with
  | some b => .ok b.coord
  | none => .error (.addressOutOfRange site)

/-- An address that counts to a cell counts to it from everywhere once it is absolute. -/
theorem Address.locate_toAbsolute {a : Address} {origin site c : Coord}
    (h : a.locate origin site = .ok c) (origin' site' : Coord) :
    (a.toAbsolute origin).locate origin' site' = .ok c := by
  unfold locate at h ⊢
  split at h
  · rename_i b hb
    cases h
    have hbase := a.toAbsolute_base origin
    rw [toAbsolute_eq_of_toAbsolute? hb] at hbase ⊢
    simp [toAbsolute?, hbase]
  · cases h

namespace Memory

/-- The contents of the cell at `c`, which must be occupied. -/
def occupiedAt (m : Memory) (c : Coord) : Except Trap Cell :=
  match m.read c with
  | some cell => .ok cell
  | none => .error (.emptyCell c)

/-- The number in the cell at `c`. -/
def dataAt (m : Memory) (c : Coord) : Except Trap Float :=
  match m.read c with
  | some (.data value) => .ok value
  | some _ => .error (.notData c)
  | none => .error (.emptyCell c)

/-- The pointer in the cell at `c`. -/
def pointerAt (m : Memory) (c : Coord) : Except Trap Address :=
  match m.read c with
  | some (.pointer address) => .ok address
  | _ => .error (.notAnAddress c)

/-- The cell that the address names for a frame whose origin is `origin`. -/
def resolve (m : Memory) (origin : Coord) (a : Address) : Except Trap Coord := do
  let hop ← a.locate origin a.coord
  match a.indirection with
  | .direct => return hop
  | .indirect =>
    let pointer ← m.pointerAt hop
    pointer.locate origin hop

variable {m : Memory} {c : Coord}

/-- An address that names a cell still names it, in that frame, once it is absolute. -/
theorem resolve_toAbsolute {origin : Coord} {a : Address} (h : m.resolve origin a = .ok c) :
    m.resolve origin (a.toAbsolute origin) = .ok c := by
  unfold resolve at h ⊢
  cases hl : a.locate origin a.coord with
  | error trap =>
    rw [hl] at h
    cases h
  | ok hop =>
    rw [hl] at h
    rw [Address.locate_toAbsolute hl, Address.toAbsolute_indirection]
    exact h

theorem occupiedAt_eq_ok_iff {cell : Cell} : m.occupiedAt c = .ok cell ↔ m.read c = some cell := by
  unfold occupiedAt
  cases m.read c <;> simp

theorem dataAt_eq_ok_iff {x : Float} : m.dataAt c = .ok x ↔ m.read c = some (.data x) := by
  unfold dataAt
  rcases m.read c with _ | (_ | _ | _) <;> simp

theorem pointerAt_eq_ok_iff {a : Address} :
    m.pointerAt c = .ok a ↔ m.read c = some (.pointer a) := by
  unfold pointerAt
  rcases m.read c with _ | (_ | _ | _) <;> simp

end Memory

end GridMachine
