import GridMachine.Memory.Access

/-! What a data operation stores. Once its operands are resolved, a data operation reads cells and
decides on at most one cell to write; everything it checks is checked here, before anything is
written. -/

namespace GridMachine

/-- The whole number of columns that the number `amount`, kept at `site`, moves a pointer by: the
greatest one not above it. -/
def shiftColumns (site : Coord) (amount : Float) : Except Trap Int64 :=
  if amount.isFinite then
    let whole := (Exact.ofFloat amount).floor.toFloat
    -- No double is the greatest word, and the one nearest to it is above every word.
    if whole < nearestDouble Int64.minValue ∨ nearestDouble Int64.maxValue ≤ whole then
      .error (.addressOutOfRange site)
    else
      .ok (nearestWord whole)
  else
    .error (.nonFiniteShift site)

/-- One cell to be written: where and what. -/
structure Store where
  place : Coord
  cell : Cell

namespace DataOp

/-- The cell that the operation writes, with `source` and `destination` its resolved operands and
`origin` the origin of the active frame. Fetching through a pointer to an empty cell writes
nothing. -/
def store (op : DataOp) (m : Memory) (origin source destination : Coord) :
    Except Trap (Option Store) :=
  match op with
  | addressOf => return some ⟨destination, .pointer (.absolute source)⟩
  | move => return some ⟨destination, ← m.occupiedAt source⟩
  | shift => do
    let pointer ← m.pointerAt destination
    let amount ← m.dataAt source
    let n ← shiftColumns source amount
    match pointer.shift? n with
    | some moved => return some ⟨destination, .pointer moved⟩
    | none => throw (.addressOutOfRange destination)
  | read => do
    let pointer ← m.pointerAt source
    let place ← pointer.locate origin source
    return (m.read place).map fun cell => ⟨destination, cell⟩
  | write => do
    let pointer ← m.pointerAt destination
    let cell ← m.occupiedAt source
    let place ← pointer.locate origin destination
    return some ⟨place, cell⟩
  | arithmetic op => do
    let right ← m.dataAt source
    let left ← m.dataAt destination
    match op.apply left right with
    | some value => return some ⟨destination, .data value⟩
    | none => throw (.divisionByZero source)

end DataOp

/-- The memory after the write, if there is one to make. -/
def Memory.apply (m : Memory) : Option Store → Memory
  | some s => m.write s.place s.cell
  | none => m

end GridMachine
