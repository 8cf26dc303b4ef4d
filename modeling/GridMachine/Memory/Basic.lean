import GridMachine.Program

/-! The grid memory: a finite map from coordinates to cells. A cell that was never written, or was
cleared, is absent. Two memories that read alike everywhere are equal, whatever their history, and
the enumeration is in the order of the coordinates. -/

namespace GridMachine

inductive Cell where
  | data (value : Float)
  /-- A pointer: the address of another cell. -/
  | pointer (address : Address)
  /-- A function, by the node it starts at. -/
  | code (entry : NodeId)
deriving DecidableEq

namespace Cell

def data? : Cell → Option Float
  | data value => some value
  | _ => none

def pointer? : Cell → Option Address
  | pointer address => some address
  | _ => none

def code? : Cell → Option NodeId
  | code entry => some entry
  | _ => none

/-- Whether two cells hold the same, numbers being compared as numbers: a NaN is unlike itself, and
the two zeros are alike. -/
def alike : Cell → Cell → Bool
  | data x, data y => x == y
  | pointer a, pointer b => a == b
  | code i, code j => i == j
  | _, _ => false

end Cell

@[ext]
structure Memory where
  cells : Std.ExtTreeMap Coord Cell

namespace Memory

def empty : Memory := ⟨∅⟩

def read (m : Memory) (c : Coord) : Option Cell := m.cells[c]?

def write (m : Memory) (c : Coord) (cell : Cell) : Memory := ⟨m.cells.insert c cell⟩

def clear (m : Memory) (c : Coord) : Memory := ⟨m.cells.erase c⟩

def take (m : Memory) (c : Coord) : Option Cell × Memory := (m.read c, m.clear c)

def size (m : Memory) : Nat := m.cells.size

def isEmpty (m : Memory) : Bool := m.cells.isEmpty

/-- The occupied cells, row by row. -/
def toList (m : Memory) : List (Coord × Cell) := m.cells.toList

/-- The memory after writing the pairs in turn, so that a later pair for a coordinate wins. -/
def ofList (pairs : List (Coord × Cell)) : Memory :=
  pairs.foldl (fun m p => m.write p.1 p.2) empty

@[simp]
theorem read_empty (c : Coord) : empty.read c = none := by
  simp [empty, read]

/-- A write is read back at its coordinate and changes no other. -/
theorem read_write (m : Memory) (c : Coord) (cell : Cell) (d : Coord) :
    (m.write c cell).read d = if d = c then some cell else m.read d := by
  simp only [read, write, Std.ExtTreeMap.getElem?_insert, Std.compare_eq_iff_eq, @eq_comm _ d c]

/-- Clearing empties its coordinate and changes no other. -/
theorem read_clear (m : Memory) (c d : Coord) :
    (m.clear c).read d = if d = c then none else m.read d := by
  simp only [read, clear, Std.ExtTreeMap.getElem?_erase, Std.compare_eq_iff_eq, @eq_comm _ d c]

/-- Memories that read alike are equal. -/
theorem ext_read {m n : Memory} (h : ∀ c, m.read c = n.read c) : m = n :=
  Memory.ext (Std.ExtTreeMap.ext_getElem? fun {c} => h c)

/-- The enumeration lists a cell exactly where it is read. -/
theorem mem_toList_iff {m : Memory} {c : Coord} {cell : Cell} :
    (c, cell) ∈ m.toList ↔ m.read c = some cell :=
  Std.ExtTreeMap.mem_toList_iff_getElem?_eq_some

end Memory

end GridMachine
