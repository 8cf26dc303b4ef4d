import GridMachine.Coord

/-! Addresses. An address counts its coordinates either from the zero of the grid or from the
origin of the frame that uses it, and names either that cell or the cell a pointer stored there
designates. Converting between the two bases wraps at the edges of the grid, so the two
conversions undo each other for every origin; `toAbsolute?` is the exact conversion. -/

namespace GridMachine

/-- Whether an address names the cell at its coordinates or goes through a pointer kept there. -/
inductive Indirection where
  | direct
  | indirect
deriving DecidableEq

/-- What the coordinates of an address are counted from. -/
inductive Base where
  | relative
  | absolute
deriving DecidableEq

/-- An operand: where to look, counted from where, and whether to follow a pointer found there. -/
@[ext]
structure Address where
  indirection : Indirection
  base : Base
  coord : Coord
deriving DecidableEq

namespace Address

def absolute (c : Coord) : Address := ⟨.direct, .absolute, c⟩

def relative (offset : Coord) : Address := ⟨.direct, .relative, offset⟩

/-- The same coordinates, taken as the place of a pointer to follow. -/
def indirect (a : Address) : Address := { a with indirection := .indirect }

/-- The same cell counted from the zero of the grid, wrapping at its edges. -/
def toAbsolute (a : Address) (origin : Coord) : Address :=
  match a.base with
  | .relative => { a with base := .absolute, coord := a.coord + origin }
  | .absolute => a

/-- The same cell counted from the zero of the grid, if it lies on the grid without wrapping. -/
def toAbsolute? (a : Address) (origin : Coord) : Option Address :=
  match a.base with
  | .relative => (a.coord.add? origin).map fun c => { a with base := .absolute, coord := c }
  | .absolute => some a

def toRelative (a : Address) (origin : Coord) : Address :=
  match a.base with
  | .relative => a
  | .absolute => { a with base := .relative, coord := a.coord - origin }

/-- The pointer `a` moved along its row by `columns`, if its column stays on the grid. -/
def shift? (a : Address) (columns : Int64) : Option Address :=
  (a.coord.add? ⟨0, columns⟩).map fun c => { a with coord := c }

@[simp]
theorem toAbsolute_base (a : Address) (origin : Coord) : (a.toAbsolute origin).base = .absolute := by
  cases h : a.base <;> simp [toAbsolute, h]

@[simp]
theorem toAbsolute_indirection (a : Address) (origin : Coord) :
    (a.toAbsolute origin).indirection = a.indirection := by
  cases h : a.base <;> simp [toAbsolute, h]

/-- Where the exact conversion has a value, it is the wrapping one. -/
theorem toAbsolute_eq_of_toAbsolute? {a b : Address} {origin : Coord}
    (h : a.toAbsolute? origin = some b) : a.toAbsolute origin = b := by
  unfold toAbsolute? at h
  unfold toAbsolute
  split at h
  · obtain ⟨c, hc, rfl⟩ := Option.map_eq_some_iff.1 h
    rw [Coord.add_eq_of_add? hc]
  · exact Option.some.inj h

/-- The written form: a star for an address that follows a pointer, the base, the coordinates. -/
def text (a : Address) : String :=
  let star := match a.indirection with
    | .direct => ""
    | .indirect => "*"
  let base := match a.base with
    | .relative => "local "
    | .absolute => "global "
  star ++ base ++ a.coord.text

end Address

end GridMachine
