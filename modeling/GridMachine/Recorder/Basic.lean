import GridMachine.Machine.Splice

/-! The recorder turns gestures on the grid into instructions. Picking a cell makes an address of
it: two toggles say whether the address is counted from the active origin and whether it goes
through the pointer in the cell. Choosing an operation records it with the two picked cells.
Dragging from the origin of the active frame to its function is a gesture of its own: return. The
grid view emphasises the cells of the active frame before all, then the source and the destination,
be they picked just now or the operands of the last step. -/

namespace GridMachine

/-- Why a gesture recorded no step. -/
inductive RecordError where
  | missingSource
  | missingDestination
  /-- The instruction was not recorded. -/
  | rejected (reason : Rejection)
  /-- The instruction was recorded, and its execution refused. -/
  | trapped (trap : Trap)
deriving DecidableEq

def RecordError.message : RecordError → String
  | missingSource => "no source cell picked"
  | missingDestination => "no destination cell picked"
  | rejected reason => "rejected: " ++ reason.message
  | trapped trap => "trapped: " ++ trap.message

/-- The toggles and the cells picked so far. -/
@[ext]
structure Recorder where
  base : Base := .relative
  indirection : Indirection := .direct
  source : Option Address := none
  destination : Option Address := none
deriving DecidableEq

namespace Recorder

/-- The address that the toggles make of the cell `c`. -/
def pick (r : Recorder) (m : Machine) (c : Coord) : Address :=
  let picked : Address := ⟨r.indirection, .absolute, c⟩
  match r.base with
  | .absolute => picked
  | .relative => picked.toRelative m.active.origin

def setSource (r : Recorder) (m : Machine) (c : Coord) : Recorder :=
  { r with source := some (r.pick m c) }

def setDestination (r : Recorder) (m : Machine) (c : Coord) : Recorder :=
  { r with destination := some (r.pick m c) }

def reset (r : Recorder) : Recorder := { r with source := none, destination := none }

/-- The operands to record with. An operation without operands takes any address in their place. -/
def operands (r : Recorder) (op : Operation) : Except RecordError (Address × Address) :=
  let needed : Except RecordError (Address × Address) :=
    match r.source, r.destination with
    | none, _ => .error .missingSource
    | some _, none => .error .missingDestination
    | some source, some destination => .ok (source, destination)
  let any : Address := .relative .zero
  match op with
  | .nop | .ret => .ok (r.source.getD any, r.destination.getD any)
  | _ => needed

/-- Record the operation at the current node; on success the picks are used up. -/
def record (r : Recorder) (m : Machine) (op : Operation) :
    Except RecordError NodeId × Recorder × Machine :=
  match r.operands op with
  | .error e => (.error e, r, m)
  | .ok (source, destination) =>
    match m.splice source destination op with
    | (.ok id, m) => (.ok id, r.reset, m)
    | (.error reason, m) => (.error (.rejected reason), r, m)

def recordAndStep (r : Recorder) (m : Machine) (op : Operation) :
    Except RecordError Bool × Recorder × Machine :=
  match r.record m op with
  | (.error e, r, m) => (.error e, r, m)
  | (.ok _, r, m) =>
    match m.execute with
    | (.ok stepped, m) => (.ok stepped, r, m)
    | (.error trap, m) => (.error (.trapped trap), r, m)

/-- Whether the address, counted from the active origin, comes to the cell `c`; the pointer kept
there is not followed. -/
def names (m : Machine) (c : Coord) (a : Address) : Bool :=
  (a.toAbsolute m.active.origin).coord == c

/-- Whether the picks drag from the origin of the active frame to its function. -/
def dragsHome (r : Recorder) (m : Machine) : Bool :=
  r.source.any (names m m.active.origin) && r.destination.any (names m m.active.target)

/-- Drop a drag on the cell `c`, which becomes the destination. A drag home returns from the active
frame; any other one waits for an operation. -/
def drop (r : Recorder) (m : Machine) (c : Coord) :
    Except RecordError (Option Bool) × Recorder × Machine :=
  let r := r.setDestination m c
  if r.dragsHome m then
    match r.recordAndStep m .ret with
    | (.ok stepped, r, m) => (.ok (some stepped), r, m)
    | (.error e, r, m) => (.error e, r, m)
  else
    (.ok none, r, m)

end Recorder

/-- The emphasis of a cell. -/
inductive Highlight where
  /-- The origin of the active frame or its function. -/
  | activeFrame
  | source
  | destination
  | plain
deriving DecidableEq

/-- The emphasis of the cell `c`. An operand that goes through a pointer marks the pointer's own
cell. -/
def Recorder.highlight (r : Recorder) (m : Machine) (c : Coord) : Highlight :=
  let marked (a : Option Address) : Bool := a.any (names m c)
  let last := m.previousInstruction?
  if c = m.active.origin ∨ c = m.active.target then .activeFrame
  else if marked r.source || marked (last.bind (·.source?)) then .source
  else if marked r.destination || marked (last.bind (·.destination?)) then .destination
  else .plain

end GridMachine
