import GridMachine.Memory.Store
import GridMachine.Machine.Edit

/-! One step of the machine. A step is an edit: it looks at what the operands name, and refuses with
a trap if they are not what the instruction needs; then it changes the machine, one part after the
other. At a placeholder no step is made. -/

namespace GridMachine

/-- The node to execute next, which the program must have. -/
def Machine.fetch (m : Machine) : Except Trap Instruction :=
  match m.currentInstruction? with
  | some i => .ok i
  | none => .error (.unknownInstruction m.active.current)

namespace Edit

/-- The entry of the function at `place`. A cell that holds no function gets an empty one, which
starts at a new placeholder. -/
def define (place : Coord) : Edit Trap NodeId := do
  match (← get).memory.read place with
  | some (.code entry) => return entry
  | _ =>
    let entry ← grow
    put place (.code entry)
    return entry

def data (op : DataOp) (source destination : Address) (next : NodeId) : Edit Trap Unit := do
  let source ← look (·.resolve source)
  let destination ← look (·.resolve destination)
  match ← look fun m => op.store m.memory m.active.origin source destination with
  | some store => put store.place store.cell
  | none => pure ()
  finish next

/-- Compare two numbers. The left one is reached and read before the right one is looked for. -/
def branch (test : Comparison) (left right : Address) (ifTrue ifFalse : NodeId) :
    Edit Trap Unit := do
  let place ← look (·.resolve left)
  let left ← look (·.memory.dataAt place)
  let place ← look (·.resolve right)
  let right ← look (·.memory.dataAt place)
  let taken := test.holds left right
  raise (some taken)
  restack (·.modifyTop (·.advance (if taken then ifTrue else ifFalse)))

/-- Resolve the operands of a transfer to a function, define the function if need be, and make the
frame that runs it. -/
def enter (target origin : Address) : Edit Trap Frame := do
  let target ← look (·.resolve target)
  let origin ← look (·.resolve origin)
  let entry ← define target
  return .enter origin target entry

/-- Run a function in a new frame; the caller will go on at `link`. -/
def call (target origin : Address) (link : NodeId) : Edit Trap Unit := do
  let frame ← enter target origin
  finish link
  restack (·.push frame)

def jump (target origin : Address) : Edit Trap Unit := do
  let frame ← enter target origin
  raise none
  restack (·.modifyTop fun _ => frame)

def ret : Edit Trap Unit := do
  match (← get).stack.pop? with
  | some stack =>
    restack fun _ => stack
    raise none
  | none => throw .returnFromRoot

def execute : Edit Trap Bool := do
  match ← look Machine.fetch with
  | .nop => return false
  | .data op source destination next => data op source destination next
  | .branch test left right ifTrue ifFalse => branch test left right ifTrue ifFalse
  | .call target origin link => call target origin link
  | .jump target origin => jump target origin
  | .ret => ret
  return true

end Edit

namespace Machine

/-- Execute the current node: whether a step was made, and the state then. -/
def execute (m : Machine) : Except Trap Bool × Machine := Edit.execute.make m

/-- Execute up to `bound` steps and count on from `made`. -/
def runFrom (made : Nat) : Nat → Machine → Except Trap Nat × Machine
  | 0, m => (.ok made, m)
  | bound + 1, m =>
    match m.execute with
    | (.ok true, next) => runFrom (made + 1) bound next
    | (.ok false, next) => (.ok made, next)
    | (.error trap, next) => (.error trap, next)

/-- Execute until there is nothing to execute, a trap, or `bound` steps: the number of steps made,
or the trap, and the state then. -/
def run (m : Machine) (bound : Nat) : Except Trap Nat × Machine := m.runFrom 0 bound

end Machine

end GridMachine
