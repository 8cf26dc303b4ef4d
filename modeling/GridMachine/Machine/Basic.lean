import GridMachine.Memory.Access
import GridMachine.Stack

/-! The machine: a memory, a program, a stack of frames and the flag of the last branch. Addresses
are resolved against the origin of the active frame. -/

namespace GridMachine

@[ext]
structure Machine where
  memory : Memory
  program : Program
  stack : Stack
  /-- What the last step decided, if it was a branch. -/
  flag : Option Bool

namespace Machine

/-- The machine about to author its root function, over the given cells. The function at the zero of
the grid is the root; its first node is a placeholder. -/
def ofMemory (memory : Memory) : Machine :=
  let entry := Program.empty.fresh
  { memory := memory.write .zero (.code entry)
    program := Program.empty.push .nop
    stack := .root (.enter .zero .zero entry)
    flag := none }

def initial : Machine := ofMemory .empty

def active (m : Machine) : Frame := m.stack.top

def depth (m : Machine) : Nat := m.stack.depth

def currentInstruction? (m : Machine) : Option Instruction := m.program.get? m.active.current

def previousInstruction? (m : Machine) : Option Instruction :=
  m.active.previous.bind m.program.get?

/-- Whether there is nothing to execute: a placeholder, or no node at all. -/
def isHalted (m : Machine) : Bool :=
  match m.currentInstruction? with
  | some i => i.isNop
  | none => true

/-- The cell that the address names in the active frame. -/
def resolve (m : Machine) (a : Address) : Except Trap Coord := m.memory.resolve m.active.origin a

def read (m : Machine) (a : Address) : Except Trap (Option Cell) := do
  return m.memory.read (← m.resolve a)

def write (m : Machine) (a : Address) (cell : Cell) : Except Trap Unit × Machine :=
  match m.resolve a with
  | .ok place => (.ok (), { m with memory := m.memory.write place cell })
  | .error trap => (.error trap, m)

def addNode (m : Machine) (i : Instruction) : NodeId × Machine :=
  (m.program.fresh, { m with program := m.program.push i })

def replaceNode (m : Machine) (id : NodeId) (i : Instruction) : Option Instruction × Machine :=
  let (held, program) := m.program.replace id i
  (held, { m with program := program })

end Machine

end GridMachine
