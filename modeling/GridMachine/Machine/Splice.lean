import GridMachine.Machine.Step

/-! Recording an instruction at the current node. `vet` looks at the cells that the operands name
and decides whether the operation makes sense on them now; `build` then appends one placeholder for
each way on, and `splice` writes the instruction over the current node. -/

namespace GridMachine

inductive Rejection where
  | emptyOperand (site : Coord)
  | expectedData (site : Coord)
  | expectedAddress (site : Coord)
  /-- A function is called or defined only at a cell that holds a function or nothing. -/
  | expectedCodeOrEmpty (site : Coord)
  | returnFromRoot
  /-- An operand names no cell. -/
  | unresolvedOperand (trap : Trap)
deriving DecidableEq

def Rejection.message : Rejection → String
  | emptyOperand site => "operand at " ++ site.text ++ " is empty"
  | expectedData site => "operand at " ++ site.text ++ " must hold data"
  | expectedAddress site => "operand at " ++ site.text ++ " must hold an address"
  | expectedCodeOrEmpty site => "call target at " ++ site.text ++ " must be empty or hold code"
  | returnFromRoot => "RET cannot be recorded in the root context"
  | unresolvedOperand trap => "unresolved operand: " ++ trap.message

/-- An operand as it is now: the cell it names and what that cell holds. -/
structure Operand where
  site : Coord
  cell? : Option Cell

namespace Operand

def expectOccupied (x : Operand) : Except Rejection Unit :=
  match x.cell? with
  | some _ => .ok ()
  | none => .error (.emptyOperand x.site)

def expectData (x : Operand) : Except Rejection Unit :=
  match x.cell? with
  | some (.data _) => .ok ()
  | _ => .error (.expectedData x.site)

def expectAddress (x : Operand) : Except Rejection Unit :=
  match x.cell? with
  | some (.pointer _) => .ok ()
  | _ => .error (.expectedAddress x.site)

/-- Refuse an operand that holds something other than a function. -/
def expectCodeOrEmpty (x : Operand) : Except Rejection Unit :=
  match x.cell? with
  | none => .ok ()
  | some (.code _) => .ok ()
  | some _ => .error (.expectedCodeOrEmpty x.site)

end Operand

/-- Whether the operation makes sense on these operands. -/
def DataOp.vet (op : DataOp) (source destination : Operand) : Except Rejection Unit :=
  match op with
  | addressOf => .ok ()
  | move => source.expectOccupied
  | shift => do
    source.expectData
    destination.expectAddress
  | read => source.expectAddress
  | write => do
    source.expectOccupied
    destination.expectAddress
  | arithmetic _ => do
    source.expectData
    destination.expectData

namespace Machine

def operand (m : Machine) (a : Address) : Except Rejection Operand :=
  match m.resolve a with
  | .ok site => .ok ⟨site, m.memory.read site⟩
  | .error trap => .error (.unresolvedOperand trap)

/-- Whether the operation can be recorded with these operands in this state. -/
def vet (m : Machine) (source destination : Address) : Operation → Except Rejection Unit
  | .nop => .ok ()
  | .data op => do
    let source ← m.operand source
    let destination ← m.operand destination
    op.vet source destination
  | .branch _ => do
    let source ← m.operand source
    source.expectData
    let destination ← m.operand destination
    destination.expectData
  | .call | .jump => do
    let source ← m.operand source
    source.expectCodeOrEmpty
    let _ ← m.operand destination
  | .ret => if m.depth < 2 then .error .returnFromRoot else .ok ()

end Machine

namespace Edit

/-- Vet the operation and make its instruction, with a new placeholder for each way on. The target
of a call or jump is pinned to the cell it names now, so that it is the same function from every
frame. There is no instruction to record for an operation that does nothing. -/
def build (source destination : Address) (op : Operation) : Edit Rejection (Option Instruction) := do
  look (·.vet source destination op)
  let target := source.toAbsolute (← get).active.origin
  match op with
  | .nop => return none
  | .data op => return some (.data op source destination (← grow))
  | .branch test =>
    let ifTrue ← grow
    let ifFalse ← grow
    return some (.branch test source destination ifTrue ifFalse)
  | .call => return some (.call target destination (← grow))
  | .jump => return some (.jump target destination)
  | .ret => return some .ret

/-- Record the operation over the current node, and hand over the name of that node. -/
def splice (source destination : Address) (op : Operation) : Edit Rejection NodeId := do
  let slot := (← get).active.current
  match ← build source destination op with
  | some i =>
    overwrite slot i
    return slot
  | none => return slot

end Edit

/-- Record the operation at the current node: the name of that node, or the reason against it, and
the state then. -/
def Machine.splice (m : Machine) (source destination : Address) (op : Operation) :
    Except Rejection NodeId × Machine := (Edit.splice source destination op).make m

end GridMachine
