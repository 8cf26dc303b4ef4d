import GridMachine.Machine.Basic

/-! Edits: work done on a machine in place. An edit can be refused at any point, and nothing that it
changed before that point is undone. Whether refused work leaves a trace is therefore a matter of
the order in which its parts are done: looking first, changing after. -/

namespace GridMachine

/-- Work on a machine that gives an `α`, or is refused for a reason of type `ε`. -/
abbrev Edit (ε α : Type) := ExceptT ε (StateM Machine) α

namespace Edit

variable {ε α β : Type}

/-- Do the work on `m`: what came of it, and the machine then. -/
def make (work : Edit ε α) (m : Machine) : Except ε α × Machine := work.run.run m

/-- Look at the machine; what is seen may be a reason to refuse. -/
def look (see : Machine → Except ε α) : Edit ε α := ExceptT.mk do return see (← get)

def put (place : Coord) (cell : Cell) : Edit ε Unit :=
  modify fun m => { m with memory := m.memory.write place cell }

/-- Add a placeholder to the program, and hand over its name. -/
def grow : Edit ε NodeId := modifyGet fun m => m.addNode .nop

def overwrite (id : NodeId) (i : Instruction) : Edit ε Unit := modify fun m => (m.replaceNode id i).2

def restack (f : Stack → Stack) : Edit ε Unit := modify fun m => { m with stack := f m.stack }

def raise (flag : Option Bool) : Edit ε Unit := modify fun m => { m with flag := flag }

/-- Clear the flag and let the active frame go on at `next`. -/
def finish (next : NodeId) : Edit ε Unit := do
  raise none
  restack (·.modifyTop (·.advance next))

/-- Work in two parts: the second is done where the first ended, unless the first was refused, and
then the machine stays as the first left it. -/
theorem make_bind (work : Edit ε α) (next : α → Edit ε β) (m : Machine) :
    (work >>= next).make m =
      match work.make m with
      | (.ok a, n) => (next a).make n
      | (.error reason, n) => (.error reason, n) := by
  simp only [make, ExceptT.run_bind, StateT.run_bind]
  rcases work.run.run m with ⟨_ | _, n⟩ <;> rfl

theorem make_get (m : Machine) : (get : Edit ε Machine).make m = (.ok m, m) := rfl

theorem make_look (see : Machine → Except ε α) (m : Machine) : (look see).make m = (see m, m) := rfl

end Edit

end GridMachine
