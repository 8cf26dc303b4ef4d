import GridMachine.Address
import GridMachine.Operation

/-! Programs. A program is a growing graph of instructions: a node is added at the end and never
removed, so its number stays its name for good. A node can be overwritten in place, which every
holder of its name sees at once. A name need not belong to a node of the program; looking such a
name up gives nothing, and overwriting it does nothing. -/

namespace GridMachine

@[ext]
structure NodeId where
  index : Nat
deriving DecidableEq

/-- The written form of a name, `#index`. -/
def NodeId.text (id : NodeId) : String := "#" ++ toString id.index

/-- A node: what to do, on which operands, and where to go on. -/
inductive Instruction where
  /-- Nothing is recorded here yet; execution waits. -/
  | nop
  | data (op : DataOp) (source destination : Address) (next : NodeId)
  | branch (test : Comparison) (left right : Address) (ifTrue ifFalse : NodeId)
  /-- Enter the function at `target` in a new frame; its caller goes on at `link`. -/
  | call (target origin : Address) (link : NodeId)
  /-- Enter the function at `target` in place of the active frame. -/
  | jump (target origin : Address)
  | ret
deriving DecidableEq

namespace Instruction

def operation : Instruction → Operation
  | nop => .nop
  | data op .. => .data op
  | branch test .. => .branch test
  | call .. => .call
  | jump .. => .jump
  | ret => .ret

def isNop : Instruction → Bool
  | nop => true
  | _ => false

def source? : Instruction → Option Address
  | data _ source _ _ => some source
  | branch _ left _ _ _ => some left
  | call target _ _ => some target
  | jump target _ => some target
  | nop => none
  | ret => none

def destination? : Instruction → Option Address
  | data _ _ destination _ => some destination
  | branch _ _ right _ _ => some right
  | call _ origin _ => some origin
  | jump _ origin => some origin
  | nop => none
  | ret => none

/-- The nodes that the frame executing this node may go on at. -/
def successors : Instruction → List NodeId
  | data _ _ _ next => [next]
  | branch _ _ _ ifTrue ifFalse => [ifTrue, ifFalse]
  | call _ _ link => [link]
  | _ => []

/-- Either way of a branch is a way on. -/
theorem chosen_mem_successors (test : Comparison) (left right : Address)
    (ifTrue ifFalse : NodeId) (taken : Bool) :
    (if taken then ifTrue else ifFalse) ∈
      (branch test left right ifTrue ifFalse).successors := by
  cases taken with
  | true => exact List.mem_cons_self
  | false => exact List.mem_cons_of_mem ifTrue List.mem_cons_self

end Instruction

@[ext]
structure Program where
  nodes : Array Instruction
deriving DecidableEq

namespace Program

def empty : Program := ⟨#[]⟩

def size (p : Program) : Nat := p.nodes.size

/-- The name that the next added node will get. -/
def fresh (p : Program) : NodeId := ⟨p.size⟩

def push (p : Program) (i : Instruction) : Program := ⟨p.nodes.push i⟩

def get? (p : Program) (id : NodeId) : Option Instruction := p.nodes[id.index]?

def contains (p : Program) (id : NodeId) : Bool := decide (id.index < p.size)

/-- Overwrite the node of that name, if there is one. -/
def set (p : Program) (id : NodeId) (i : Instruction) : Program :=
  ⟨p.nodes.setIfInBounds id.index i⟩

/-- Overwrite the node of that name, and hand over what it held; nothing if there is no such
node. -/
def replace (p : Program) (id : NodeId) (i : Instruction) : Option Instruction × Program :=
  (p.get? id, p.set id i)

def isEmpty (p : Program) : Bool := p.nodes.isEmpty

def toList (p : Program) : List Instruction := p.nodes.toList

@[simp]
theorem size_push (p : Program) (i : Instruction) : (p.push i).size = p.size + 1 := by
  simp [push, size]

@[simp]
theorem size_set (p : Program) (id : NodeId) (i : Instruction) : (p.set id i).size = p.size := by
  simp [set, size]

/-- A name denotes a node exactly when it is below the fresh one. -/
theorem contains_iff {p : Program} {id : NodeId} : p.contains id = true ↔ id.index < p.size := by
  simp [contains]

theorem contains_eq_false_iff {p : Program} {id : NodeId} :
    p.contains id = false ↔ p.size ≤ id.index := by
  simp [contains]

theorem contains_of_size_le {p q : Program} (h : p.size ≤ q.size) {id : NodeId}
    (hc : p.contains id = true) : q.contains id = true :=
  contains_iff.2 (Nat.lt_of_lt_of_le (contains_iff.1 hc) h)

theorem contains_of_get? {p : Program} {id : NodeId} {i : Instruction} (h : p.get? id = some i) :
    p.contains id = true :=
  contains_iff.2 (Array.getElem?_eq_some_iff.1 h).1

theorem size_le_push (p : Program) (i : Instruction) : p.size ≤ (p.push i).size := by
  simp

/-- The fresh name is taken by the node added next. -/
theorem contains_fresh_push (p : Program) (i : Instruction) :
    (p.push i).contains p.fresh = true := by
  simp [contains_iff, fresh]

/-- Adding a node names it by the fresh name and leaves the others alone. -/
theorem get?_push (p : Program) (i : Instruction) (id : NodeId) :
    (p.push i).get? id = if id = p.fresh then some i else p.get? id := by
  simp [get?, push, fresh, size, Array.getElem?_push, NodeId.ext_iff]

/-- Overwriting changes the named node and no other, and adds none. -/
theorem get?_set (p : Program) (id : NodeId) (i : Instruction) (other : NodeId) :
    (p.set id i).get? other =
      if other = id ∧ p.contains id = true then some i else p.get? other := by
  simp only [get?, set, Array.getElem?_setIfInBounds, NodeId.ext_iff, contains_iff, size]
  by_cases h : id.index = other.index
  · by_cases hb : id.index < p.nodes.size
    · simp [h, h ▸ hb]
    · simp [h, h ▸ hb]
  · simp [h, Ne.symm h]

theorem get?_set_self {p : Program} {id : NodeId} (h : p.contains id = true) (i : Instruction) :
    (p.set id i).get? id = some i := by
  simp [get?_set, h]

theorem get?_set_of_ne {p : Program} {id other : NodeId} (h : other ≠ id) (i : Instruction) :
    (p.set id i).get? other = p.get? other := by
  rw [get?_set, if_neg]
  exact fun ho => h ho.1

end Program

end GridMachine
