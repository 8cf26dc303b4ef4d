import GridMachine.Proofs.Storing

/-! # The instruction table

`Effect` is the table: for each kind of node, which cell a step stores and what (an operation on
data has rows of its own, `DataOp.Stores`), how the program grows, the flag, and how the frames go
on. Everything in it is read off the state before the step, through the addresses as they resolved
then, so that operands that name one cell, or a pointer to itself, or the cell that a call defines,
need no rows of their own. A step is shown to have the effect in the table, and from the table alone
it follows that nothing else changes, that no cell is emptied, and that a program grows by one
placeholder at most. -/

namespace GridMachine

/-! ## The table -/

/-- `after` holds what is stored, in its place, and in all other places what `before` holds. -/
def Memory.Written (before : Memory) (store : Option Store) (after : Memory) : Prop :=
  ∀ c, after.read c =
    match store with
    | some s => if c = s.place then some s.cell else before.read c
    | none => before.read c

theorem Memory.written_apply (m : Memory) (store : Option Store) :
    m.Written store (m.apply store) := by
  intro c
  cases store with
  | none => rfl
  | some s => exact m.read_write s.place s.cell c

namespace Memory.Written

variable {before after : Memory} {store : Option Store} {c : Coord}

/-- Where nothing is stored, nothing changes. -/
theorem read_eq (h : before.Written store after) (hc : ∀ s, store = some s → c ≠ s.place) :
    after.read c = before.read c := by
  rw [h c]
  cases store with
  | none => rfl
  | some s => exact if_neg (hc s rfl)

/-- A write empties no cell. -/
theorem occupied (h : before.Written store after) (hc : before.read c ≠ none) :
    after.read c ≠ none := by
  rw [h c]
  cases store with
  | none => exact hc
  | some s =>
    show (if c = s.place then some s.cell else before.read c) ≠ none
    split
    · nofun
    · exact hc

end Memory.Written

namespace Machine

variable {m n : Machine} {i : Instruction}

/-- In `n`, the function at `place` starts at `entry`. It did so in `m` already, and cells and
program are the same; or there was no function in `m`, and `n` has one that starts at a new
placeholder. -/
inductive Enters (m n : Machine) (place : Coord) (entry : NodeId) : Prop
  | known (held : m.memory.read place = some (.code entry))
      (memory : m.memory.Written none n.memory) (program : n.program = m.program)
  | new (other : ∀ id, m.memory.read place ≠ some (.code id)) (fresh : entry = m.program.fresh)
      (memory : m.memory.Written (some ⟨place, .code entry⟩) n.memory)
      (program : n.program = m.program.push .nop)

/-- What the step from `m` to `n` does, by the node that it executes. -/
inductive Effect (m n : Machine) : Instruction → Prop
  | data {op : DataOp} {source destination : Address} {next : NodeId} {a b : Coord}
      {store : Option Store} (source_at : m.resolve source = .ok a)
      (destination_at : m.resolve destination = .ok b)
      (stores : op.Stores m.memory m.active.origin a b store)
      (memory : m.memory.Written store n.memory) (program : n.program = m.program)
      (flag : n.flag = none)
      (top : n.stack.top = { m.active with current := next, previous := some m.active.current })
      (callers : n.stack.callers = m.stack.callers) :
      Effect m n (.data op source destination next)
  | branch {test : Comparison} {left right : Address} {ifTrue ifFalse : NodeId} {x y : Float}
      {taken : Bool} (left_is : m.read left = .ok (some (.data x)))
      (right_is : m.read right = .ok (some (.data y))) (decides : taken = true ↔ test.Holds x y)
      (memory : m.memory.Written none n.memory) (program : n.program = m.program)
      (flag : n.flag = some taken)
      (top : n.stack.top =
        { m.active with
          current := if taken then ifTrue else ifFalse
          previous := some m.active.current })
      (callers : n.stack.callers = m.stack.callers) :
      Effect m n (.branch test left right ifTrue ifFalse)
  | call {target origin : Address} {link entry : NodeId} {a b : Coord}
      (target_at : m.resolve target = .ok a) (origin_at : m.resolve origin = .ok b)
      (enters : m.Enters n a entry) (flag : n.flag = none)
      (top : n.stack.top = ⟨b, a, entry, none⟩)
      (callers : n.stack.callers =
        { m.active with current := link, previous := some m.active.current } ::
          m.stack.callers) :
      Effect m n (.call target origin link)
  | jump {target origin : Address} {entry : NodeId} {a b : Coord}
      (target_at : m.resolve target = .ok a) (origin_at : m.resolve origin = .ok b)
      (enters : m.Enters n a entry) (flag : n.flag = none)
      (top : n.stack.top = ⟨b, a, entry, none⟩)
      (callers : n.stack.callers = m.stack.callers) :
      Effect m n (.jump target origin)
  | ret (memory : m.memory.Written none n.memory) (program : n.program = m.program)
      (flag : n.flag = none) (uncovered : m.stack.callers = n.stack.top :: n.stack.callers) :
      Effect m n .ret

theorem read_of_dataAt {a : Address} {c : Coord} {x : Float} (hc : m.resolve a = .ok c)
    (hx : m.memory.dataAt c = .ok x) : m.read a = .ok (some (.data x)) := by
  rw [read, hc, ok_bind, Memory.dataAt_eq_ok_iff.1 hx]
  rfl

/-- Defining the function at a cell has the effect of entering it, whatever happens to the frames
and the flag. -/
theorem enters_define (m : Machine) (place : Coord) (stack : Stack) (flag : Option Bool) :
    m.Enters { (m.define place).2 with stack := stack, flag := flag } place (m.define place).1 := by
  rcases m.define_cases place with ⟨entry, held, hd⟩ | ⟨other, hd⟩
  · rw [hd]
    exact .known held (m.memory.written_apply none) rfl
  · rw [hd]
    exact .new other rfl (m.memory.written_apply (some ⟨place, .code m.program.fresh⟩)) rfl

/-- **A step has the effect that is in the table.** -/
theorem Step.effect (h : Step m n) : ∃ i, m.currentInstruction? = some i ∧ Effect m n i := by
  cases h with
  | data current source_at destination_at stored =>
    exact ⟨_, current, .data source_at destination_at (.of_store stored)
      (m.memory.written_apply _) rfl rfl rfl rfl⟩
  | branch current left_at left_is right_at right_is =>
    exact ⟨_, current, .branch (read_of_dataAt left_at left_is) (read_of_dataAt right_at right_is)
      Comparison.holds_iff (m.memory.written_apply none) rfl rfl rfl rfl⟩
  | @call target origin link a b current target_at origin_at =>
    exact ⟨_, current, .call target_at origin_at (m.enters_define a _ none) rfl rfl rfl⟩
  | @jump target origin a b current target_at origin_at =>
    exact ⟨_, current, .jump target_at origin_at (m.enters_define a _ none) rfl rfl rfl⟩
  | ret current popped =>
    exact ⟨_, current, .ret (m.memory.written_apply none) rfl rfl
      (Stack.pop?_eq_some_iff.1 popped)⟩

/-! ## Nothing more -/

/-- The cell `c` is the one that the node may change. -/
def Touches (m : Machine) (c : Coord) : Instruction → Prop
  | .data .write _ destination _ =>
    ∃ b p, m.resolve destination = .ok b ∧ m.memory.read b = some (.pointer p) ∧
      m.resolve p.direct = .ok c
  | .data _ _ destination _ => m.resolve destination = .ok c
  | .call target _ _ | .jump target _ => m.resolve target = .ok c
  | .nop | .branch .. | .ret => False

theorem touches_of_stores {op : DataOp} {source destination : Address} {next : NodeId}
    {a b : Coord} {s : Store} (hb : m.resolve destination = .ok b)
    (h : op.Stores m.memory m.active.origin a b (some s)) :
    m.Touches s.place (.data op source destination next) := by
  cases h with
  | write held pointee => exact ⟨b, _, hb, held, pointee⟩
  | addressOf | shift | read | move | arithmetic => exact hb

theorem Enters.written {place : Coord} {entry : NodeId} (h : m.Enters n place entry) :
    ∃ store, m.memory.Written store n.memory ∧ ∀ s, store = some s → s.place = place := by
  cases h with
  | known held memory => exact ⟨none, memory, nofun⟩
  | new other fresh memory =>
    refine ⟨_, memory, fun s hs => ?_⟩
    cases hs
    rfl

/-- One cell is stored at most, and it is the one that the node may change. -/
theorem Effect.written (h : Effect m n i) :
    ∃ store, m.memory.Written store n.memory ∧ ∀ s, store = some s → m.Touches s.place i := by
  cases h with
  | @data op source destination next a b store source_at destination_at stores memory =>
    refine ⟨store, memory, ?_⟩
    rintro s rfl
    exact touches_of_stores destination_at stores
  | branch left_is right_is decides memory => exact ⟨none, memory, nofun⟩
  | call target_at origin_at enters | jump target_at origin_at enters =>
    obtain ⟨store, memory, hplace⟩ := enters.written
    refine ⟨store, memory, fun s hs => ?_⟩
    rw [hplace s hs]
    exact target_at
  | ret memory => exact ⟨none, memory, nofun⟩

/-- The program grows by one placeholder at most. -/
theorem Effect.program_eq (h : Effect m n i) :
    n.program = m.program ∨ n.program = m.program.push .nop := by
  cases h with
  | data source_at destination_at stores memory program => exact .inl program
  | branch left_is right_is decides memory program => exact .inl program
  | call target_at origin_at enters | jump target_at origin_at enters =>
    cases enters with
    | known held memory program => exact .inl program
    | new other fresh memory program => exact .inr program
  | ret memory program => exact .inl program

/-- **Every step has the effect of the instruction table, and nothing more.** A step that is made is
made on a node that is in the table, with the effect that is there. It changes no cell that the node
may not change, and empties none; the program gets one placeholder more, or stays as it is. -/
theorem execute_effect (h : m.execute = (.ok true, n)) :
    ∃ i, m.currentInstruction? = some i ∧ Effect m n i ∧
      (∀ c, n.memory.read c ≠ m.memory.read c → m.Touches c i) ∧
      (∀ c, m.memory.read c ≠ none → n.memory.read c ≠ none) ∧
      (n.program = m.program ∨ n.program = m.program.push .nop) := by
  obtain ⟨i, hi, heffect⟩ := (execute_eq_true_iff.1 h).effect
  obtain ⟨store, hwritten, htouches⟩ := heffect.written
  refine ⟨i, hi, heffect, ?_, ?_, heffect.program_eq⟩
  · intro c hc
    refine Classical.byContradiction fun hno => hc (hwritten.read_eq fun s hs => ?_)
    rintro rfl
    exact hno (htouches s hs)
  · intro c hc
    exact hwritten.occupied hc

/-- A call that takes its origin through the pointer in the very cell that it calls. -/
def calledPointer : Machine :=
  { ofMemory (.ofList [(⟨0, 1⟩, .pointer (.absolute ⟨4, 4⟩))]) with
    program := ⟨#[.call (.absolute ⟨0, 1⟩) (.indirect (.absolute ⟨0, 1⟩)) ⟨1⟩, .nop]⟩ }

/-- The origin is found before the pointer is overwritten by the function that the call defines. -/
theorem calledPointer_effect :
    ∃ n, calledPointer.execute = (.ok true, n) ∧
      n.memory.read ⟨0, 1⟩ = some (.code ⟨2⟩) ∧ n.active = ⟨⟨4, 4⟩, ⟨0, 1⟩, ⟨2⟩, none⟩ ∧
      ∃ i, calledPointer.currentInstruction? = some i ∧ Effect calledPointer n i ∧
        (∀ c, n.memory.read c ≠ calledPointer.memory.read c → calledPointer.Touches c i) ∧
        (∀ c, calledPointer.memory.read c ≠ none → n.memory.read c ≠ none) ∧
        (n.program = calledPointer.program ∨ n.program = calledPointer.program.push .nop) :=
  ⟨_, rfl, rfl, rfl, execute_effect rfl⟩

end Machine

end GridMachine
