import GridMachine.Proofs.Acts
import GridMachine.Proofs.Effect
import GridMachine.Proofs.Traps

/-! # Every name that a machine holds has a node

A machine holds names of nodes in four places: in the nodes themselves, in the cells of functions,
and in each frame as the node to execute next and the node executed last. It is closed when all of
them are names of its program. Programs never shrink, so a name once held by a node stays so, and
what is left to prove of each act is that the names it brings in are either new or copied from one
of the four places. -/

namespace GridMachine

/-! ## Names within a program -/

/-- Every way on from the node leads to a node of `p`. -/
def Instruction.Within (i : Instruction) (p : Program) : Prop :=
  ∀ next ∈ i.successors, p.contains next = true

/-- The function in the cell, if there is one, starts at a node of `p`. -/
def Cell.Within (cell : Cell) (p : Program) : Prop :=
  ∀ entry, cell = .code entry → p.contains entry = true

/-- The frame goes on at a node of `p`, and comes from one. -/
structure Frame.Within (f : Frame) (p : Program) : Prop where
  current : p.contains f.current = true
  previous : ∀ id, f.previous = some id → p.contains id = true

/-- Every way on from every node leads to a node. -/
def Program.Closed (p : Program) : Prop := ∀ id i, p.get? id = some i → i.Within p

theorem Instruction.Within.mono {i : Instruction} {p q : Program} (h : i.Within p)
    (hs : p.size ≤ q.size) : i.Within q := by
  intro next hn
  exact Program.contains_of_size_le hs (h next hn)

theorem Cell.Within.mono {cell : Cell} {p q : Program} (h : cell.Within p)
    (hs : p.size ≤ q.size) : cell.Within q := by
  intro entry he
  exact Program.contains_of_size_le hs (h entry he)

theorem Frame.Within.mono {f : Frame} {p q : Program} (h : f.Within p)
    (hs : p.size ≤ q.size) : f.Within q := by
  refine ⟨Program.contains_of_size_le hs h.current, ?_⟩
  intro id hid
  exact Program.contains_of_size_le hs (h.previous id hid)

theorem Frame.Within.advance {f : Frame} {p : Program} {next : NodeId} (h : f.Within p)
    (hn : p.contains next = true) : (f.advance next).Within p := by
  refine ⟨hn, ?_⟩
  intro id hid
  rw [← Option.some.inj hid]
  exact h.current

theorem Frame.Within.enter {p : Program} {entry : NodeId} (origin target : Coord)
    (h : p.contains entry = true) : (Frame.enter origin target entry).Within p := by
  refine ⟨h, ?_⟩
  intro id hid
  cases hid

theorem Program.Closed.push {p : Program} (h : p.Closed) {i : Instruction}
    (hi : i.Within (p.push i)) : (p.push i).Closed := by
  intro id j hj
  rw [get?_push] at hj
  split at hj
  · rw [← Option.some.inj hj]
    exact hi
  · exact (h id j hj).mono (p.size_le_push i)

theorem Program.Closed.set {p : Program} (h : p.Closed) (id : NodeId) {i : Instruction}
    (hi : i.Within p) : (p.set id i).Closed := by
  intro other j hj
  rw [get?_set] at hj
  have hs : p.size ≤ (p.set id i).size := Nat.le_of_eq (p.size_set id i).symm
  split at hj
  · rw [← Option.some.inj hj]
    exact hi.mono hs
  · exact (h other j hj).mono hs

/-- Placeholders lead nowhere. -/
theorem Program.Closed.grown {p q : Program} (h : p.Closed) (hg : q.GrownFrom p) : q.Closed := by
  intro id i hi
  cases hid : p.contains id with
  | true =>
    rw [hg.get?_eq hid] at hi
    exact (h id i hi).mono hg.size_le
  | false =>
    rw [hg.eq_nop hid hi]
    intro next hn
    cases hn

theorem Program.Closed.push_nop {p : Program} (h : p.Closed) : (p.push .nop).Closed :=
  h.grown p.grownFrom_push_nop

theorem Stack.mem_toList {s : Stack} {f : Frame} : f ∈ s.toList ↔ f ∈ s.callers ∨ f = s.top := by
  simp [toList]

/-- **No operation forges a function**: what a data operation stores is a cell it read, or no
function at all. -/
theorem DataOp.store_cell {op : DataOp} {m : Memory} {origin a b : Coord} {s : Store}
    (h : op.store m origin a b = .ok (some s)) :
    (∃ c, m.read c = some s.cell) ∨ ∀ entry, s.cell ≠ .code entry := by
  cases Stores.of_store h with
  | addressOf | shift | arithmetic => exact .inr fun _ he => nomatch he
  | read source pointee held => exact .inl ⟨_, held⟩
  | write destination pointee source => exact .inl ⟨_, source⟩
  | move source => exact .inl ⟨_, source⟩

/-! ## Closed machines -/

namespace Machine

/-- Every name that the machine holds has a node. -/
structure Closed (m : Machine) : Prop where
  nodes : m.program.Closed
  cells : ∀ c cell, m.memory.read c = some cell → cell.Within m.program
  frames : ∀ f ∈ m.stack.toList, f.Within m.program

variable {m n : Machine}

theorem Closed.top (h : m.Closed) : m.stack.top.Within m.program :=
  h.frames _ (Stack.mem_toList.2 (.inr rfl))

theorem Closed.callers (h : m.Closed) {f : Frame} (hf : f ∈ m.stack.callers) :
    f.Within m.program :=
  h.frames f (Stack.mem_toList.2 (.inl hf))

/-- A current node is all that a step needs to go on. -/
theorem Closed.current (h : m.Closed) : ∃ i, m.currentInstruction? = some i := by
  have hc := Program.contains_iff.1 h.top.current
  exact ⟨_, Array.getElem?_eq_getElem hc⟩

theorem Closed.successor (h : m.Closed) {i : Instruction} (hi : m.currentInstruction? = some i)
    {next : NodeId} (hn : next ∈ i.successors) : m.program.contains next = true :=
  h.nodes _ i hi next hn

/-- The program may change if no name goes. -/
theorem Closed.reprogram (h : m.Closed) {p : Program} (hp : p.Closed)
    (hs : m.program.size ≤ p.size) : ({ m with program := p } : Machine).Closed where
  nodes := hp
  cells c cell hc := (h.cells c cell hc).mono hs
  frames f hf := (h.frames f hf).mono hs

theorem Closed.store (h : m.Closed) {place : Coord} {cell : Cell} (hc : cell.Within m.program) :
    ({ m with memory := m.memory.write place cell } : Machine).Closed where
  nodes := h.nodes
  cells c d hd := by
    rw [Memory.read_write] at hd
    split at hd
    · rw [← Option.some.inj hd]
      exact hc
    · exact h.cells c d hd
  frames := h.frames

theorem Closed.restack (h : m.Closed) {top : Frame} {callers : List Frame} (flag : Option Bool)
    (ht : top.Within m.program) (hc : ∀ f ∈ callers, f.Within m.program) :
    ({ m with stack := ⟨top, callers⟩, flag := flag } : Machine).Closed where
  nodes := h.nodes
  cells := h.cells
  frames f hf := by
    rcases Stack.mem_toList.1 hf with hf | rfl
    · exact hc f hf
    · exact ht

/-- Defining a function adds a node and its name, both at once. -/
theorem Closed.define (h : m.Closed) (place : Coord) :
    (m.define place).2.Closed ∧ (m.define place).2.program.contains (m.define place).1 = true := by
  unfold Machine.define
  split
  · rename_i entry hc
    exact ⟨h, h.cells place _ hc entry rfl⟩
  · have hp := h.reprogram h.nodes.push_nop (m.program.size_le_push .nop)
    have hf := m.program.contains_fresh_push .nop
    refine ⟨hp.store ?_, hf⟩
    intro entry he
    rw [← Cell.code.inj he]
    exact hf

theorem define_size_le (m : Machine) (place : Coord) :
    m.program.size ≤ (m.define place).2.program.size := by
  unfold Machine.define
  split
  · exact Nat.le_refl _
  · exact m.program.size_le_push .nop

/-- **A step keeps a machine closed.** -/
theorem Closed.step (h : m.Closed) (hs : Step m n) : n.Closed := by
  cases hs with
  | @data op source destination next a b store current source_at destination_at stored =>
    have hn : m.program.contains next = true :=
      h.successor current (by simp [Instruction.successors])
    refine Closed.restack (m := { m with memory := m.memory.apply store }) ?_ none
      (h.top.advance hn) (fun f hf => h.callers hf)
    cases store with
    | none => exact h
    | some s =>
      -- A function in the stored cell is one that was read, and its entry was there already.
      refine h.store fun entry he => ?_
      rcases DataOp.store_cell stored with ⟨c, hc⟩ | hne
      · exact h.cells c _ hc entry he
      · exact absurd he (hne entry)
  | @branch test left right ifTrue ifFalse a b x y current =>
    have hn : m.program.contains (if test.holds x y then ifTrue else ifFalse) = true :=
      h.successor current (by cases test.holds x y <;> simp [Instruction.successors])
    exact h.restack _ (h.top.advance hn) (fun f hf => h.callers hf)
  | @call target origin link a b current =>
    have hn : m.program.contains link = true :=
      h.successor current (by simp [Instruction.successors])
    -- The frames are those of `m`, with the smaller program that `m` had.
    obtain ⟨hd, he⟩ := h.define a
    refine hd.restack none (.enter b a he) fun f hf => ?_
    rcases List.mem_cons.1 hf with rfl | hf
    · exact (h.top.advance hn).mono (m.define_size_le a)
    · exact (h.callers hf).mono (m.define_size_le a)
  | @jump target origin a b current =>
    obtain ⟨hd, he⟩ := h.define a
    exact hd.restack none (.enter b a he) fun f hf => (h.callers hf).mono (m.define_size_le a)
  | ret _ popped =>
    refine ⟨h.nodes, h.cells, fun f hf => h.frames f ?_⟩
    rw [Stack.toList_of_pop? popped]
    exact List.mem_append_left _ hf

theorem Closed.overwrite (h : m.Closed) {p : Program} {i : Instruction} (hp : p.Closed)
    (hs : m.program.size ≤ p.size) (hi : i.Within p) : (m.overwrite p i).Closed :=
  h.reprogram (hp.set _ hi) (Nat.le_trans hs (Nat.le_of_eq (p.size_set _ i).symm))

/-- **A recorded operation keeps a machine closed**: its ways on are its own placeholders. -/
theorem Closed.graft (h : m.Closed) (source destination : Address) (op : Operation) :
    (m.graft source destination op).Closed := by
  by_cases hop : op = .nop
  · rw [hop]
    exact h
  · obtain ⟨p, i, hgraft, grown, hsize, makes⟩ := graft_eq_overwrite hop m source destination
    rw [hgraft]
    refine h.overwrite (h.nodes.grown grown) grown.size_le fun next hn => ?_
    rw [makes.ways, Program.mem_upcoming] at hn
    exact Program.contains_iff.2 (by omega)

theorem Closed.moved (h : m.Closed) (hm : Moved m n) : n.Closed := by
  rcases hm with rfl | hs
  · exact h
  · exact h.step hs

theorem Closed.authored (h : m.Closed) (ha : Authored m n) : n.Closed := by
  rcases ha with rfl | ⟨source, destination, op, _, rfl⟩
  · exact h
  · exact h.graft source destination op

theorem Closed.steps {k : Nat} (h : m.Closed) (hs : Steps k m n) : n.Closed := by
  induction hs with
  | refl => exact h
  | next head _ ih => exact ih (h.step (execute_eq_true_iff.1 head))

theorem Closed.write (h : m.Closed) {a : Address} {cell : Cell} (hc : cell.Within m.program) :
    (m.write a cell).2.Closed := by
  unfold Machine.write
  split
  · exact h.store hc
  · exact h

theorem ofMemory_closed {memory : Memory} (h : ∀ c entry, memory.read c ≠ some (.code entry)) :
    (ofMemory memory).Closed where
  nodes := Program.Closed.push_nop fun id i hi => nomatch hi
  cells c cell hc := by
    rw [ofMemory, Memory.read_write] at hc
    intro entry he
    split at hc
    · cases hc
      cases he
      rfl
    · rw [he] at hc
      exact absurd hc (h c entry)
  frames f hf := by
    obtain rfl := List.mem_singleton.1 hf
    exact .enter _ _ rfl

end Machine

/-! ## Closed sessions -/

/-- The names that the host brings in with the act, if it is an edit of the host, have nodes. -/
def Act.Within (a : Act) (m : Machine) : Prop :=
  match a with
  | write _ cell => cell.Within m.program
  | addNode i => i.Within m.program
  | replaceNode _ i => i.Within m.program
  | _ => True

/-- **Every act keeps a machine closed**, an edit of the host if it brings in no name without a
node. -/
theorem Machine.Closed.apply {m : Machine} (h : m.Closed) {a : Act} (ha : a.Within m) :
    (a.apply m).Closed := by
  cases a with
  | execute => exact h.moved (execute_moved m)
  | run bound =>
    obtain ⟨k, hk⟩ := run_steps m bound
    exact h.steps hk
  | tick player => exact h.moved (player.tick_moved m)
  | runUntilHalt player bound =>
    obtain ⟨k, hk⟩ := player.runFrom_steps m 0 bound
    exact h.steps hk
  | splice source destination op => exact h.authored (splice_authored m source destination op)
  | record recorder op => exact h.authored (recorder.record_authored m op)
  | recordAndStep recorder op =>
    obtain ⟨k, hk, hm⟩ := recorder.recordAndStep_moved m op
    exact (h.authored hk).moved hm
  | drop recorder c =>
    obtain ⟨k, hk, hm⟩ := recorder.drop_moved m c
    exact (h.authored hk).moved hm
  | write a cell => exact h.write ha
  | addNode i =>
    have hs := m.program.size_le_push i
    exact h.reprogram (h.nodes.push (ha.mono hs)) hs
  | replaceNode id i =>
    exact h.reprogram (h.nodes.set id ha) (Nat.le_of_eq (m.program.size_set id i).symm)

/-- `n` comes about from `m` by acts that bring in no name without a node. -/
inductive Machine.Reaches (m : Machine) : Machine → Prop
  | refl : Reaches m m
  | act {n : Machine} {a : Act} (before : Reaches m n) (within : a.Within n) :
      Reaches m (a.apply n)

namespace Machine

variable {m n : Machine}

theorem Closed.reaches (h : m.Closed) (hr : Reaches m n) : n.Closed := by
  induction hr with
  | refl => exact h
  | act _ within ih => exact ih.apply within

/-- A closed machine is never at a loss for its current node. -/
theorem Closed.execute_ne_unknown (h : m.Closed) (id : NodeId) :
    m.execute.1 ≠ .error (.unknownInstruction id) := by
  intro he
  obtain ⟨i, hi⟩ := h.current
  rw [execute_fst_eq_error_iff, step_of_current hi] at he
  exact perform_ne_unknown m i id he

theorem Closed.isHalted_iff (h : m.Closed) : m.isHalted = true ↔ m.execute.1 = .ok false := by
  obtain ⟨i, hi⟩ := h.current
  rw [execute_fst_eq_false_iff, isHalted, hi]
  cases i <;> simp [Instruction.isNop]

/-- **No session loses a node.** A machine over cells without functions is closed, every act keeps
it so, and in whatever state a closed machine comes to be, its current node is there: execution is
never at a loss for it, and the machine is halted exactly when it makes no step. -/
theorem reaches_closed :
    (∀ memory : Memory, (∀ c entry, memory.read c ≠ some (.code entry)) →
      (ofMemory memory).Closed) ∧
    (∀ (m : Machine) (a : Act), m.Closed → a.Within m → (a.apply m).Closed) ∧
    (∀ m n : Machine, m.Closed → Reaches m n →
      n.Closed ∧ (∀ id, n.execute.1 ≠ .error (.unknownInstruction id)) ∧
        (n.isHalted = true ↔ n.execute.1 = .ok false)) := by
  refine ⟨?_, ?_, ?_⟩
  · intro memory h
    exact ofMemory_closed h
  · intro m a h ha
    exact h.apply ha
  · intro m n h hr
    have hn := h.reaches hr
    exact ⟨hn, hn.execute_ne_unknown, hn.isHalted_iff⟩

/-- A call is recorded and made, and then the host copies the root function to another cell. -/
theorem copied_root_closed :
    let called := Act.execute.apply
      (Act.apply (.splice (.absolute ⟨1, 0⟩) (.absolute ⟨2, 0⟩) .call) (ofMemory .empty))
    let m := Act.apply (.write (.absolute ⟨3, 0⟩) (.code ⟨0⟩)) called
    m.depth = 2 ∧ m.Closed ∧ (∀ id, m.execute.1 ≠ .error (.unknownInstruction id)) ∧
      (m.isHalted = true ↔ m.execute.1 = .ok false) := by
  obtain ⟨hstart, -, hreach⟩ := reaches_closed
  have hclosed := hstart .empty fun _ _ he => nomatch he
  refine ⟨rfl, hreach _ _ hclosed (.act (.act (.act .refl trivial) trivial) ?_)⟩
  intro entry he
  cases he
  rfl

end Machine

end GridMachine
