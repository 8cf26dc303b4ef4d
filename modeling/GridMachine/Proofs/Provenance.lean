import GridMachine.Proofs.Closure

/-! # Where control can go

A function is entered by the name of a node, and a running program handles such names: it copies the
cells that hold them, and it keeps one in each frame. It cannot make them up. A step takes each name
that it leaves in a frame or a cell from a frame or a cell, from the node it executes, or from the
program, which has just added a placeholder of that name (`Taken`). Nor can it change a node that is
there. So wherever a run comes to, control goes where it could go from the start along the ways on of
the nodes, or waits at a placeholder that is new. -/

namespace GridMachine

/-! ## Names in frames and cells -/

/-- A function that the write left in a cell was in a cell before. -/
theorem DataOp.function_of_apply {op : DataOp} {m : Memory} {origin a b c : Coord}
    {store : Option Store} {entry : NodeId} (h : op.store m origin a b = .ok store)
    (hc : (m.apply store).read c = some (.code entry)) : ∃ d, m.read d = some (.code entry) := by
  cases store with
  | none => exact ⟨c, hc⟩
  | some s =>
    rw [Memory.apply, Memory.read_write] at hc
    split at hc
    · have hcell : s.cell = .code entry := Option.some.inj hc
      rcases store_cell h with ⟨d, hd⟩ | hne
      · exact ⟨d, hd.trans (congrArg some hcell)⟩
      · exact absurd hcell (hne entry)
    · exact ⟨c, hc⟩

namespace Machine

variable {m n k : Machine} {id : NodeId}

/-- The names that execution can follow: where each frame goes on, and where each function starts. -/
inductive Holds (m : Machine) : NodeId → Prop
  | frame {f : Frame} (live : f ∈ m.stack.toList) : Holds m f.current
  | function {c : Coord} {entry : NodeId} (stored : m.memory.read c = some (.code entry)) :
      Holds m entry

/-- What a step from `m`, after which the program is `q`, can have taken a name from. -/
inductive Taken (m : Machine) (q : Program) (id : NodeId) : Prop
  | held (before : m.Holds id)
  | way {i : Instruction} (node : m.currentInstruction? = some i) (leads : id ∈ i.successors)
  | added (fresh : id = m.program.fresh) (grown : q = m.program.push .nop)

theorem Holds.caller {f : Frame} (h : f ∈ m.stack.callers) : m.Holds f.current :=
  .frame (Stack.mem_toList.2 (.inl h))

/-- Defining a function takes its entry from the cell or from the program. -/
theorem taken_define (m : Machine) (place : Coord) :
    Taken m (m.define place).2.program (m.define place).1 := by
  rcases m.define_cases place with ⟨entry, he, hd⟩ | ⟨_, hd⟩
  · rw [hd]
    exact .held (.function he)
  · rw [hd]
    exact .added rfl rfl

theorem taken_function_define {c place : Coord} {entry : NodeId}
    (h : (m.define place).2.memory.read c = some (.code entry)) :
    Taken m (m.define place).2.program entry := by
  rcases m.define_cases place with ⟨_, _, hd⟩ | ⟨_, hd⟩
  · rw [hd] at h ⊢
    exact .held (.function h)
  · rw [hd] at h ⊢
    rw [Memory.read_write] at h
    split at h
    · cases h
      exact .added rfl rfl
    · exact .held (.function h)

/-- **No step makes up a name.** -/
theorem Step.taken (h : Step m n) (hid : n.Holds id) : Taken m n.program id := by
  cases h with
  | data current source_at destination_at stored =>
    cases hid with
    | frame live =>
      rcases Stack.mem_toList.1 live with hf | rfl
      · exact .held (.caller hf)
      · exact .way current (List.mem_singleton.2 rfl)
    | function hc =>
      obtain ⟨d, hd⟩ := DataOp.function_of_apply stored hc
      exact .held (.function hd)
  | branch current =>
    cases hid with
    | frame live =>
      rcases Stack.mem_toList.1 live with hf | rfl
      · exact .held (.caller hf)
      · exact .way current (Instruction.chosen_mem_successors ..)
    | function hc => exact .held (.function hc)
  | @call target origin link a b current =>
    cases hid with
    | frame live =>
      rcases Stack.mem_toList.1 live with hf | rfl
      · -- The caller has gone on to its link, and the frames below it are as they were.
        rcases List.mem_cons.1 hf with rfl | hf
        · exact .way current (List.mem_singleton.2 rfl)
        · exact .held (.caller hf)
      · exact m.taken_define a
    | function hc => exact taken_function_define hc
  | @jump target origin a b current =>
    cases hid with
    | frame live =>
      rcases Stack.mem_toList.1 live with hf | rfl
      · exact .held (.caller hf)
      · exact m.taken_define a
    | function hc => exact taken_function_define hc
  | ret _ popped =>
    cases hid with
    | frame live =>
      refine .held (.frame ?_)
      rw [Stack.toList_of_pop? popped]
      exact List.mem_append_left _ live
    | function hc => exact .held (.function hc)

theorem Step.grownFrom (h : Step m n) : n.program.GrownFrom m.program := by
  have hdefine : ∀ place, (m.define place).2.program.GrownFrom m.program := by
    intro place
    rcases m.define_cases place with ⟨_, _, hd⟩ | ⟨_, hd⟩
    · rw [hd]
      exact .refl _
    · rw [hd]
      exact m.program.grownFrom_push_nop
  cases h with
  | data | branch | ret => exact .refl _
  | @call _ _ _ a | @jump _ _ a => exact hdefine a

/-! ## Runs -/

/-- The names that control can come to from `m`: those that it holds, and from each of these the
ways on of its node. -/
inductive Known (m : Machine) : NodeId → Prop
  | held {id : NodeId} (start : m.Holds id) : Known m id
  | way {id next : NodeId} {i : Instruction} (known : Known m id)
      (node : m.program.get? id = some i) (leads : next ∈ i.successors) : Known m next

/-- The name belongs to no node of `m`, and to a placeholder of `n`. -/
def Added (m n : Machine) (id : NodeId) : Prop :=
  m.program.contains id = false ∧ n.program.get? id = some .nop

/-- `n` can have come about from `m` by execution alone. -/
structure Traced (m n : Machine) : Prop where
  grown : n.program.GrownFrom m.program
  names : ∀ id, n.Holds id → m.Known id ∨ m.Added n id

theorem Traced.refl (m : Machine) : Traced m m := ⟨.refl _, fun _ h => .inl (.held h)⟩

theorem Added.mono (h : m.Added n id) (hk : k.program.GrownFrom n.program) : m.Added k id := by
  obtain ⟨hnew, hnop⟩ := h
  refine ⟨hnew, ?_⟩
  rw [hk.get?_eq (Program.contains_of_get? hnop)]
  exact hnop

/-- The ways on of the current node are known, for a placeholder has none. -/
theorem Traced.known_of_way (h : Traced m n) {i : Instruction}
    (hi : n.currentInstruction? = some i) {next : NodeId} (hn : next ∈ i.successors) :
    m.Known next := by
  have hnop : i ≠ .nop := by
    rintro rfl
    cases hn
  have hlive : n.Holds n.active.current := .frame (Stack.mem_toList.2 (.inr rfl))
  cases hc : m.program.contains n.active.current with
  | false => exact absurd (h.grown.eq_nop hc hi) hnop
  | true =>
    rcases h.names _ hlive with hknown | ⟨hnew, _⟩
    · exact .way hknown ((h.grown.get?_eq hc).symm.trans hi) hn
    · rw [hnew] at hc
      cases hc

theorem Traced.step (h : Traced m n) (hs : Step n k) : Traced m k := by
  refine ⟨hs.grownFrom.trans h.grown, fun id hid => ?_⟩
  cases hs.taken hid with
  | held before => exact (h.names id before).imp_right (·.mono hs.grownFrom)
  | way node leads => exact .inl (h.known_of_way node leads)
  | added fresh grown =>
    subst fresh
    refine .inr ⟨?_, ?_⟩
    · exact Program.contains_eq_false_iff.2 h.grown.size_le
    · rw [grown, Program.get?_push, if_pos rfl]

theorem Traced.after (m : Machine) (count : Nat) : Traced m (m.after count) := by
  induction count with
  | zero => exact .refl m
  | succ count ih =>
    rcases execute_moved (m.after count) with hsame | hstep
    · rw [Machine.after, hsame]
      exact ih
    · exact ih.step hstep

/-- **Execution keeps to the program.** However often a machine executes, its program only grows by
placeholders at its end and keeps every node that it had. Each frame goes on and each function starts
at a node that control could come to from the start, along the ways on of the nodes, or at one of the
new placeholders. -/
theorem execution_keeps_to_program (m : Machine) (count : Nat) :
    (∃ added, (m.after count).program.toList = m.program.toList ++ List.replicate added .nop) ∧
    (∀ id, m.program.contains id = true →
      (m.after count).program.get? id = m.program.get? id) ∧
    ∀ id, (m.after count).Holds id →
      m.Known id ∨ m.program.contains id = false ∧ (m.after count).program.get? id = some .nop := by
  have h := Traced.after m count
  exact ⟨h.grown, fun id hid => h.grown.get?_eq hid, h.names⟩

/-- A root function that copies itself to another cell, and then calls a function that is not
there. -/
def copyThenCall : Machine :=
  { initial with
    program := ⟨#[.data .move (.absolute .zero) (.absolute ⟨0, 1⟩) ⟨1⟩,
      .call (.absolute ⟨1, 0⟩) (.absolute ⟨2, 0⟩) ⟨0⟩]⟩ }

/-- The copy starts at the node that the original starts at, and the called function at a new one;
the call itself is as it was. -/
theorem copyThenCall_keeps_to_program :
    let n := copyThenCall.after 2
    n.memory.read ⟨0, 1⟩ = some (.code ⟨0⟩) ∧ n.stack.top.current = ⟨2⟩ ∧
      (∀ id, id = ⟨0⟩ ∨ id = ⟨2⟩ → copyThenCall.Known id ∨
        copyThenCall.program.contains id = false ∧ n.program.get? id = some .nop) ∧
      n.program.get? ⟨1⟩ = copyThenCall.program.get? ⟨1⟩ := by
  intro n
  have hcopy : n.memory.read ⟨0, 1⟩ = some (.code ⟨0⟩) := rfl
  have htop : n.stack.top ∈ n.stack.toList := Stack.mem_toList.2 (.inr rfl)
  obtain ⟨-, hkept, hnames⟩ := execution_keeps_to_program copyThenCall 2
  refine ⟨hcopy, rfl, ?_, hkept ⟨1⟩ rfl⟩
  rintro id (rfl | rfl)
  · exact hnames ⟨0⟩ (.function hcopy)
  · exact hnames ⟨2⟩ (.frame htop)

end Machine

end GridMachine
