import GridMachine.Proofs.Vetting
import GridMachine.Proofs.Atomicity

/-! # A demonstration is a program

To demonstrate is to record an operation at the current node and to execute it at once, over and
over. Each operation brings its own placeholders, and its step goes on at one of them, so the next
operation is written over a node that nothing has executed yet. The nodes behind it are therefore
final as soon as they are left. Run from the start, the recorded program finds at each of them the
operation that was demonstrated there, in the state in which it was demonstrated, and comes to a
placeholder where the demonstration ended. -/

namespace GridMachine

/-- Whether an instruction for the operation goes on in its own frame, at a node that it names. -/
def Operation.staysInFrame (op : Operation) : Bool := op.dataOp?.isSome || op.comparison?.isSome

/-- One operation to demonstrate, and the operands to demonstrate it on. -/
structure Gesture where
  source : Address
  destination : Address
  op : Operation
deriving DecidableEq

namespace Machine

variable {m n : Machine} {i : Instruction}

/-- `last` comes about from `m` by recording and executing each of the gestures in turn. -/
inductive Demonstrates : List Gesture → Machine → Machine → Prop
  | done (m : Machine) : Demonstrates [] m m
  | next {g : Gesture} {rest : List Gesture} {m recorded n last : Machine} {id : NodeId}
      (spliced : m.splice g.source g.destination g.op = (.ok id, recorded))
      (executed : recorded.execute = (.ok true, n)) (later : Demonstrates rest n last) :
      Demonstrates (g :: rest) m last

/-! ## A step within a frame -/

theorem Step.within_frame (h : Step m n) (hi : m.currentInstruction? = some i)
    (hop : i.operation.staysInFrame = true) :
    n.program = m.program ∧ n.active.current ∈ i.successors := by
  cases h with
  | data current =>
    cases hi.symm.trans current
    exact ⟨rfl, List.mem_singleton.2 rfl⟩
  | branch current =>
    cases hi.symm.trans current
    exact ⟨rfl, Instruction.chosen_mem_successors ..⟩
  | call current | jump current | ret current =>
    cases hi.symm.trans current
    cases hop

/-- All that such a step takes from the program is its own node. -/
theorem Step.reprogram (h : Step m n) (hi : m.currentInstruction? = some i)
    (hop : i.operation.staysInFrame = true) {p : Program}
    (hp : p.get? m.active.current = some i) :
    Step { m with program := p } { n with program := p } := by
  cases h with
  | data current source_at destination_at stored =>
    cases hi.symm.trans current
    exact Step.data (m := { m with program := p }) hp source_at destination_at stored
  | branch current left_at left_is right_at right_is =>
    cases hi.symm.trans current
    exact Step.branch (m := { m with program := p }) hp left_at left_is right_at right_is
  | call current | jump current | ret current =>
    cases hi.symm.trans current
    cases hop

/-! ## What a gesture leaves behind -/

variable {g : Gesture} {demo : List Gesture} {last : Machine}

/-- The gesture `g`, recorded at `m` as the node `i` and executed, comes to `n`. -/
structure Shown (g : Gesture) (m n : Machine) (i : Instruction) : Prop where
  program_eq : n.program = (m.graft g.source g.destination g.op).program
  node : n.program.get? m.active.current = some i
  /-- A program with this node does the same. -/
  replays : ∀ p : Program, p.get? m.active.current = some i →
    Step { m with program := p } { n with program := p }
  /-- It goes on where there was nothing before. -/
  new : m.program.contains n.active.current = false
  placeholder : n.currentInstruction? = some .nop

theorem Shown.of_gesture (hc : m.program.contains m.active.current = true)
    (hop : g.op.staysInFrame = true) {recorded : Machine} {id : NodeId}
    (spliced : m.splice g.source g.destination g.op = (.ok id, recorded))
    (executed : recorded.execute = (.ok true, n)) : ∃ i, Shown g m n i := by
  obtain ⟨-, -, rfl⟩ := splice_eq_ok_iff.1 spliced
  have hstep := execute_eq_true_iff.1 executed
  have hnop : g.op ≠ .nop := by
    intro hnop
    rw [hnop] at hop
    cases hop
  obtain ⟨i, hi, hiop, hways⟩ := graft_node hc hnop g.source g.destination
  have hstays : i.operation.staysInFrame = true := by rw [hiop]; exact hop
  -- Recording changes the program and nothing else, so the frame is that of `m`.
  rw [graft_eq_reprogram] at hi hstep
  obtain ⟨hprogram, hnext⟩ := hstep.within_frame hi hstays
  obtain ⟨hnew, hplace⟩ := hways _ hnext
  refine ⟨i, hprogram, ?_, fun p hp => hstep.reprogram hi hstays hp, hnew, ?_⟩
  · rw [hprogram]
    exact hi
  · rw [currentInstruction?, hprogram]
    exact hplace

/-- The node that was left and all other nodes are safe from what is shown later. -/
theorem Shown.left_behind (h : Shown g m n i) {id : NodeId} (hid : m.program.contains id = true) :
    n.program.contains id = true ∧ id ≠ n.active.current := by
  constructor
  · rw [h.program_eq]
    exact Program.contains_of_size_le (size_le_graft m _ _ _) hid
  · rintro rfl
    rw [h.new] at hid
    cases hid

theorem Shown.get?_eq (h : Shown g m n i) {id : NodeId} (hid : m.program.contains id = true)
    (hne : id ≠ m.active.current) : n.program.get? id = m.program.get? id := by
  rw [h.program_eq]
  exact get?_graft hid hne

theorem Shown.contains_current (h : Shown g m n i) :
    n.program.contains n.active.current = true :=
  Program.contains_of_get? h.placeholder

/-! ## What a demonstration leaves behind -/

/-- **A demonstration rewrites no node but the one it starts at.** -/
theorem Demonstrates.get?_eq (h : Demonstrates demo m last)
    (hops : ∀ g ∈ demo, g.op.staysInFrame = true)
    (hc : m.program.contains m.active.current = true) {id : NodeId}
    (hid : m.program.contains id = true) (hne : id ≠ m.active.current) :
    last.program.get? id = m.program.get? id := by
  induction h with
  | done => rfl
  | @next g rest m recorded n last slot spliced executed _ ih =>
    obtain ⟨hg, hrest⟩ := List.forall_mem_cons.1 hops
    obtain ⟨i, hshown⟩ := Shown.of_gesture hc hg spliced executed
    obtain ⟨hid', hne'⟩ := hshown.left_behind hid
    rw [ih hrest hshown.contains_current hid' hne']
    exact hshown.get?_eq hid hne

/-- The recorded program makes the steps of the demonstration. -/
theorem Demonstrates.steps (h : Demonstrates demo m last)
    (hops : ∀ g ∈ demo, g.op.staysInFrame = true)
    (hc : m.program.contains m.active.current = true) :
    Steps demo.length { m with program := last.program } last := by
  induction h with
  | done m => exact .refl m
  | @next g rest m recorded n last slot spliced executed later ih =>
    obtain ⟨hg, hrest⟩ := List.forall_mem_cons.1 hops
    obtain ⟨i, hshown⟩ := Shown.of_gesture hc hg spliced executed
    -- The node of this gesture is left, so it is in the last program as it was shown.
    obtain ⟨hid, hne⟩ := hshown.left_behind hc
    have hnode : last.program.get? m.active.current = some i :=
      (later.get?_eq hrest hshown.contains_current hid hne).trans hshown.node
    have hstep := hshown.replays last.program hnode
    exact .next (execute_eq_true_iff.2 hstep) (ih hrest hshown.contains_current)

/-- A demonstration ends at a placeholder. -/
theorem Demonstrates.placeholder (h : Demonstrates demo m last) (hne : demo ≠ [])
    (hops : ∀ g ∈ demo, g.op.staysInFrame = true)
    (hc : m.program.contains m.active.current = true) :
    last.currentInstruction? = some .nop := by
  induction h with
  | done => exact absurd rfl hne
  | @next g rest m recorded n last slot spliced executed later ih =>
    obtain ⟨hg, hrest⟩ := List.forall_mem_cons.1 hops
    obtain ⟨i, hshown⟩ := Shown.of_gesture hc hg spliced executed
    cases rest with
    | nil =>
      cases later
      exact hshown.placeholder
    | cons g' rest => exact ih (List.cons_ne_nil g' rest) hrest hshown.contains_current

/-- **A replay reproduces the demonstration.** Operations on data and comparisons are demonstrated
from a node of the program; then the start with the program that was recorded runs through as many
steps as there were gestures, under any bound that admits them, and ends in the state in which the
demonstration ended. -/
theorem run_reproduces (h : Demonstrates demo m last) (hne : demo ≠ [])
    (hops : ∀ g ∈ demo, g.op.staysInFrame = true)
    (hc : m.program.contains m.active.current = true) {bound : Nat} (hb : demo.length ≤ bound) :
    ({ m with program := last.program } : Machine).run bound = (.ok demo.length, last) := by
  obtain ⟨more, rfl⟩ := Nat.exists_eq_add_of_le hb
  rw [run, (h.steps hops hc).runFrom_eq, Nat.zero_add]
  exact runFrom_of_nop (h.placeholder hne hops hc) _ _

/-- A grid with the numbers one and two beside the root function. -/
def twoNumbers : Machine := ofMemory (.ofList [(⟨0, 1⟩, .data 1), (⟨0, 2⟩, .data 2)])

/-- Compare the two numbers, and where the comparison leads, copy the first one. -/
def compareThenCopy : List Gesture :=
  [⟨.relative ⟨0, 1⟩, .relative ⟨0, 2⟩, .branch .lessThan⟩,
   ⟨.relative ⟨0, 1⟩, .relative ⟨0, 3⟩, .data .move⟩]

/-- The way of the comparison that was not taken stays a placeholder, and the other is replayed. -/
theorem compareThenCopy_reproduced :
    ∃ last, Demonstrates compareThenCopy twoNumbers last ∧
      last.program.get? ⟨2⟩ = some .nop ∧ last.memory.read ⟨0, 3⟩ = some (.data 1) ∧
      ({ twoNumbers with program := last.program } : Machine).run 5 = (.ok 2, last) := by
  have hshown : ∃ last, Demonstrates compareThenCopy twoNumbers last ∧
      last.program.get? ⟨2⟩ = some .nop ∧ last.memory.read ⟨0, 3⟩ = some (.data 1) :=
    ⟨_, .next rfl rfl (.next rfl rfl (.done _)), rfl, rfl⟩
  obtain ⟨last, h, hother, hcopy⟩ := hshown
  exact ⟨last, h, hother, hcopy, run_reproduces h (by decide) (by decide) rfl (by decide)⟩

end Machine

end GridMachine
