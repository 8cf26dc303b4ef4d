import GridMachine.Proofs.Acts
import GridMachine.Proofs.Effect
import GridMachine.Proofs.Vetting

/-! # Calls and jumps

A call and a jump reach their function in the same way: they resolve the target, then the origin,
and define the function if the target holds none. All that tells them apart is the frame of the
caller, which a call keeps below the new frame and a jump gives up. A function is defined once:
after a transfer to it, its cell holds it, and every later transfer to that cell, a call or a jump,
enters at the same node as long as nothing was written there in between. -/

namespace GridMachine

/-- Adding a node and overwriting another one can be done in either order. -/
theorem Program.push_set {p : Program} {id : NodeId} (h : p.contains id = true)
    (i j : Instruction) : (p.set id i).push j = (p.push j).set id i := by
  have hlt : id.index < p.nodes.size := contains_iff.1 h
  have hlt' : id.index < (p.nodes.push j).size := by
    rw [Array.size_push]
    omega
  simp only [push, set, Array.setIfInBounds_def, dif_pos hlt', Array.set_push, hlt]
  rfl

namespace Machine

variable {m n k l : Machine} {target origin : Address} {link entry : NodeId} {place : Coord}

/-! ## Entering a function -/

/-- Whether it was there already or not, the function is in its cell now. -/
theorem Enters.defined (h : m.Enters n place entry) :
    n.memory.read place = some (.code entry) := by
  cases h with
  | known held memory => rw [memory place, held]
  | new other fresh memory =>
    rw [memory place]
    exact if_pos rfl

/-- A function that is there is entered as it is. -/
theorem Enters.of_code (h : m.Enters n place entry) {id : NodeId}
    (held : m.memory.read place = some (.code id)) :
    n.memory = m.memory ∧ n.program = m.program ∧ entry = id := by
  cases h with
  | known held' memory program =>
    rw [held] at held'
    cases held'
    exact ⟨Memory.ext_read memory, program, rfl⟩
  | new other => exact absurd held (other id)

theorem Enters.size_le (h : m.Enters n place entry) : n.program.size ≤ m.program.size + 1 := by
  cases h with
  | known held memory program =>
    rw [program]
    exact Nat.le_succ _
  | new other fresh memory program =>
    rw [program]
    exact Nat.le_of_eq (Program.size_push ..)

/-! ## Side by side -/

/-- The trap is that of the target, or that of the origin if the target names a cell. -/
def Misdirected (m : Machine) (target origin : Address) (trap : Trap) : Prop :=
  m.resolve target = .error trap ∨
    (∃ a, m.resolve target = .ok a) ∧ m.resolve origin = .error trap

/-- `jumped` and `called` are what a jump and a call at the current node of `m` come to, with the
function at `a` and the origin `b`. -/
structure SideBySide (m jumped called : Machine) (a b : Coord) (entry : NodeId) : Prop where
  memory : jumped.memory = called.memory
  flag : jumped.flag = called.flag
  size : jumped.program.size = called.program.size
  /-- The node itself is a jump in the one program and a call in the other. -/
  nodes : ∀ id, id ≠ m.active.current → jumped.program.get? id = called.program.get? id
  function : jumped.memory.read a = some (.code entry)
  jumped_top : jumped.active = ⟨b, a, entry, none⟩
  called_top : called.active = ⟨b, a, entry, none⟩
  callers : ∃ caller, called.stack.callers = caller :: jumped.stack.callers

theorem enter_of_misdirected {trap : Trap} (h : m.Misdirected target origin trap) :
    m.enter target origin = .error trap := by
  rcases h with h | ⟨⟨a, ha⟩, h⟩
  · exact bind_eq_error_iff.2 (.inl h)
  · exact bind_eq_error_iff.2 (.inr ⟨a, ha, bind_eq_error_iff.2 (.inl h)⟩)

/-- Neither the jump nor the call is made then. -/
theorem traps_of_misdirected (hc : m.program.contains m.active.current = true) {trap : Trap}
    (h : m.Misdirected target origin trap) :
    (m.replaceNode m.active.current (.jump target origin)).2.execute.1 = .error trap ∧
      (m.replaceNode m.active.current (.call target origin link)).2.execute.1 = .error trap ∧
      m.Misdirected target origin trap := by
  rw [execute_fst_eq_error_iff, execute_fst_eq_error_iff, step_replaceNode hc, step_replaceNode hc]
  refine ⟨?_, ?_, h⟩
  · have henter := enter_of_misdirected (m := m.overwrite m.program (.jump target origin)) h
    exact map_eq_error_iff.2 (bind_eq_error_iff.2 (.inl henter))
  · have henter := enter_of_misdirected (m := m.overwrite m.program (.call target origin link)) h
    exact map_eq_error_iff.2 (bind_eq_error_iff.2 (.inl henter))

/-- A function is defined in the same way whatever the current node is. -/
theorem define_overwrite (hc : m.program.contains m.active.current = true) (place : Coord)
    (i : Instruction) :
    (m.overwrite m.program i).define place =
      ((m.define place).1, (m.define place).2.overwrite (m.define place).2.program i) := by
  have hread : (m.overwrite m.program i).memory.read place = m.memory.read place := rfl
  rcases m.define_cases place with ⟨entry, held, hd⟩ | ⟨other, hd⟩
  · rw [hd, define, hread, held]
  · have hfresh : (m.program.set m.active.current i).fresh = m.program.fresh := by
      rw [Program.fresh, Program.fresh, Program.size_set]
    rw [hd]
    unfold define
    split
    · exact absurd ‹_› (other _)
    · simp only [overwrite, hfresh, Program.push_set hc]
      rfl

/-- The jump and the call are both made if their operands name cells. -/
theorem sideBySide_of_resolve (link : NodeId)
    (hc : m.program.contains m.active.current = true) {a b : Coord}
    (ha : m.resolve target = .ok a) (hb : m.resolve origin = .ok b) :
    ∃ jumped called,
      (m.replaceNode m.active.current (.jump target origin)).2.execute = (.ok true, jumped) ∧
      (m.replaceNode m.active.current (.call target origin link)).2.execute = (.ok true, called) ∧
      m.SideBySide jumped called a b (m.define a).1 := by
  have hjump := Step.jump (current_overwrite hc (.jump target origin)) ha hb
  have hcall := Step.call (current_overwrite hc (.call target origin link)) ha hb
  rw [define_overwrite hc] at hjump hcall
  have hcurrent : (m.define a).2.active.current = m.active.current := by
    rw [active, define_stack, active]
  refine ⟨_, _, execute_eq_true_iff.2 hjump, execute_eq_true_iff.2 hcall, ?_⟩
  refine ⟨rfl, rfl, ?_, ?_, (m.enters_define a m.stack m.flag).defined, rfl, rfl, _, rfl⟩
  · exact (Program.size_set ..).trans (Program.size_set ..).symm
  · intro id hne
    rw [← hcurrent] at hne
    exact (Program.get?_set_of_ne hne _).trans (Program.get?_set_of_ne hne _).symm

/-! ## One after the other -/

/-- The step from `m` to `n` is a call or a jump to the function at `place`. -/
structure Transfers (m n : Machine) (place : Coord) : Prop where
  made : m.execute = (.ok true, n)
  node : ∃ i target, m.currentInstruction? = some i ∧
    (i.operation = .call ∨ i.operation = .jump) ∧ i.source? = some target ∧
    m.resolve target = .ok place

theorem Transfers.enters (h : m.Transfers n place) : m.Enters n place n.active.current := by
  obtain ⟨i, target, hi, hop, htarget, hplace⟩ := h.node
  obtain ⟨j, hj, heffect⟩ := (execute_eq_true_iff.1 h.made).effect
  obtain rfl := Option.some.inj (hi.symm.trans hj)
  cases heffect with
  | data | branch | ret => rcases hop with hop | hop <;> cases hop
  | call target_at origin_at enters flag top | jump target_at origin_at enters flag top =>
    cases htarget
    cases hplace.symm.trans target_at
    rw [active, top]
    exact enters

/-- `n` comes about from `m` by acts each of which leaves the cell at `c` as it was. -/
inductive Spares (c : Coord) (m : Machine) : Machine → Prop
  | refl : Spares c m m
  | act {n : Machine} {a : Act} (before : Spares c m n)
      (kept : (a.apply n).memory.read c = n.memory.read c) : Spares c m (a.apply n)

theorem Spares.read_eq {c : Coord} (h : Spares c m n) : n.memory.read c = m.memory.read c := by
  induction h with
  | refl => rfl
  | act before kept ih => exact kept.trans ih

/-- The second transfer finds the function that the first one left. -/
theorem Transfers.again (first : m.Transfers n place) (spared : Spares place n k)
    (second : k.Transfers l place) :
    l.memory = k.memory ∧ l.program = k.program ∧ l.active.current = n.active.current :=
  second.enters.of_code (spared.read_eq.trans first.enters.defined)

/-- **A jump is a call without the push, and a function is defined once.** At one node, a jump and a
call both trap, over the target or else over the origin, or both are made and come to the same but
for the caller's frame. A function that is there is entered as it is. So two transfers to one cell,
with whatever is done in between that leaves the cell alone, enter at the same node, and add one
node to the program at most. -/
theorem transfers_side_by_side :
    (∀ (m : Machine) (target origin : Address) (link : NodeId),
      m.program.contains m.active.current = true →
      let jumped := (m.replaceNode m.active.current (.jump target origin)).2.execute
      let called := (m.replaceNode m.active.current (.call target origin link)).2.execute
      (∃ trap, jumped.1 = .error trap ∧ called.1 = .error trap ∧
        m.Misdirected target origin trap) ∨
      ∃ a b entry, m.resolve target = .ok a ∧ m.resolve origin = .ok b ∧
        jumped.1 = .ok true ∧ called.1 = .ok true ∧
        m.SideBySide jumped.2 called.2 a b entry) ∧
    (∀ (m n : Machine) (place : Coord) (entry : NodeId), m.Transfers n place →
      m.memory.read place = some (.code entry) →
      n.memory = m.memory ∧ n.program = m.program ∧ n.active.current = entry) ∧
    ∀ (m n k l : Machine) (place : Coord), m.Transfers n place → Spares place n k →
      k.Transfers l place → l.active.current = n.active.current ∧
        n.program.size + l.program.size ≤ m.program.size + k.program.size + 1 := by
  refine ⟨?_, ?_, ?_⟩
  · intro m target origin link hc jumped called
    cases ha : m.resolve target with
    | error trap => exact .inl ⟨trap, traps_of_misdirected hc (.inl ha)⟩
    | ok a =>
      cases hb : m.resolve origin with
      | error trap => exact .inl ⟨trap, traps_of_misdirected hc (.inr ⟨⟨a, ha⟩, hb⟩)⟩
      | ok b =>
        obtain ⟨j, c, hj, hcall, hside⟩ := sideBySide_of_resolve link hc ha hb
        have hj : jumped = (.ok true, j) := hj
        have hcall : called = (.ok true, c) := hcall
        rw [hj, hcall]
        exact .inr ⟨a, b, _, rfl, rfl, rfl, rfl, hside⟩
  · intro m n place entry h held
    exact h.enters.of_code held
  · intro m n k l place first spared second
    obtain ⟨-, hprogram, hentry⟩ := first.again spared second
    have hsize := first.enters.size_le
    refine ⟨hentry, ?_⟩
    rw [hprogram]
    omega

/-- A call that its caller comes back to. -/
def callAgain : Instruction := .call (.absolute ⟨0, 1⟩) (.relative ⟨2, 0⟩) ⟨0⟩

/-- A root function that calls a function that is not there yet, over and over. -/
def callsForever : Machine := { initial with program := ⟨#[callAgain]⟩ }

/-- A jump would come to the same. The first call defines the function; the host makes it return at
once; and the second call enters at the node that the first one entered at. -/
theorem callsForever_defines_once :
    let n := callsForever.execute.2
    let k := Act.execute.apply (Act.apply (.replaceNode ⟨1⟩ .ret) n)
    let l := k.execute.2
    let jumped := (callsForever.replaceNode ⟨0⟩ (.jump (.absolute ⟨0, 1⟩) (.relative ⟨2, 0⟩))).2
    (∃ a b entry, callsForever.SideBySide jumped.execute.2 n a b entry) ∧
      n.depth = 2 ∧ k.depth = 1 ∧ l.depth = 2 ∧ l.active.current = n.active.current ∧
      n.program.size + l.program.size ≤ callsForever.program.size + k.program.size + 1 := by
  intro n k l jumped
  obtain ⟨hside, -, hagain⟩ := transfers_side_by_side
  have hfirst : callsForever.Transfers n ⟨0, 1⟩ :=
    ⟨Prod.ext rfl rfl, callAgain, .absolute ⟨0, 1⟩, rfl, .inl rfl, rfl, rfl⟩
  have hsecond : k.Transfers l ⟨0, 1⟩ :=
    ⟨Prod.ext rfl rfl, callAgain, .absolute ⟨0, 1⟩, rfl, .inl rfl, rfl, rfl⟩
  have hspared : Spares ⟨0, 1⟩ n k := .act (.act .refl rfl) rfl
  refine ⟨?_, rfl, rfl, rfl, hagain _ _ _ _ _ hfirst hspared hsecond⟩
  rcases hside callsForever (.absolute ⟨0, 1⟩) (.relative ⟨2, 0⟩) ⟨0⟩ rfl with
    ⟨trap, htrap, -⟩ | ⟨a, b, entry, -, -, -, -, h⟩
  · cases htrap
  · exact ⟨a, b, entry, h⟩

end Machine

end GridMachine
