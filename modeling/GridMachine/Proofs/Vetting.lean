import GridMachine.Proofs.Graft
import GridMachine.Proofs.Traps

/-! # What is recorded can be executed

An operation is vetted when it is recorded, and its instruction checks its operands again whenever it
is executed, in another order. Both come to one condition, `Suits`: the operands name cells, and the
cells are of the kind that is needed. So an operation is rejected exactly where its instruction would
trap for a reason of that sort, and what is left to fear of a recorded instruction are the hazards of
its operation. -/

namespace GridMachine

/-! ## Vetting -/

namespace Operand

variable {m : Memory} {c : Coord}

theorem expectOccupied_eq_ok_iff :
    expectOccupied ⟨c, m.read c⟩ = .ok () ↔ ∃ cell, m.read c = some cell := by
  unfold expectOccupied
  rcases m.read c with _ | _ <;> simp

theorem expectData_eq_ok_iff :
    expectData ⟨c, m.read c⟩ = .ok () ↔ ∃ x, m.read c = some (.data x) := by
  unfold expectData
  rcases m.read c with _ | (_ | _ | _) <;> simp

theorem expectAddress_eq_ok_iff :
    expectAddress ⟨c, m.read c⟩ = .ok () ↔ ∃ p, m.read c = some (.pointer p) := by
  unfold expectAddress
  rcases m.read c with _ | (_ | _ | _) <;> simp

theorem expectCodeOrEmpty_eq_ok_iff :
    expectCodeOrEmpty ⟨c, m.read c⟩ = .ok () ↔
      m.read c = none ∨ ∃ entry, m.read c = some (.code entry) := by
  unfold expectCodeOrEmpty
  rcases m.read c with _ | (_ | _ | _) <;> simp

end Operand

theorem both_eq_ok_iff {ε : Type} {x y : Except ε Unit} :
    (do x; y) = .ok () ↔ x = .ok () ∧ y = .ok () := by
  cases x <;> simp

theorem DataOp.vet_eq_ok_iff {op : DataOp} {m : Memory} {a b : Coord} :
    op.vet ⟨a, m.read a⟩ ⟨b, m.read b⟩ = .ok () ↔ op.Fits m a b := by
  cases op <;>
    simp [vet, Fits, both_eq_ok_iff, Operand.expectOccupied_eq_ok_iff,
      Operand.expectData_eq_ok_iff, Operand.expectAddress_eq_ok_iff]

namespace Machine

variable {m : Machine} {source destination : Address}

/-- Whether the operands are such that the operation can be performed on them. -/
def Suits (m : Machine) (source destination : Address) : Operation → Prop
  | .nop => True
  | .data op => ∃ a b, m.resolve source = .ok a ∧ m.resolve destination = .ok b ∧
      op.Fits m.memory a b
  | .branch _ => ∃ a b, m.resolve source = .ok a ∧ m.resolve destination = .ok b ∧
      (∃ x, m.memory.read a = some (.data x)) ∧ ∃ y, m.memory.read b = some (.data y)
  | .call | .jump => ∃ a b, m.resolve source = .ok a ∧ m.resolve destination = .ok b ∧
      (m.memory.read a = none ∨ ∃ entry, m.memory.read a = some (.code entry))
  | .ret => 2 ≤ m.depth

theorem operand_eq_ok_iff {a : Address} {x : Operand} :
    m.operand a = .ok x ↔ ∃ c, m.resolve a = .ok c ∧ x = ⟨c, m.memory.read c⟩ := by
  unfold operand
  cases m.resolve a <;> simp [eq_comm]

/-- **Vetting decides whether the operands suit the operation.** -/
theorem vet_eq_ok_iff {op : Operation} :
    m.vet source destination op = .ok () ↔ m.Suits source destination op := by
  cases op with
  | nop => simp [vet, Suits]
  | data op =>
    simp only [vet, Suits, bind_eq_ok_iff, operand_eq_ok_iff]
    constructor
    · rintro ⟨_, ⟨a, ha, rfl⟩, _, ⟨b, hb, rfl⟩, h⟩
      exact ⟨a, b, ha, hb, DataOp.vet_eq_ok_iff.1 h⟩
    · rintro ⟨a, b, ha, hb, h⟩
      exact ⟨_, ⟨a, ha, rfl⟩, _, ⟨b, hb, rfl⟩, DataOp.vet_eq_ok_iff.2 h⟩
  | branch test =>
    simp only [vet, Suits, bind_eq_ok_iff, operand_eq_ok_iff]
    constructor
    · rintro ⟨_, ⟨a, ha, rfl⟩, _, hx, _, ⟨b, hb, rfl⟩, hy⟩
      exact ⟨a, b, ha, hb, Operand.expectData_eq_ok_iff.1 hx, Operand.expectData_eq_ok_iff.1 hy⟩
    · rintro ⟨a, b, ha, hb, hx, hy⟩
      exact ⟨_, ⟨a, ha, rfl⟩, (), Operand.expectData_eq_ok_iff.2 hx, _, ⟨b, hb, rfl⟩,
        Operand.expectData_eq_ok_iff.2 hy⟩
  | call | jump =>
    simp only [vet, Suits, bind_eq_ok_iff, operand_eq_ok_iff]
    constructor
    · rintro ⟨_, ⟨a, ha, rfl⟩, _, hc, _, ⟨b, hb, rfl⟩, _⟩
      exact ⟨a, b, ha, hb, Operand.expectCodeOrEmpty_eq_ok_iff.1 hc⟩
    · rintro ⟨a, b, ha, hb, hc⟩
      exact ⟨_, ⟨a, ha, rfl⟩, (), Operand.expectCodeOrEmpty_eq_ok_iff.2 hc, _, ⟨b, hb, rfl⟩, rfl⟩
  | ret =>
    simp only [vet, Suits]
    split <;> simp <;> omega

end Machine

/-! ## Execution -/

theorem DataOp.Hazard.not_misfit {op : DataOp} {trap : Trap} (h : op.Hazard trap) :
    trap.isMisfit = false := by
  cases h <;> rfl

/-- Cells of the wrong kind are found out, in whatever order they are looked at. -/
theorem DataOp.store_of_not_fits {op : DataOp} {m : Memory} {a b : Coord} (h : ¬op.Fits m a b)
    (origin : Coord) : ∃ trap, op.store m origin a b = .error trap ∧ trap.isMisfit = true := by
  cases hs : op.store m origin a b with
  | ok store => exact absurd (Stores.of_store hs).fits h
  | error trap =>
    rcases (Refuses.of_store hs).misfit_or_hazard with ⟨ht, _⟩ | ⟨_, hf⟩
    · exact ⟨trap, rfl, ht⟩
    · exact absurd hf h

/-- The node performs the operation on these operands, and goes on wherever. -/
inductive Instruction.Performs (source destination : Address) : Operation → Instruction → Prop
  | data (op : DataOp) (next : NodeId) :
      Performs source destination (.data op) (.data op source destination next)
  | branch (test : Comparison) (ifTrue ifFalse : NodeId) :
      Performs source destination (.branch test) (.branch test source destination ifTrue ifFalse)
  | ret : Performs source destination .ret .ret

namespace Machine

variable {m : Machine} {source destination : Address} {op : Operation} {i : Instruction}

/-- On operands that suit it, a node makes its step or runs into a hazard of its operation. -/
theorem perform_of_suits (hi : i.Performs source destination op)
    (h : m.Suits source destination op) :
    (∃ n, m.perform i = .ok (some n)) ∨
      ∃ trap dop, m.perform i = .error trap ∧ op = .data dop ∧ dop.Hazard trap := by
  cases hi with
  | data op next =>
    obtain ⟨a, b, ha, hb, hf⟩ := h
    cases hs : op.store m.memory m.active.origin a b with
    | ok store => exact .inl (by simp [perform, stepData, ha, hb, hs])
    | error trap =>
      rcases (DataOp.Refuses.of_store hs).misfit_or_hazard with ⟨_, hn⟩ | ⟨hz, _⟩
      · exact absurd hf hn
      · exact .inr ⟨trap, op, by simp [perform, stepData, ha, hb, hs], rfl, hz⟩
  | branch test ifTrue ifFalse =>
    obtain ⟨a, b, ha, hb, ⟨x, hx⟩, y, hy⟩ := h
    have hx := Memory.dataAt_eq_ok_iff.2 hx
    have hy := Memory.dataAt_eq_ok_iff.2 hy
    exact .inl (by simp [perform, stepBranch, ha, hb, hx, hy])
  | ret =>
    cases hp : m.stack.pop? with
    | none => exact absurd (Stack.pop?_eq_none_iff.1 hp) (Nat.not_lt.2 h)
    | some stack => exact .inl (by simp [perform, stepReturn, hp])

theorem not_unresolved_of_suits (hi : i.Performs source destination op)
    (h : m.Suits source destination op) (trap : Trap) : ¬m.Unresolved i trap := by
  rintro ⟨x, hx, ht⟩
  cases hi with
  | data | branch =>
    obtain ⟨a, b, ha, hb, _⟩ := h
    rcases hx with ⟨⟨⟩⟩ | ⟨⟨⟩⟩
    · rw [ha] at ht
      cases ht
    · rw [hb] at ht
      cases ht
  | ret => rcases hx with ⟨⟨⟩⟩ | ⟨⟨⟩⟩

/-- On operands that do not suit it, a node traps for that reason. -/
theorem perform_of_not_suits (hi : i.Performs source destination op)
    (h : ¬m.Suits source destination op) :
    ∃ trap, m.perform i = .error trap ∧ (m.Unresolved i trap ∨ trap.isMisfit = true) := by
  cases hi with
  | data op next =>
    cases ha : m.resolve source with
    | error trap =>
      exact ⟨trap, by simp [perform, stepData, ha], .inl ⟨source, .inl rfl, ha⟩⟩
    | ok a =>
      cases hb : m.resolve destination with
      | error trap =>
        exact ⟨trap, by simp [perform, stepData, ha, hb], .inl ⟨destination, .inr rfl, hb⟩⟩
      | ok b =>
        have hf : ¬op.Fits m.memory a b := fun hf => h ⟨a, b, ha, hb, hf⟩
        obtain ⟨trap, hs, ht⟩ := DataOp.store_of_not_fits hf m.active.origin
        exact ⟨trap, by simp [perform, stepData, ha, hb, hs], .inr ht⟩
  | branch test ifTrue ifFalse =>
    cases ha : m.resolve source with
    | error trap =>
      exact ⟨trap, by simp [perform, stepBranch, ha], .inl ⟨source, .inl rfl, ha⟩⟩
    | ok a =>
      cases hx : m.memory.dataAt a with
      | error trap =>
        exact ⟨trap, by simp [perform, stepBranch, ha, hx], .inr (Memory.dataAt_eq_error hx).isMisfit⟩
      | ok x =>
        cases hb : m.resolve destination with
        | error trap =>
          exact ⟨trap, by simp [perform, stepBranch, ha, hx, hb],
            .inl ⟨destination, .inr rfl, hb⟩⟩
        | ok b =>
          cases hy : m.memory.dataAt b with
          | error trap =>
            exact ⟨trap, by simp [perform, stepBranch, ha, hx, hb, hy],
              .inr (Memory.dataAt_eq_error hy).isMisfit⟩
          | ok y =>
            exact absurd ⟨a, b, ha, hb, ⟨x, Memory.dataAt_eq_ok_iff.1 hx⟩, y,
              Memory.dataAt_eq_ok_iff.1 hy⟩ h
  | ret =>
    have hp := Stack.pop?_eq_none_iff.2 (Nat.not_le.1 h)
    exact ⟨.returnFromRoot, by simp [perform, stepReturn, hp], .inr rfl⟩

/-- **A node traps over its operands exactly if they do not suit its operation.** -/
theorem perform_misfit_iff (hi : i.Performs source destination op) :
    (∃ trap, m.perform i = .error trap ∧ (m.Unresolved i trap ∨ trap.isMisfit = true)) ↔
      ¬m.Suits source destination op := by
  constructor
  · rintro ⟨trap, ht, hr⟩ h
    rcases perform_of_suits hi h with ⟨n, hn⟩ | ⟨_, dop, hn, _, hz⟩
    · rw [hn] at ht
      cases ht
    · rw [hn] at ht
      cases ht
      rcases hr with hr | hr
      · exact not_unresolved_of_suits hi h _ hr
      · rw [hz.not_misfit] at hr
        cases hr
  · exact perform_of_not_suits hi

/-! ## Recording, then executing -/

theorem current_overwrite {p : Program} (h : p.contains m.active.current = true)
    (i : Instruction) : (m.overwrite p i).currentInstruction? = some i :=
  Program.get?_set_self h i

/-- A node put in place of the current one is the node that is performed. -/
theorem step_replaceNode (h : m.program.contains m.active.current = true) (i : Instruction) :
    (m.replaceNode m.active.current i).2.step = (m.overwrite m.program i).perform i :=
  step_of_current (current_overwrite h i)

/-- The new node is the one to execute next, and it performs the operation. -/
theorem graft_current (hc : m.program.contains m.active.current = true)
    (hi : i.Performs source destination op) :
    ∃ j, j.Performs source destination op ∧
      (m.graft source destination op).currentInstruction? = some j := by
  have hp := Program.contains_of_size_le (m.program.size_le_push .nop) hc
  cases hi with
  | data op next => exact ⟨_, .data op _, current_overwrite hp _⟩
  | branch test ifTrue ifFalse =>
    have hpp := Program.contains_of_size_le ((m.program.push .nop).size_le_push .nop) hp
    exact ⟨_, .branch test _ _, current_overwrite hpp _⟩
  | ret => exact ⟨_, .ret, current_overwrite hc _⟩

/-- Only the cells and the frames decide whether operands suit. -/
theorem suits_overwrite {p : Program} :
    (m.overwrite p i).Suits source destination op ↔ m.Suits source destination op := by
  cases op <;> exact Iff.rfl

theorem suits_graft :
    (m.graft source destination op).Suits source destination op ↔
      m.Suits source destination op := by
  cases op with
  | nop => exact Iff.rfl
  | data | branch | call | jump | ret => exact suits_overwrite

theorem splice_eq_ok_iff {id : NodeId} {n : Machine} :
    m.splice source destination op = (.ok id, n) ↔
      m.Suits source destination op ∧ id = m.active.current ∧
        n = m.graft source destination op := by
  rw [splice_eq, ← vet_eq_ok_iff]
  cases m.vet source destination op <;> simp [eq_comm]

theorem splice_rejected_iff :
    (∃ reason, (m.splice source destination op).1 = .error reason) ↔
      ¬m.Suits source destination op := by
  rw [splice_eq, ← vet_eq_ok_iff]
  cases m.vet source destination op <;> simp

theorem splice_accepted_iff :
    (∃ id, (m.splice source destination op).1 = .ok id) ↔ m.Suits source destination op := by
  rw [splice_eq, ← vet_eq_ok_iff]
  cases m.vet source destination op <;> simp

/-- `after` is `before`, with a function put into the cell at `place` if that was empty. -/
def Filled (before after : Memory) (place : Coord) : Prop :=
  (before.read place = none ∧ ∃ entry, after = before.write place (.code entry)) ∨
    (∃ entry, before.read place = some (.code entry)) ∧ after = before

theorem define_filled {place : Coord} (h : m.memory.read place = none ∨
      ∃ entry, m.memory.read place = some (.code entry)) :
    Filled m.memory (m.define place).2.memory place := by
  rcases h with h | ⟨entry, h⟩
  · exact .inl ⟨h, m.program.fresh, by simp [define, h]⟩
  · exact .inr ⟨⟨entry, h⟩, by simp [define, h]⟩

/-- A recorded call or jump is always made, and it spares every cell that is in use. -/
theorem execute_graft_transfer (hc : m.program.contains m.active.current = true)
    (hop : op = .call ∨ op = .jump) (h : m.Suits source destination op) :
    ∃ a n, m.resolve source = .ok a ∧
      (m.graft source destination op).execute = (.ok true, n) ∧ Filled m.memory n.memory a := by
  have hp := Program.contains_of_size_le (m.program.size_le_push .nop) hc
  rcases hop with rfl | rfl
  · obtain ⟨a, b, ha, hb, hf⟩ := h
    -- The target was made absolute in between, and still names the cell that was vetted.
    have hs := Step.call (m := m.graft source destination .call) (current_overwrite hp _)
      (Memory.resolve_toAbsolute ha) hb
    exact ⟨a, _, ha, execute_eq_true_iff.2 hs,
      define_filled (m := m.graft source destination .call) hf⟩
  · obtain ⟨a, b, ha, hb, hf⟩ := h
    have hs := Step.jump (m := m.graft source destination .jump) (current_overwrite hc _)
      (Memory.resolve_toAbsolute ha) hb
    exact ⟨a, _, ha, execute_eq_true_iff.2 hs,
      define_filled (m := m.graft source destination .jump) hf⟩

/-- What a recorded operation other than a transfer has to fear are its hazards. -/
theorem execute_graft (hc : m.program.contains m.active.current = true)
    (hi : i.Performs source destination op) (h : m.Suits source destination op) :
    (m.graft source destination op).execute.1 = .ok true ∨
      ∃ trap dop, (m.graft source destination op).execute.1 = .error trap ∧
        op = .data dop ∧ dop.Hazard trap := by
  obtain ⟨j, hj, hcur⟩ := graft_current hc hi
  rw [execute_eq, step_of_current hcur]
  rcases perform_of_suits hj (suits_graft.2 h) with ⟨n, hn⟩ | ⟨trap, dop, ht, hop, hz⟩
  · exact .inl (by rw [hn])
  · exact .inr ⟨trap, dop, by rw [ht], hop, hz⟩

/-- **Recording and execution agree**, at every node and on all operands. An operation on data, a
comparison or a return is rejected exactly if its instruction, put at the current node, would trap
over its operands, so once recorded it is made or runs into a hazard of its own. A call or a jump is
accepted exactly if its operands name cells and the target is a function or empty; it is then always
made, and all that it does to the cells is to fill an empty target. -/
theorem splice_agrees_execute (m : Machine) (hc : m.program.contains m.active.current = true)
    (source destination : Address) :
    (∀ op i, i.Performs source destination op →
      ((∃ reason, (m.splice source destination op).1 = .error reason) ↔
        ∃ trap, (m.replaceNode m.active.current i).2.execute.1 = .error trap ∧
          (m.Unresolved i trap ∨ trap.isMisfit = true)) ∧
      ∀ id n, m.splice source destination op = (.ok id, n) →
        n.execute.1 = .ok true ∨
          ∃ trap dop, n.execute.1 = .error trap ∧ op = .data dop ∧ dop.Hazard trap) ∧
    ∀ op, op = .call ∨ op = .jump →
      ((∃ id, (m.splice source destination op).1 = .ok id) ↔
        ∃ a b, m.resolve source = .ok a ∧ m.resolve destination = .ok b ∧
          (m.memory.read a = none ∨ ∃ entry, m.memory.read a = some (.code entry))) ∧
      ∀ id n, m.splice source destination op = (.ok id, n) →
        ∃ a k, m.resolve source = .ok a ∧ n.execute = (.ok true, k) ∧
          Filled m.memory k.memory a := by
  refine ⟨fun op i hi => ⟨?_, ?_⟩, fun op hop => ⟨?_, ?_⟩⟩
  · -- The node is put into a machine with the same cells and frames, where `Suits` says the same.
    rw [splice_rejected_iff, ← suits_overwrite (p := m.program) (i := i),
      ← perform_misfit_iff hi, ← step_of_current (current_overwrite hc i)]
    simp only [execute_fst_eq_error_iff]
    exact Iff.rfl
  · intro id n hn
    obtain ⟨hs, -, rfl⟩ := splice_eq_ok_iff.1 hn
    exact execute_graft hc hi hs
  · rw [splice_accepted_iff]
    rcases hop with rfl | rfl <;> exact Iff.rfl
  · intro id n hn
    obtain ⟨hs, -, rfl⟩ := splice_eq_ok_iff.1 hn
    exact execute_graft_transfer hc hop hs

/-- On an empty grid a move is rejected, for there is nothing to move, and a call is recorded and
made. -/
theorem initial_agrees :
    initial.program.contains initial.active.current = true ∧
      (∃ reason,
        (initial.splice (.absolute ⟨1, 0⟩) (.absolute ⟨2, 0⟩) (.data .move)).1 = .error reason) ∧
      ∃ a k, initial.resolve (.absolute ⟨1, 0⟩) = .ok a ∧
        (initial.splice (.absolute ⟨1, 0⟩) (.absolute ⟨2, 0⟩) .call).2.execute = (.ok true, k) ∧
        Filled initial.memory k.memory a := by
  obtain ⟨hperform, htransfer⟩ :=
    splice_agrees_execute initial rfl (.absolute ⟨1, 0⟩) (.absolute ⟨2, 0⟩)
  refine ⟨rfl, ?_, ?_⟩
  · have hmove := (hperform (.data .move) _ (.data .move ⟨0⟩)).1
    exact hmove.2 ⟨.emptyCell ⟨1, 0⟩, rfl, .inr rfl⟩
  · exact (htransfer .call (.inl rfl)).2 ⟨0⟩ _ rfl

end Machine

end GridMachine
