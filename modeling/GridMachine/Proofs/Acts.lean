import GridMachine.Player
import GridMachine.Recorder.Basic
import GridMachine.Proofs.Atomicity

/-! # Everything that is done to a machine

A machine is executed, played by the ticks of a clock, authored by gestures, and edited by its host.
An `Act` is any of these. The player or the recorder of an act is part of the act and quite
arbitrary, so that a sequence of acts stands for every session, whatever the player and the recorder
did in between. Each act is then taken apart into what it does to the machine: at most one operation
recorded (`Authored`), then at most one step made (`Moved`), or for a loop any number of steps. -/

namespace GridMachine

/-- One thing done to a machine. -/
inductive Act where
  | execute
  | run (bound : Nat)
  | tick (player : Player)
  | runUntilHalt (player : Player) (bound : Nat)
  | splice (source destination : Address) (op : Operation)
  | record (recorder : Recorder) (op : Operation)
  | recordAndStep (recorder : Recorder) (op : Operation)
  | drop (recorder : Recorder) (c : Coord)
  | write (a : Address) (cell : Cell)
  | addNode (i : Instruction)
  | replaceNode (id : NodeId) (i : Instruction)

namespace Act

/-- The machine after the act. -/
def apply : Act → Machine → Machine
  | execute, m => m.execute.2
  | run bound, m => (m.run bound).2
  | tick player, m => (player.tick m).2.2
  | runUntilHalt player bound, m => (player.runUntilHalt m bound).2.2
  | splice source destination op, m => (m.splice source destination op).2
  | record recorder op, m => (recorder.record m op).2.2
  | recordAndStep recorder op, m => (recorder.recordAndStep m op).2.2
  | drop recorder c, m => (recorder.drop m c).2.2
  | write a cell, m => (m.write a cell).2
  | addNode i, m => (m.addNode i).2
  | replaceNode id i, m => (m.replaceNode id i).2

end Act

namespace Machine

/-- `n` is `m`, or the state one step after it. -/
def Moved (m n : Machine) : Prop := n = m ∨ Step m n

/-- `n` is `m`, or `m` with an operation recorded that was found good. -/
def Authored (m n : Machine) : Prop :=
  n = m ∨ ∃ source destination op,
    m.vet source destination op = .ok () ∧ n = m.graft source destination op

theorem Steps.trans {j k : Nat} {m n p : Machine} (h : Steps j m n) (h' : Steps k n p) :
    Steps (j + k) m p := by
  induction h with
  | refl => simpa using h'
  | next head _ ih => simpa [Nat.add_right_comm] using .next head (ih h')

theorem Moved.steps {m n : Machine} (h : Moved m n) : ∃ k, Steps k m n := by
  rcases h with rfl | h
  · exact ⟨0, .refl n⟩
  · exact ⟨1, .next (execute_eq_true_iff.2 h) (.refl n)⟩

theorem execute_moved (m : Machine) : Moved m m.execute.2 := by
  rcases h : m.execute with ⟨_ | (_ | _), n⟩
  · exact .inl (execute_eq_error_iff.1 h).2
  · exact .inl (execute_eq_false_iff.1 h).2
  · exact .inr (execute_eq_true_iff.1 h)

/-- The machine after executing `k` times, whatever came of each time. -/
def after (m : Machine) : Nat → Machine
  | 0 => m
  | k + 1 => (m.after k).execute.2

theorem splice_authored (m : Machine) (source destination : Address) (op : Operation) :
    Authored m (m.splice source destination op).2 := by
  rw [splice_eq]
  cases h : m.vet source destination op with
  | ok _ => exact .inr ⟨source, destination, op, h, rfl⟩
  | error reason => exact .inl rfl

theorem run_steps (m : Machine) (bound : Nat) : ∃ k, Steps k m (m.run bound).2 := by
  rcases h : m.run bound with ⟨trap | total, n⟩
  · obtain ⟨k, _, hs, _⟩ := runFrom_eq_error h
    exact ⟨k, hs⟩
  · obtain ⟨k, _, _, hs, _⟩ := runFrom_eq_ok h
    exact ⟨k, hs⟩

end Machine

open Machine

/-- A tick is a step of the machine or nothing. -/
theorem Player.tick_moved (p : Player) (m : Machine) : Moved m (p.tick m).2.2 := by
  have h := execute_moved m
  unfold tick
  split
  · split <;> simp_all
  · exact .inl rfl

theorem Player.runFrom_steps (p : Player) (m : Machine) (made bound : Nat) :
    ∃ k, Steps k m (p.runFrom made bound m).2.2 := by
  induction bound generalizing p m made with
  | zero => exact ⟨0, .refl m⟩
  | succ bound ih =>
    obtain ⟨j, hj⟩ := (p.tick_moved m).steps
    unfold runFrom
    split
    · rename_i q n he
      obtain ⟨k, hk⟩ := ih q n (made + 1)
      rw [he] at hj
      exact ⟨j + k, hj.trans hk⟩
    · rename_i he
      rw [he] at hj
      exact ⟨j, hj⟩
    · rename_i he
      rw [he] at hj
      exact ⟨j, hj⟩

/-- Recording splices with the picked operands, or does nothing. -/
theorem Recorder.record_authored (r : Recorder) (m : Machine) (op : Operation) :
    Authored m (r.record m op).2.2 := by
  unfold record
  split
  · exact .inl rfl
  · rename_i source destination _
    have h := splice_authored m source destination op
    split <;> simp_all

theorem Recorder.recordAndStep_moved (r : Recorder) (m : Machine) (op : Operation) :
    ∃ n, Authored m n ∧ Moved n (r.recordAndStep m op).2.2 := by
  have ha := r.record_authored m op
  refine ⟨_, ha, ?_⟩
  unfold recordAndStep
  split
  · rename_i he
    exact .inl (by rw [he])
  · rename_i q n he
    rw [he]
    have hm := execute_moved n
    split <;> simp_all

theorem Recorder.drop_moved (r : Recorder) (m : Machine) (c : Coord) :
    ∃ n, Authored m n ∧ Moved n (r.drop m c).2.2 := by
  have h := (r.setDestination m c).recordAndStep_moved m .ret
  unfold drop
  dsimp only
  split
  · split <;> simp_all
  · exact ⟨m, .inl rfl, .inl rfl⟩

end GridMachine
