import GridMachine.Proofs.Graft

/-! # Refused work leaves no trace

A step that traps, a splice that is rejected and a write that finds no cell leave the whole machine
as it was, in any state, also one that names nodes the program does not have. For a run this says
where it stops: at the state after its last step that was made. `Steps` counts those steps. -/

namespace GridMachine.Machine

/-- `m` becomes `n` by executing exactly `k` nodes, each of which makes a step. -/
inductive Steps : Nat → Machine → Machine → Prop
  | refl (m : Machine) : Steps 0 m m
  | next {k : Nat} {m n p : Machine} (head : m.execute = (.ok true, n)) (tail : Steps k n p) :
      Steps (k + 1) m p

/-- A run that ends without a trap has made the steps it reports, and stopped at its bound or at a
placeholder. -/
theorem runFrom_eq_ok {m n : Machine} {made bound total : Nat}
    (h : m.runFrom made bound = (.ok total, n)) :
    ∃ k ≤ bound, total = made + k ∧ Steps k m n ∧ (k = bound ∨ n.execute = (.ok false, n)) := by
  induction bound generalizing m made with
  | zero =>
    obtain ⟨⟨⟩, rfl⟩ := Prod.mk.inj h
    exact ⟨0, Nat.le_refl 0, rfl, .refl m, .inl rfl⟩
  | succ bound ih =>
    unfold runFrom at h
    split at h
    · rename_i next he
      obtain ⟨k, hk, rfl, hs, hend⟩ := ih h
      refine ⟨k + 1, Nat.succ_le_succ hk, by omega, .next he hs, ?_⟩
      exact hend.imp_left (congrArg (· + 1))
    · rename_i next he
      obtain ⟨⟨⟩, rfl⟩ := Prod.mk.inj h
      obtain ⟨_, rfl⟩ := execute_eq_false_iff.1 he
      exact ⟨0, Nat.zero_le _, rfl, .refl _, .inr he⟩
    · cases h

/-- A run that traps has made some steps, fewer than its bound, and stands where the trap is. -/
theorem runFrom_eq_error {m n : Machine} {made bound : Nat} {trap : Trap}
    (h : m.runFrom made bound = (.error trap, n)) :
    ∃ k < bound, Steps k m n ∧ n.execute = (.error trap, n) := by
  induction bound generalizing m made with
  | zero => cases h
  | succ bound ih =>
    unfold runFrom at h
    split at h
    · rename_i next he
      obtain ⟨k, hk, hs, ht⟩ := ih h
      exact ⟨k + 1, Nat.succ_lt_succ hk, .next he hs, ht⟩
    · cases h
    · rename_i t next he
      obtain ⟨⟨⟩, rfl⟩ := Prod.mk.inj h
      obtain ⟨_, rfl⟩ := execute_eq_error_iff.1 he
      exact ⟨0, Nat.succ_pos _, .refl _, he⟩

/-- A run makes the steps that there are, and goes on from where they end. -/
theorem Steps.runFrom_eq {k : Nat} {m n : Machine} (h : Steps k m n) (made bound : Nat) :
    m.runFrom made (k + bound) = n.runFrom (made + k) bound := by
  induction h generalizing made with
  | refl m => simp
  | @next k m n p head _ ih =>
    have hk : k + 1 + bound = k + bound + 1 := by omega
    have hmade : made + (k + 1) = made + 1 + k := by omega
    rw [hk, hmade, runFrom, head]
    exact ih (made + 1)

/-- At a placeholder a run stops, whatever its bound. -/
theorem runFrom_of_nop {m : Machine} (h : m.currentInstruction? = some .nop) (made bound : Nat) :
    m.runFrom made bound = (.ok made, m) := by
  cases bound with
  | zero => rfl
  | succ bound => rw [runFrom, execute_eq_false_iff.2 ⟨h, rfl⟩]

theorem splice_eq_error {m n : Machine} {source destination : Address} {op : Operation}
    {reason : Rejection} (h : m.splice source destination op = (.error reason, n)) : n = m := by
  rw [splice_eq] at h
  split at h
  · cases h
  · exact (Prod.mk.inj h).2.symm

theorem write_eq_error {m n : Machine} {a : Address} {cell : Cell} {trap : Trap}
    (h : m.write a cell = (.error trap, n)) : n = m := by
  unfold write at h
  split at h
  · cases h
  · exact (Prod.mk.inj h).2.symm

/-- **Refused work leaves no trace**, whatever the state: not a trap, not a halt, not a rejected or
empty splice, not a refused write; and a run that traps stands after the steps it had made. -/
theorem refused_unchanged (m : Machine) :
    (∀ trap n, m.execute = (.error trap, n) → n = m) ∧
    (∀ n, m.execute = (.ok false, n) → n = m) ∧
    (∀ source destination op reason n,
      m.splice source destination op = (.error reason, n) → n = m) ∧
    (∀ source destination, m.splice source destination .nop = (.ok m.active.current, m)) ∧
    (∀ a cell trap n, m.write a cell = (.error trap, n) → n = m) ∧
    (∀ bound trap n, m.run bound = (.error trap, n) →
      ∃ k < bound, Steps k m n ∧ n.execute = (.error trap, n)) := by
  refine ⟨?_, ?_, ?_, ?_, ?_, ?_⟩
  · intro trap n h
    exact (execute_eq_error_iff.1 h).2
  · intro n h
    exact (execute_eq_false_iff.1 h).2
  · intro source destination op reason n h
    exact splice_eq_error h
  · intro source destination
    exact splice_eq m source destination .nop
  · intro a cell trap n h
    exact write_eq_error h
  · intro bound trap n h
    exact runFrom_eq_error h

/-- A root function that stores a pointer and then returns, although it has no caller. -/
def strayReturn : Machine :=
  { initial with
    program := ⟨#[.data .addressOf (.relative .zero) (.relative ⟨0, 1⟩) ⟨1⟩, .ret]⟩ }

/-- Its run stops after one step, at the trap; there, too, a splice is rejected and a write refused
without a trace. -/
theorem strayReturn_refused :
    ∃ n, strayReturn.run 5 = (.error .returnFromRoot, n) ∧
      (∃ k < 5, Steps k strayReturn n ∧ n.execute = (.error .returnFromRoot, n)) ∧
      n.splice (.relative ⟨0, 2⟩) (.relative .zero) (.data .move) =
        (.error (.emptyOperand ⟨0, 2⟩), n) ∧
      n.write (.indirect (.relative .zero)) (.data 1) = (.error (.notAnAddress .zero), n) := by
  obtain ⟨_, _, hsplice, _, hwrite, _⟩ := refused_unchanged (strayReturn.run 5).2
  refine ⟨(strayReturn.run 5).2, rfl, ?_, ?_, ?_⟩
  · exact (refused_unchanged strayReturn).2.2.2.2.2 5 .returnFromRoot _ rfl
  · exact Prod.ext rfl (hsplice (.relative ⟨0, 2⟩) (.relative .zero) (.data .move)
      (.emptyOperand ⟨0, 2⟩) _ rfl)
  · exact Prod.ext rfl (hwrite (.indirect (.relative .zero)) (.data 1) (.notAnAddress .zero) _ rfl)

end GridMachine.Machine
