import GridMachine.Proofs.Replay
import GridMachine.Proofs.Closure

/-! # What a splice leaves behind

An accepted splice changes the current node, adds the placeholders that the new instruction goes on
at, and leaves all else as it was (`Spliced`). The placeholders have new names. So in a machine that
holds no name without a node, nothing but the new instruction can lead to them. -/

namespace GridMachine.Machine

variable {m n : Machine} {source destination : Address} {op : Operation} {i : Instruction}

/-- No frame, no cell and no node but that of the name `id` holds the name `next`. -/
structure OnlyFrom (m : Machine) (id next : NodeId) : Prop where
  nodes : ∀ other j, other ≠ id → m.program.get? other = some j → next ∉ j.successors
  frames : ∀ f ∈ m.stack.toList, f.current ≠ next ∧ f.previous ≠ some next
  cells : ∀ c, m.memory.read c ≠ some (.code next)

/-- **Only the new instruction leads to its placeholders**, if the machine was closed. -/
theorem Spliced.onlyFrom (h : Spliced m n source destination op i) (hm : m.Closed) {next : NodeId}
    (hn : next ∈ i.successors) : n.OnlyFrom m.active.current next := by
  obtain ⟨hnew, -⟩ := (h.added next).1 hn
  -- Whatever the closed machine held has a node, and `next` had none.
  have habsent : m.program.contains next ≠ true := by
    rw [hnew]
    nofun
  refine ⟨?_, ?_, ?_⟩
  · intro other j hne hj hmem
    cases hold : m.program.contains other with
    | true =>
      rw [h.others other hold hne] at hj
      exact habsent (hm.nodes other j hj next hmem)
    | false =>
      have hother := (h.added other).2 ⟨hold, Program.contains_of_get? hj⟩
      rw [h.placeholders other hother] at hj
      cases hj
      cases hmem
  · intro f hf
    rw [h.stack] at hf
    have hwithin := hm.frames f hf
    constructor
    · rintro rfl
      exact habsent hwithin.current
    · intro hprevious
      exact habsent (hwithin.previous next hprevious)
  · intro c hcell
    rw [h.memory] at hcell
    exact habsent (hm.cells c _ hcell next rfl)

theorem twoNumbers_closed : twoNumbers.Closed := by
  refine ofMemory_closed fun c entry h => ?_
  simp only [Memory.ofList, List.foldl_cons, List.foldl_nil, Memory.read_write,
    Memory.read_empty] at h
  split at h
  · cases h
  · split at h <;> cases h

end GridMachine.Machine
