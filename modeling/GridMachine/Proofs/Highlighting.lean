import GridMachine.Recorder.Basic
import GridMachine.Proofs.Picking
import GridMachine.Proofs.Recording
import GridMachine.Proofs.Replay

/-! # What the grid shows after a step

A recorded operation uses up the picks, and the grid goes on showing them: its node keeps them as
operands, the frame remembers the node as the one executed last, and the step leaves the origin of
the frame where it was, so that the operands wrap back to the cells that were picked. For an
operation on data or a comparison all of this holds, whatever the toggles were at each pick. -/

namespace GridMachine

theorem Operation.operands_of_staysInFrame {op : Operation} (h : op.staysInFrame = true)
    (source destination : Address) (origin : Coord) :
    op.source? source origin = some source ∧ op.destination? destination = some destination := by
  cases op with
  | data | branch => exact ⟨rfl, rfl⟩
  | nop | call | jump | ret => cases h

namespace Machine

variable {m n : Machine} {i : Instruction}

/-- A step within a frame goes on in that frame, which remembers the node just executed. -/
theorem Step.active_eq (h : Step m n) (hi : m.currentInstruction? = some i)
    (hop : i.operation.staysInFrame = true) :
    ∃ next, n.active = m.active.advance next := by
  cases h with
  | data current | branch current => exact ⟨_, rfl⟩
  | call current | jump current | ret current =>
    cases hi.symm.trans current
    cases hop

/-- `n` runs in a frame with the places of that of `m`, and the operands of the node executed last
are `source` and `destination`. -/
structure Shows (m n : Machine) (source destination : Address) : Prop where
  origin : n.active.origin = m.active.origin
  target : n.active.target = m.active.target
  last : ∃ i, n.previousInstruction? = some i ∧ i.source? = some source ∧
    i.destination? = some destination

/-- An operation that was recorded and executed within its frame shows its operands. -/
theorem Shows.of_graft {op : Operation} {source destination : Address}
    (hc : m.program.contains m.active.current = true) (hop : op.staysInFrame = true)
    (h : Step (m.graft source destination op) n) : m.Shows n source destination := by
  have hnop : op ≠ .nop := by
    rintro rfl
    cases hop
  obtain ⟨i, hi⟩ := graft_spliced hc hnop source destination
  have hactive : (m.graft source destination op).active = m.active := congrArg Stack.top hi.stack
  have hcurrent : (m.graft source destination op).currentInstruction? = some i := by
    rw [currentInstruction?, hactive]
    exact hi.node
  have hstays : i.operation.staysInFrame = true := by
    rw [hi.makes.operation]
    exact hop
  obtain ⟨next, hn⟩ := h.active_eq hcurrent hstays
  rw [hactive] at hn
  obtain ⟨hprogram, -⟩ := h.within_frame hcurrent hstays
  obtain ⟨hsource, hdestination⟩ :=
    Operation.operands_of_staysInFrame hop source destination m.active.origin
  -- The step left the program alone, and the node it remembers is the one written over.
  have hlast : n.previousInstruction? = some i := by
    rw [previousInstruction?, hn, hprogram]
    exact hi.node
  refine ⟨?_, ?_, i, hlast, hi.makes.source.trans hsource,
    hi.makes.destination.trans hdestination⟩
  · rw [hn]
    rfl
  · rw [hn]
    rfl

end Machine

namespace Recorder

variable {r r' : Recorder} {m n : Machine} {op : Operation}

/-- The recorder with its toggles in these positions. -/
def toggled (r : Recorder) (base : Base) (indirection : Indirection) : Recorder :=
  { r with base := base, indirection := indirection }

/-- A step that was recorded and made has used up the picks, and shows them. -/
theorem shows_of_recordAndStep {source destination : Address}
    (hc : m.program.contains m.active.current = true) (hop : op.staysInFrame = true)
    (hsource : r.source = some source) (hdestination : r.destination = some destination)
    (h : r.recordAndStep m op = (.ok true, r', n)) :
    r'.source = none ∧ r'.destination = none ∧ m.Shows n source destination := by
  cases recordAndStep_eq_iff.1 h with
  | stepped record executed =>
    cases record with
    | recorded offered spliced =>
      have htakes : op.takesOperands = true := by
        cases op with
        | data | branch => rfl
        | nop | call | jump | ret => cases hop
      obtain ⟨hs, hd⟩ := offered htakes
      cases hsource.symm.trans hs
      cases hdestination.symm.trans hd
      obtain ⟨-, -, rfl⟩ := Machine.splice_eq_ok_iff.1 spliced
      exact ⟨rfl, rfl, .of_graft hc hop (Machine.execute_eq_true_iff.1 executed)⟩

/-- With nothing picked, the grid shows the active frame and the operands of the last step. -/
theorem highlight_of_shows {source destination : Address} (hsource : r.source = none)
    (hdestination : r.destination = none) (h : m.Shows n source destination) (x : Coord) :
    r.highlight n x =
      if x = n.active.origin ∨ x = n.active.target then .activeFrame
      else if names n x source then .source
      else if names n x destination then .destination
      else .plain := by
  obtain ⟨i, hi, his, hid⟩ := h.last
  simp [highlight, hsource, hdestination, hi, his, hid]

/-- **After a recorded step the grid shows the cells that were picked**, for all cells and whatever
the toggles were at each pick: the source, and where that is another cell the destination, unless
they are cells of the active frame. A pick that goes through a pointer shows the pointer's own
cell. -/
theorem highlight_after_step (hc : m.program.contains m.active.current = true)
    (hop : op.staysInFrame = true) (r : Recorder) (a b : Coord) (base₁ base₂ : Base)
    (indirection₁ indirection₂ : Indirection) :
    let dragged := (r.toggled base₁ indirection₁).setSource m a
    let dropped := (dragged.toggled base₂ indirection₂).setDestination m b
    ∀ r' n, dropped.recordAndStep m op = (.ok true, r', n) → ∀ x,
      r'.highlight n x =
        if x = n.active.origin ∨ x = n.active.target then .activeFrame
        else if x = a then .source
        else if x = b then .destination
        else .plain := by
  intro dragged dropped r' n h x
  obtain ⟨hsource, hdestination, hshows⟩ := shows_of_recordAndStep hc hop rfl rfl h
  rw [highlight_of_shows hsource hdestination hshows, names_pick hshows.origin,
    names_pick hshows.origin]
  simp only [decide_eq_true_eq]

/-- A grid with a pointer to a number. -/
def pointedNumber : Machine :=
  .ofMemory (.ofList [(⟨0, 1⟩, .pointer (.absolute ⟨3, 3⟩)), (⟨3, 3⟩, .data 7)])

/-- The number is copied through the pointer. The grid shows the pointer's cell as the source, and
not that of the number. -/
theorem pointedNumber_highlight :
    let dragged := (({} : Recorder).toggled .relative .indirect).setSource pointedNumber ⟨0, 1⟩
    let dropped := (dragged.toggled .absolute .direct).setDestination pointedNumber ⟨0, 2⟩
    ∃ r' n, dropped.recordAndStep pointedNumber (.data .move) = (.ok true, r', n) ∧
      n.memory.read ⟨0, 2⟩ = some (.data 7) ∧ r'.highlight n ⟨0, 0⟩ = .activeFrame ∧
      r'.highlight n ⟨0, 1⟩ = .source ∧ r'.highlight n ⟨0, 2⟩ = .destination ∧
      r'.highlight n ⟨3, 3⟩ = .plain := by
  intro dragged dropped
  have hstep : dropped.recordAndStep pointedNumber (.data .move) = (.ok true, _, _) := rfl
  have hshown := highlight_after_step rfl rfl {} ⟨0, 1⟩ ⟨0, 2⟩ .relative .absolute .indirect
    .direct _ _ hstep
  refine ⟨_, _, hstep, rfl, ?_, ?_, ?_, ?_⟩
  · exact (hshown ⟨0, 0⟩).trans rfl
  · exact (hshown ⟨0, 1⟩).trans rfl
  · exact (hshown ⟨0, 2⟩).trans rfl
  · exact (hshown ⟨3, 3⟩).trans rfl

end Recorder

end GridMachine
