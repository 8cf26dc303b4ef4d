import GridMachine.Proofs.Picking
import GridMachine.Proofs.Recording

/-! # Dragging home

A drag from the origin of the active frame to the cell of its function means to return. Both ends of
the drag are addresses by then, and they are compared as the cells that they wrap back to. The
destination is picked at the drop, so it wraps back to the cell of the drop, wherever that is. The
source may be older, from another frame or other toggles, and what counts is where it leads from the
origin of now. `LeadsHome` says this without any wrapping. A drag that leads home is recorded and
executed as a return, and any other one only waits for an operation. -/

namespace GridMachine

/-- The address stands for the origin, be it as no offset or by its place. Whether it would go on
through a pointer kept there does not matter. -/
def Address.NamesOrigin (a : Address) (origin : Coord) : Prop :=
  match a.base with
  | .relative => a.coord = .zero
  | .absolute => a.coord = origin

theorem Address.toAbsolute_coord_eq_origin_iff {a : Address} {origin : Coord} :
    (a.toAbsolute origin).coord = origin ↔ a.NamesOrigin origin := by
  unfold toAbsolute NamesOrigin
  cases a.base with
  | absolute => exact Iff.rfl
  | relative =>
    show a.coord + origin = origin ↔ a.coord = .zero
    rw [← Coord.add_left_inj (b := .zero) origin, Coord.zero_add]

/-- `n` is `m` after a return from its active function, by a node that was recorded for it. -/
structure Machine.Returned (m n : Machine) : Prop where
  memory : n.memory = m.memory
  flag : n.flag = none
  /-- The active frame is gone, and no other. -/
  frames : m.stack.toList = n.stack.toList ++ [m.active]
  node : n.program.get? m.active.current = some .ret
  size : n.program.size = m.program.size
  others : ∀ id, id ≠ m.active.current → n.program.get? id = m.program.get? id

namespace Recorder

variable {r : Recorder} {m : Machine} {c : Coord}

/-- The drag that ends at `c` goes from the origin of the active frame to its function. -/
def LeadsHome (r : Recorder) (m : Machine) (c : Coord) : Prop :=
  (∃ source, r.source = some source ∧ source.NamesOrigin m.active.origin) ∧ c = m.active.target

/-- With the cell of the drop as its destination, the recorder sees whether the drag leads home. -/
theorem dragsHome_setDestination_iff :
    (r.setDestination m c).dragsHome m = true ↔ r.LeadsHome m c := by
  have hdestination : names m m.active.target (r.pick m c) = true ↔ c = m.active.target := by
    rw [names_pick rfl, decide_eq_true_iff, eq_comm]
  simp only [dragsHome, setDestination, LeadsHome, Bool.and_eq_true, Option.any_some,
    hdestination]
  refine and_congr_left fun _ => ?_
  cases r.source with
  | none => simp
  | some source =>
    simp only [Option.any_some, Option.some.injEq, exists_eq_left']
    rw [names, beq_iff_eq]
    exact Address.toAbsolute_coord_eq_origin_iff

/-- A drag that leads elsewhere sets the destination, and that is all. -/
theorem drop_of_not_leadsHome (h : ¬r.LeadsHome m c) :
    r.drop m c = (.ok none, r.setDestination m c, m) := by
  rw [← dragsHome_setDestination_iff] at h
  simp only [drop, if_neg h]

/-- A drag that leads home is a return, recorded and executed. -/
theorem drop_of_leadsHome (h : r.LeadsHome m c)
    {out : Except RecordError Bool × Recorder × Machine}
    (hout : (r.setDestination m c).recordAndStep m .ret = out) :
    r.drop m c = (some <$> out.1, out.2) := by
  rw [← dragsHome_setDestination_iff] at h
  simp only [drop, if_pos h, hout]
  rcases out with ⟨_ | _, _, _⟩ <;> rfl

/-- In the root there is nothing to return to, and nothing is changed. -/
theorem recordAndStep_ret_of_root (r : Recorder) (h : m.depth < 2) :
    r.recordAndStep m .ret = (.error (.rejected .returnFromRoot), r, m) := by
  have hsplice : m.splice (.relative .zero) (.relative .zero) .ret =
      (.error .returnFromRoot, m) := by
    simp [Machine.splice_eq, Machine.vet, h]
  have hrecord := Records.rejected (offers_of_no_operands rfl r _ _) hsplice
  exact (RecordsAndSteps.refused hrecord).recordAndStep_eq

/-- In any other frame a return is recorded and made, whatever was picked. -/
theorem recordAndStep_ret (r : Recorder) (hc : m.program.contains m.active.current = true)
    (h : 2 ≤ m.depth) :
    ∃ n, r.recordAndStep m .ret = (.ok true, { r with source := none, destination := none }, n) ∧
      m.Returned n := by
  obtain ⟨stack, hpop⟩ : ∃ stack, m.stack.pop? = some stack := by
    rw [← Option.ne_none_iff_exists', ne_eq, Stack.pop?_eq_none_iff]
    exact Nat.not_lt.2 h
  have hsplice : m.splice (.relative .zero) (.relative .zero) .ret =
      (.ok m.active.current, m.overwrite m.program .ret) :=
    Machine.splice_eq_ok_iff.2 ⟨h, rfl, rfl⟩
  have hstep := Machine.Step.ret (m := m.overwrite m.program .ret)
    (Machine.current_overwrite hc .ret) hpop
  have hrecord := Records.recorded (offers_of_no_operands rfl r _ _) hsplice
  have hexecute := Machine.execute_eq_true_iff.2 hstep
  refine ⟨_, (RecordsAndSteps.stepped hrecord hexecute).recordAndStep_eq, ?_⟩
  exact {
    memory := rfl
    flag := rfl
    frames := Stack.toList_of_pop? hpop
    node := Program.get?_set_self hc .ret
    size := m.program.size_set _ .ret
    others := fun id hne => Program.get?_set_of_ne hne .ret }

/-- **A drop returns exactly if the drag leads home**, at any cell and under all toggles. Any other
drop makes the cell the destination and leaves the machine alone. A drag home is a return: it is
recorded and made in every frame that has a caller, and in the root it is rejected, with both picks
kept. -/
theorem drop_returns_iff_leadsHome (r : Recorder) (m : Machine) (c : Coord) :
    ((r.drop m c).1 ≠ .ok none ↔ r.LeadsHome m c) ∧
    (¬r.LeadsHome m c →
      r.drop m c = (.ok none, { r with destination := some (r.pick m c) }, m)) ∧
    (r.LeadsHome m c → m.program.contains m.active.current = true → 2 ≤ m.depth →
      ∃ n, r.drop m c = (.ok (some true), { r with source := none, destination := none }, n) ∧
        m.Returned n) ∧
    (r.LeadsHome m c → m.depth = 1 →
      r.drop m c =
        (.error (.rejected .returnFromRoot), { r with destination := some (r.pick m c) }, m)) := by
  refine ⟨⟨?_, ?_⟩, drop_of_not_leadsHome, ?_, ?_⟩
  · intro hfires
    by_cases h : r.LeadsHome m c
    · exact h
    · rw [drop_of_not_leadsHome h] at hfires
      exact absurd rfl hfires
  · intro h
    rw [drop_of_leadsHome h rfl]
    cases ((r.setDestination m c).recordAndStep m .ret).1 <;> simp
  · intro h hc hdepth
    obtain ⟨n, hret, hreturned⟩ := (r.setDestination m c).recordAndStep_ret hc hdepth
    exact ⟨n, drop_of_leadsHome h hret, hreturned⟩
  · intro h hdepth
    have hroot : m.depth < 2 := by omega
    exact drop_of_leadsHome h ((r.setDestination m c).recordAndStep_ret_of_root hroot)

/-- A machine in a function in the last row of the grid, called with an origin in the first row. -/
def acrossTheEdge : Machine :=
  { Machine.initial with
    program := ⟨#[.nop, .nop]⟩
    stack := Machine.initial.stack.push (.enter ⟨Int64.minValue, 0⟩ ⟨Int64.maxValue, 5⟩ ⟨1⟩) }

/-- The offset of the function wraps around the grid, and the drop on it is a return nevertheless;
the source was picked to go through a pointer. A drop on the cell beside it waits, and in the root
the drag home is rejected. -/
theorem acrossTheEdge_drop_returns :
    let r : Recorder := { source := some (.indirect (.relative .zero)) }
    (∃ n, r.drop acrossTheEdge ⟨Int64.maxValue, 5⟩ = (.ok (some true), {}, n) ∧
        acrossTheEdge.Returned n) ∧
      r.drop acrossTheEdge ⟨Int64.maxValue, 6⟩ =
        (.ok none, { r with destination := some (.relative ⟨-1, 6⟩) }, acrossTheEdge) ∧
      r.drop Machine.initial .zero =
        (.error (.rejected .returnFromRoot),
          { r with destination := some (.relative .zero) }, Machine.initial) := by
  intro r
  obtain ⟨-, -, hreturn, -⟩ := drop_returns_iff_leadsHome r acrossTheEdge ⟨Int64.maxValue, 5⟩
  obtain ⟨-, hwait, -, -⟩ := drop_returns_iff_leadsHome r acrossTheEdge ⟨Int64.maxValue, 6⟩
  obtain ⟨-, -, -, hroot⟩ := drop_returns_iff_leadsHome r Machine.initial .zero
  have hbeside : r.pick acrossTheEdge ⟨Int64.maxValue, 6⟩ = .relative ⟨-1, 6⟩ := by decide
  have hzero : r.pick Machine.initial .zero = .relative .zero := by decide
  refine ⟨hreturn ⟨⟨_, rfl, rfl⟩, rfl⟩ rfl (by decide), ?_, ?_⟩
  · rw [← hbeside]
    exact hwait fun h => absurd h.2 (by decide)
  · rw [← hzero]
    exact hroot ⟨⟨_, rfl, rfl⟩, rfl⟩ rfl

end Recorder

end GridMachine
