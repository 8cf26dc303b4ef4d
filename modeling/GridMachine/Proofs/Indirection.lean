import GridMachine.Proofs.Effect
import GridMachine.Proofs.Vetting

/-! # Two ways through a pointer

A pointer is followed by an operation, which finds it in the cell of an operand, or by the
resolution of an indirect operand. The two look at the same cells in another order and blame other
sites. What they follow is the same, `Memory.Points`, and that is all that decides where a step
goes: a fetch is a move from an indirect source, and a store through a pointer is a move to an
indirect destination. They part where the pointer leads to an empty cell. A move has nothing to move
from there and traps; a fetch leaves its destination alone and goes on. -/

namespace GridMachine

/-! ## Where a pointer leads -/

/-- The cell at `a` holds a pointer, and it leads to `c` from `origin`. -/
def Memory.Points (m : Memory) (origin a c : Coord) : Prop :=
  ∃ p : Address, m.read a = some (.pointer p) ∧ m.resolve origin p.direct = .ok c

namespace Memory

variable {m : Memory} {origin a b c : Coord}

/-- Whatever site is blamed, a pointer is found and followed exactly if it leads to a cell. -/
theorem follow_eq_ok_iff (site : Coord) :
    (m.pointerAt a >>= fun p => p.locate origin site) = .ok c ↔ m.Points origin a c := by
  simp only [bind_eq_ok_iff, pointerAt_eq_ok_iff, Address.locate_eq_ok_iff, Points,
    resolve_direct_eq_ok_iff]

theorem counted_of_resolve_direct {x : Address} (hx : x.indirection = .direct)
    (h : m.resolve origin x = .ok c) : c.toInts = x.counted origin := by
  cases resolve_eq_iff.1 h with
  | direct first => exact first
  | indirect _ kind => exact absurd (hx.symm.trans kind) (by decide)

/-- An indirect address names the cell that the pointer in the direct one leads to. -/
theorem resolve_indirect_eq_ok_iff {x : Address} (hx : x.indirection = .direct) :
    m.resolve origin x.indirect = .ok c ↔
      ∃ hop, m.resolve origin x = .ok hop ∧ m.Points origin hop c := by
  constructor
  · intro h
    obtain ⟨hop, hl, hp⟩ := bind_eq_ok_iff.1 h
    have first : hop.toInts = x.indirect.counted origin := Address.locate_eq_ok_iff.1 hl
    exact ⟨hop, resolve_of_direct first hx, (follow_eq_ok_iff hop).1 hp⟩
  · rintro ⟨hop, hr, hp⟩
    have first : hop.toInts = x.counted origin := counted_of_resolve_direct hx hr
    rw [resolve_of_indirect (a := x.indirect) first rfl]
    exact (follow_eq_ok_iff hop).2 hp

end Memory

/-! ## What is stored through it -/

namespace DataOp

variable {m : Memory} {origin a b : Coord} {store : Option Store}

theorem store_move_eq_ok_iff :
    move.store m origin a b = .ok store ↔
      ∃ cell, m.read a = some cell ∧ store = some ⟨b, cell⟩ := by
  show (m.occupiedAt a >>= _) = _ ↔ _
  simp only [bind_eq_ok_iff, Memory.occupiedAt_eq_ok_iff]
  simp only [pure, Except.pure, Except.ok.injEq, eq_comm]

theorem store_read_eq_ok_iff :
    read.store m origin a b = .ok store ↔
      ∃ c, m.Points origin a c ∧ store = (m.read c).map fun cell => ⟨b, cell⟩ := by
  show (m.pointerAt a >>= fun p => p.locate origin a >>= _) = _ ↔ _
  rw [← bind_assoc, bind_eq_ok_iff]
  simp only [Memory.follow_eq_ok_iff]
  simp only [pure, Except.pure, Except.ok.injEq, eq_comm]

/-- The pointer is found first and followed last, and the source is read in between. -/
theorem store_write_eq_ok_iff :
    write.store m origin a b = .ok store ↔
      ∃ c cell, m.Points origin b c ∧ m.read a = some cell ∧ store = some ⟨c, cell⟩ := by
  constructor
  · intro h
    cases Stores.of_store h with
    | write destination pointee source => exact ⟨_, _, ⟨_, destination, pointee⟩, source, rfl⟩
  · rintro ⟨c, cell, ⟨p, hp, hc⟩, hcell, rfl⟩
    have hl : p.locate origin b = .ok c :=
      Address.locate_eq_ok_iff.2 (Memory.resolve_direct_eq_ok_iff.1 hc)
    simp [DataOp.store, Memory.pointerAt_eq_ok_iff.2 hp, Memory.occupiedAt_eq_ok_iff.2 hcell, hl,
      pure, Except.pure]

end DataOp

/-! ## Steps at one node -/

namespace Machine

variable {m n : Machine} {op : DataOp} {source destination : Address} {next : NodeId}

/-- With the node `i` in place of the current one a step is made, and it ends with the cells, the
frames and the flag of `n`. -/
def LeadsTo (m : Machine) (i : Instruction) (n : Machine) : Prop :=
  ∃ p, (m.replaceNode m.active.current i).2.execute = (.ok true, { n with program := p })

theorem leadsTo_of_execute {i : Instruction}
    (h : (m.replaceNode m.active.current i).2.execute = (.ok true, n)) : m.LeadsTo i n :=
  ⟨n.program, h⟩

/-- Such a step takes from the operation what it stores, and nothing else. -/
theorem leadsTo_data_iff (hc : m.program.contains m.active.current = true) :
    m.LeadsTo (.data op source destination next) n ↔
      ∃ a b store, m.resolve source = .ok a ∧ m.resolve destination = .ok b ∧
        op.store m.memory m.active.origin a b = .ok store ∧ n.memory = m.memory.apply store ∧
        n.stack = m.stack.modifyTop (·.advance next) ∧ n.flag = none := by
  have hstep := step_replaceNode hc (.data op source destination next)
  simp only [LeadsTo, execute_eq_true_iff, ← step_eq_some_iff, hstep]
  constructor
  · rintro ⟨p, h⟩
    obtain ⟨k, hk, hkn⟩ := map_eq_ok_iff.1 h
    obtain ⟨a, ha, hk⟩ := bind_eq_ok_iff.1 hk
    obtain ⟨b, hb, hk⟩ := bind_eq_ok_iff.1 hk
    obtain ⟨store, hs, ⟨⟩⟩ := bind_eq_ok_iff.1 hk
    obtain ⟨hmemory, -, hstack, hflag⟩ := Machine.ext_iff.1 (Option.some.inj hkn)
    exact ⟨a, b, store, ha, hb, hs, hmemory.symm, hstack.symm, hflag.symm⟩
  · rintro ⟨a, b, store, ha, hb, hs, hmemory, hstack, hflag⟩
    refine ⟨m.program.set m.active.current (.data op source destination next), ?_⟩
    rw [hmemory, hstack, hflag]
    refine map_eq_ok_iff.2 ⟨_, ?_, rfl⟩
    refine bind_eq_ok_iff.2 ⟨a, ha, ?_⟩
    refine bind_eq_ok_iff.2 ⟨b, hb, ?_⟩
    exact bind_eq_ok_iff.2 ⟨store, hs, rfl⟩

/-- There is nothing to move from an empty cell. -/
theorem execute_move_of_empty (hc : m.program.contains m.active.current = true) {a b : Coord}
    (ha : m.resolve source = .ok a) (hb : m.resolve destination = .ok b)
    (hempty : m.memory.read a = none) :
    (m.replaceNode m.active.current (.data .move source destination next)).2.execute.1 =
      .error (.emptyCell a) := by
  have hstore : DataOp.move.store m.memory m.active.origin a b = .error (.emptyCell a) := by
    simp [DataOp.store, Memory.occupiedAt, hempty]
  rw [execute_fst_eq_error_iff, step_replaceNode hc]
  refine map_eq_error_iff.2 ?_
  refine bind_eq_error_iff.2 (.inr ⟨a, ha, ?_⟩)
  refine bind_eq_error_iff.2 (.inr ⟨b, hb, ?_⟩)
  exact bind_eq_error_iff.2 (.inl hstore)

/-- A move from an indirect source can be made as a fetch. -/
theorem LeadsTo.read_of_move (hc : m.program.contains m.active.current = true)
    (hs : source.indirection = .direct)
    (h : m.LeadsTo (.data .move source.indirect destination next) n) :
    m.LeadsTo (.data .read source destination next) n := by
  obtain ⟨c, b, store, hsource, hb, hstore, hn⟩ := (leadsTo_data_iff hc).1 h
  obtain ⟨a, ha, hpoints⟩ := (Memory.resolve_indirect_eq_ok_iff hs).1 hsource
  obtain ⟨cell, hcell, rfl⟩ := DataOp.store_move_eq_ok_iff.1 hstore
  refine (leadsTo_data_iff hc).2 ⟨a, b, _, ha, hb, ?_, hn⟩
  refine DataOp.store_read_eq_ok_iff.2 ⟨c, hpoints, ?_⟩
  rw [hcell]
  rfl

/-- A fetch can be made as a move from an indirect source, unless there is nothing to move. -/
theorem LeadsTo.move_of_read (hc : m.program.contains m.active.current = true)
    (hs : source.indirection = .direct)
    (h : m.LeadsTo (.data .read source destination next) n) :
    m.LeadsTo (.data .move source.indirect destination next) n ∨
      ∃ a c, m.resolve source = .ok a ∧ m.memory.Points m.active.origin a c ∧
        m.memory.read c = none ∧
        (m.replaceNode m.active.current
          (.data .move source.indirect destination next)).2.execute.1 = .error (.emptyCell c) ∧
        n.memory = m.memory ∧ n.stack = m.stack.modifyTop (·.advance next) ∧ n.flag = none := by
  obtain ⟨a, b, store, ha, hb, hstore, hmemory, hn⟩ := (leadsTo_data_iff hc).1 h
  obtain ⟨c, hpoints, rfl⟩ := DataOp.store_read_eq_ok_iff.1 hstore
  have hsource : m.resolve source.indirect = .ok c :=
    (Memory.resolve_indirect_eq_ok_iff hs).2 ⟨a, ha, hpoints⟩
  cases hcell : m.memory.read c with
  | some cell =>
    rw [hcell] at hmemory
    left
    refine (leadsTo_data_iff hc).2 ⟨c, b, _, hsource, hb, ?_, hmemory, hn⟩
    exact DataOp.store_move_eq_ok_iff.2 ⟨cell, hcell, rfl⟩
  | none =>
    rw [hcell] at hmemory
    right
    exact ⟨a, c, ha, hpoints, hcell, execute_move_of_empty hc hsource hb hcell, hmemory, hn⟩

/-- A store through a pointer is a move to an indirect destination. -/
theorem leadsTo_write_iff_move (hc : m.program.contains m.active.current = true)
    (hd : destination.indirection = .direct) :
    m.LeadsTo (.data .write source destination next) n ↔
      m.LeadsTo (.data .move source destination.indirect next) n := by
  rw [leadsTo_data_iff hc, leadsTo_data_iff hc]
  constructor
  · rintro ⟨a, b, store, ha, hb, hstore, hn⟩
    obtain ⟨c, cell, hpoints, hcell, rfl⟩ := DataOp.store_write_eq_ok_iff.1 hstore
    refine ⟨a, c, _, ha, ?_, DataOp.store_move_eq_ok_iff.2 ⟨cell, hcell, rfl⟩, hn⟩
    exact (Memory.resolve_indirect_eq_ok_iff hd).2 ⟨b, hb, hpoints⟩
  · rintro ⟨a, c, store, ha, hdestination, hstore, hn⟩
    obtain ⟨b, hb, hpoints⟩ := (Memory.resolve_indirect_eq_ok_iff hd).1 hdestination
    obtain ⟨cell, hcell, rfl⟩ := DataOp.store_move_eq_ok_iff.1 hstore
    exact ⟨a, b, _, ha, hb, DataOp.store_write_eq_ok_iff.2 ⟨c, cell, hpoints, hcell, rfl⟩, hn⟩

/-- **The operations on pointers agree with indirect operands**, at every node. From a direct
source, what a move from the indirect one leads to is what a fetch leads to; and the other way
round, unless the pointer leads to an empty cell, where the move traps and the fetch goes on with
the cells as they are. To a direct destination, a store through the pointer and a move to the
indirect one lead to the same. -/
theorem pointer_operations_agree (m : Machine)
    (hc : m.program.contains m.active.current = true) (source destination : Address)
    (next : NodeId) :
    (source.indirection = .direct → ∀ n,
      (m.LeadsTo (.data .move source.indirect destination next) n →
        m.LeadsTo (.data .read source destination next) n) ∧
      (m.LeadsTo (.data .read source destination next) n →
        m.LeadsTo (.data .move source.indirect destination next) n ∨
          ∃ a c, m.resolve source = .ok a ∧ m.memory.Points m.active.origin a c ∧
            m.memory.read c = none ∧
            (m.replaceNode m.active.current
              (.data .move source.indirect destination next)).2.execute.1 =
                .error (.emptyCell c) ∧
            n.memory = m.memory ∧ n.stack = m.stack.modifyTop (·.advance next) ∧
            n.flag = none)) ∧
    (destination.indirection = .direct → ∀ n,
      m.LeadsTo (.data .write source destination next) n ↔
        m.LeadsTo (.data .move source destination.indirect next) n) := by
  refine ⟨?_, ?_⟩
  · intro hs n
    exact ⟨LeadsTo.read_of_move hc hs, LeadsTo.move_of_read hc hs⟩
  · intro hd n
    exact leadsTo_write_iff_move hc hd

/-- Two pointers and a number, seen from the origin `(1, 0)`. The first pointer leads to its own
cell, the second one to an empty cell. -/
def selfPointer : Machine :=
  { ofMemory (.ofList
      [(⟨1, 1⟩, .pointer (.relative ⟨0, 1⟩)), (⟨1, 2⟩, .pointer (.absolute ⟨5, 5⟩)),
       (⟨1, 3⟩, .data 7)]) with
    stack := .root (.enter ⟨1, 0⟩ .zero ⟨0⟩) }

/-- Both ways of storing the number through the first pointer put it in the place of that pointer.
The second pointer can be fetched through, which changes no cell, but not moved from. -/
theorem selfPointer_agrees :
    (∃ n, selfPointer.LeadsTo (.data .write (.relative ⟨0, 3⟩) (.relative ⟨0, 1⟩) ⟨1⟩) n ∧
      selfPointer.LeadsTo (.data .move (.relative ⟨0, 3⟩) (.indirect (.relative ⟨0, 1⟩)) ⟨1⟩) n ∧
      n.memory.read ⟨1, 1⟩ = some (.data 7)) ∧
    ∃ n, selfPointer.LeadsTo (.data .read (.relative ⟨0, 2⟩) (.relative ⟨0, 3⟩) ⟨1⟩) n ∧
      (∃ c, (selfPointer.replaceNode ⟨0⟩
        (.data .move (.indirect (.relative ⟨0, 2⟩)) (.relative ⟨0, 3⟩) ⟨1⟩)).2.execute.1 =
          .error (.emptyCell c)) ∧
      n.memory = selfPointer.memory := by
  refine ⟨?_, ?_⟩
  · obtain ⟨-, hstore⟩ :=
      pointer_operations_agree selfPointer rfl (.relative ⟨0, 3⟩) (.relative ⟨0, 1⟩) ⟨1⟩
    have hwrite : selfPointer.LeadsTo (.data .write (.relative ⟨0, 3⟩) (.relative ⟨0, 1⟩) ⟨1⟩) _ :=
      leadsTo_of_execute rfl
    exact ⟨_, hwrite, (hstore rfl _).1 hwrite, rfl⟩
  · obtain ⟨hfetch, -⟩ :=
      pointer_operations_agree selfPointer rfl (.relative ⟨0, 2⟩) (.relative ⟨0, 3⟩) ⟨1⟩
    have hread : selfPointer.LeadsTo (.data .read (.relative ⟨0, 2⟩) (.relative ⟨0, 3⟩) ⟨1⟩) _ :=
      leadsTo_of_execute rfl
    refine ⟨_, hread, ?_⟩
    rcases (hfetch rfl _).2 hread with ⟨p, hmove⟩ | ⟨a, c, -, -, -, htrap, hmemory, -⟩
    · have htrap : Except.error (.emptyCell ⟨5, 5⟩) = (.ok true : Except Trap Bool) :=
        congrArg Prod.fst hmove
      cases htrap
    · exact ⟨⟨c, htrap⟩, hmemory⟩

end Machine

end GridMachine
