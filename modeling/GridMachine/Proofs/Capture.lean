import GridMachine.Proofs.Aliasing
import GridMachine.Proofs.Vetting

/-! # Captured addresses

Two operations keep an address for later use in other frames. Recording a call or a jump keeps the
address of the function, and storing the address of a cell keeps that of the cell. Both keep it as
an absolute one, and an absolute address counts to its own coordinates wherever it is used. For a
recorded target the coordinates come from a sum that wraps, made after the operand was resolved by a
sum that does not; since the operand came to a cell, nothing was there to wrap. -/

namespace GridMachine

namespace Address

variable {a : Address} {origin c : Coord}

/-- An absolute address counts to its coordinates, wherever it is counted from. -/
theorem counted_of_absolute (h : a.base = .absolute) (origin : Coord) :
    a.counted origin = a.coord.toInts := by
  rw [counted, h]

/-- Made absolute, an address counts from everywhere to where it counted. -/
theorem counted_toAbsolute (h : c.toInts = a.counted origin) (other : Coord) :
    (a.toAbsolute origin).counted other = c.toInts := by
  have hlocate : a.locate origin c = .ok c := locate_eq_ok_iff.2 h
  exact (locate_eq_ok_iff.1 (locate_toAbsolute hlocate other c)).symm

end Address

/-- An address that names a cell counts to a first cell on the grid. -/
theorem Memory.exists_first {m : Memory} {origin c : Coord} {a : Address}
    (h : m.resolve origin a = .ok c) : ∃ first : Coord, first.toInts = a.counted origin := by
  obtain ⟨first, hfirst, -⟩ := bind_eq_ok_iff.1 h
  exact ⟨first, Address.locate_eq_ok_iff.1 hfirst⟩

namespace Machine

variable {m n : Machine} {source destination : Address} {op : Operation} {c : Coord}

/-! ## The target of a call or jump -/

/-- The address `target` means, in every frame, what `source` means in the active frame of `m`. -/
structure Captures (m : Machine) (source target : Address) : Prop where
  /-- The coordinates are the sums without bounds. -/
  exact : target.coord.toInts = source.counted m.active.origin
  /-- A direct address names the same cell from everywhere, whatever the cells hold. -/
  direct : source.indirection = .direct →
    ∃ c, m.resolve source = .ok c ∧
      ∀ (memory : Memory) (origin : Coord), memory.resolve origin target = .ok c
  /-- An indirect one goes through the same cell from everywhere, and names the same cell as long
  as the same pointer is there and is absolute. -/
  indirect : source.indirection = .indirect →
    ∃ hop p c, m.GoesThrough source hop ∧ m.memory.read hop = some (.pointer p) ∧
      m.resolve source = .ok c ∧
      (∀ (memory : Memory) (origin : Coord), memory.resolve origin target =
        memory.pointerAt hop >>= fun q => q.locate origin hop) ∧
      (p.base = .absolute → ∀ (memory : Memory) (origin : Coord),
        memory.read hop = some (.pointer p) → memory.resolve origin target = .ok c)

/-- **An operand that names a cell is captured by making it absolute.** -/
theorem captures_of_resolve (h : m.resolve source = .ok c) :
    m.Captures source (source.toAbsolute m.active.origin) := by
  obtain ⟨hop, first⟩ := Memory.exists_first h
  have hcounted := Address.counted_toAbsolute first
  refine ⟨?_, fun kind => ⟨c, h, ?_⟩, fun kind => ?_⟩
  · rw [← Address.counted_of_absolute (source.toAbsolute_base m.active.origin) .zero, hcounted]
    exact first
  · have hhop : m.resolve source = .ok hop := Memory.resolve_of_direct first kind
    obtain rfl := Except.ok.inj (h.symm.trans hhop)
    intro memory origin
    exact Memory.resolve_of_direct (hcounted origin).symm
      ((source.toAbsolute_indirection _).trans kind)
  · have kind' : (source.toAbsolute m.active.origin).indirection = .indirect :=
      (source.toAbsolute_indirection _).trans kind
    have hthrough : m.resolve source = m.memory.pointerAt hop >>= _ :=
      Memory.resolve_of_indirect first kind
    obtain ⟨p, hp, hc⟩ := bind_eq_ok_iff.1 (hthrough.symm.trans h)
    refine ⟨hop, p, c, ⟨kind, first⟩, Memory.pointerAt_eq_ok_iff.1 hp, h, ?_, ?_⟩
    · intro memory origin
      exact Memory.resolve_of_indirect (hcounted origin).symm kind'
    · intro hbase memory origin held
      rw [Memory.resolve_of_pointer (hcounted origin).symm kind' held, Address.locate_eq_ok_iff,
        Address.counted_of_absolute hbase, ← Address.counted_of_absolute hbase m.active.origin]
      exact Address.locate_eq_ok_iff.1 hc

/-- The operands of a transfer that can be recorded name cells. -/
theorem resolve_of_suits (hop : op = .call ∨ op = .jump) (h : m.Suits source destination op) :
    ∃ c, m.resolve source = .ok c := by
  rcases hop with rfl | rfl <;> obtain ⟨c, -, hc, -⟩ := h <;> exact ⟨c, hc⟩

/-- Whatever node is found at the current name after a splice is the one that was made. -/
theorem makes_of_get?_graft (hop : op ≠ .nop) {i : Instruction}
    (h : (m.graft source destination op).program.get? m.active.current = some i) :
    m.Makes source destination op i := by
  obtain ⟨p, j, hgraft, -, -, makes⟩ := graft_eq_overwrite hop m source destination
  rw [hgraft] at h
  have hp : p.contains m.active.current = true := by
    have hsize := p.size_set m.active.current j
    exact Program.contains_of_size_le (Nat.le_of_eq hsize) (Program.contains_of_get? h)
  have hj : (m.overwrite p j).program.get? m.active.current = some j := Program.get?_set_self hp j
  obtain rfl := Option.some.inj (hj.symm.trans h)
  exact makes

/-! ## The address of a cell -/

/-- The stored pointer leads to the cell from everywhere. -/
theorem resolve_through_absolute {memory : Memory} {a b : Coord}
    (held : memory.read b = some (.pointer (.absolute a))) (origin : Coord) :
    memory.resolve origin (.indirect (.absolute b)) = .ok a :=
  Memory.Resolves.resolve_eq (.indirect rfl rfl held rfl)

theorem Step.stored_address {next : NodeId} (h : Step m n)
    (hi : m.currentInstruction? = some (.data .addressOf source destination next)) :
    ∃ a b, m.resolve source = .ok a ∧ m.resolve destination = .ok b ∧
      n.memory.read b = some (.pointer (.absolute a)) := by
  obtain ⟨i, hi', heffect⟩ := h.effect
  obtain rfl := Option.some.inj (hi.symm.trans hi')
  cases heffect with
  | @data _ _ _ _ a b _ source_at destination_at stores memory =>
    cases stores
    refine ⟨a, b, source_at, destination_at, ?_⟩
    rw [memory b]
    exact if_pos rfl

/-- **Captured addresses mean the same cell from every frame.** The target of a recorded call or
jump means what its operand meant when it was recorded, and its coordinates were not wrapped. The
pointer stored by taking the address of a cell leads to that cell, from every origin and in every
memory that still holds it. -/
theorem captured_addresses_fixed :
    (∀ (m n : Machine) (source destination : Address) (op : Operation) (id : NodeId),
      op = .call ∨ op = .jump → m.splice source destination op = (.ok id, n) →
      (m.program.contains m.active.current = true → ∃ i, n.program.get? id = some i) ∧
      ∀ i, n.program.get? id = some i →
        i.operation = op ∧ ∃ target, i.source? = some target ∧ m.Captures source target) ∧
    ∀ (m n : Machine) (source destination : Address) (next : NodeId),
      m.currentInstruction? = some (.data .addressOf source destination next) →
      m.execute = (.ok true, n) →
      ∃ a b p, m.resolve source = .ok a ∧ m.resolve destination = .ok b ∧
        n.memory.read b = some (.pointer p) ∧
        ∀ (memory : Memory) (origin : Coord), memory.read b = some (.pointer p) →
          memory.resolve origin (.indirect (.absolute b)) = .ok a := by
  refine ⟨?_, ?_⟩
  · intro m n source destination op id htransfer h
    obtain ⟨hsuits, rfl, rfl⟩ := splice_eq_ok_iff.1 h
    have hop : op ≠ .nop := by rcases htransfer with rfl | rfl <;> decide
    refine ⟨?_, ?_⟩
    · intro hc
      obtain ⟨i, hspliced⟩ := graft_spliced hc hop source destination
      exact ⟨i, hspliced.node⟩
    · intro i hi
      have makes := makes_of_get?_graft hop hi
      obtain ⟨c, hc⟩ := resolve_of_suits htransfer hsuits
      refine ⟨makes.operation, source.toAbsolute m.active.origin, ?_, captures_of_resolve hc⟩
      rw [makes.source]
      rcases htransfer with rfl | rfl <;> rfl
  · intro m n source destination next hi h
    obtain ⟨a, b, ha, hb, held⟩ := (execute_eq_true_iff.1 h).stored_address hi
    exact ⟨a, b, _, ha, hb, held, fun memory origin hheld => resolve_through_absolute hheld origin⟩

/-- A frame with the origin `(1, 1)`, over an absolute pointer, about to store the address of a cell
in the last row. -/
def awayFromZero : Machine :=
  { ofMemory (.ofList [(⟨3, 3⟩, .pointer (.absolute ⟨9, 9⟩))]) with
    program := ⟨#[.data .addressOf (.relative ⟨Int64.maxValue - 1, 0⟩) (.relative ⟨0, 1⟩) ⟨0⟩]⟩
    stack := .root (.enter ⟨1, 1⟩ .zero ⟨0⟩) }

/-- A call through the pointer, recorded here, calls the function at `(9, 9)` from every frame. The
stored address leads to the last row from every frame, also from one below the zero row. -/
theorem awayFromZero_captured :
    (∃ n i target,
      awayFromZero.splice (.indirect (.relative ⟨2, 2⟩)) (.relative .zero) .call = (.ok ⟨0⟩, n) ∧
      n.program.get? ⟨0⟩ = some i ∧ i.source? = some target ∧
      ∀ origin, awayFromZero.memory.resolve origin target = .ok ⟨9, 9⟩) ∧
    ∃ n, awayFromZero.execute = (.ok true, n) ∧
      ∀ origin, n.memory.resolve origin (.indirect (.absolute ⟨1, 2⟩)) =
        .ok ⟨Int64.maxValue, 1⟩ := by
  obtain ⟨hspliced, hstored⟩ := captured_addresses_fixed
  refine ⟨?_, ?_⟩
  · have hsplice : awayFromZero.splice (.indirect (.relative ⟨2, 2⟩)) (.relative .zero) .call =
        (.ok ⟨0⟩, _) := rfl
    obtain ⟨hnode, hcaptures⟩ := hspliced _ _ _ _ _ _ (.inl rfl) hsplice
    obtain ⟨i, hi⟩ := hnode rfl
    obtain ⟨-, target, htarget, hcapture⟩ := hcaptures i hi
    obtain ⟨hop, p, c, hthrough, hp, hc, -, hfixed⟩ := hcapture.indirect rfl
    obtain rfl : hop = ⟨3, 3⟩ := Coord.toInts_inj hthrough.2
    obtain rfl : Address.absolute ⟨9, 9⟩ = p := Cell.pointer.inj (Option.some.inj hp)
    obtain rfl : ⟨9, 9⟩ = c := Except.ok.inj hc
    exact ⟨_, i, target, hsplice, hi, htarget, fun origin => hfixed rfl _ origin hp⟩
  · have hexecute : awayFromZero.execute = (.ok true, _) := rfl
    obtain ⟨a, b, p, ha, hb, hp, hfixed⟩ := hstored _ _ _ _ _ rfl hexecute
    obtain rfl : ⟨Int64.maxValue, 1⟩ = a := Except.ok.inj ha
    obtain rfl : ⟨1, 2⟩ = b := Except.ok.inj hb
    exact ⟨_, hexecute, fun origin => hfixed _ origin hp⟩

end Machine

end GridMachine
