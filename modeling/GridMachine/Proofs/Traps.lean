import GridMachine.Proofs.Storing

/-! # What a step can trap for

A step traps for one of three reasons. An operand names no cell; or what stands in the cells, or in
the stack, is not of the kind that the instruction needs (`Trap.isMisfit`), which for a data
operation is the failure of `DataOp.Fits`; or all of that is in order, and the numbers and
coordinates in the cells lead nowhere (`DataOp.Hazard`), which only some of the data operations have
to fear. -/

namespace GridMachine

/-- Whether the trap says that a cell or the stack is not of the kind that is needed. -/
def Trap.isMisfit : Trap → Bool
  | emptyCell _ | notData _ | notAnAddress _ | returnFromRoot => true
  | _ => false

/-- Whether the cells `a`, the source, and `b`, the destination, are of the kind that the operation
needs. -/
def DataOp.Fits (op : DataOp) (m : Memory) (a b : Coord) : Prop :=
  match op with
  | addressOf => True
  | move => ∃ cell, m.read a = some cell
  | shift => (∃ x, m.read a = some (.data x)) ∧ ∃ p, m.read b = some (.pointer p)
  | read => ∃ p, m.read a = some (.pointer p)
  | write => (∃ cell, m.read a = some cell) ∧ ∃ p, m.read b = some (.pointer p)
  | arithmetic _ => (∃ x, m.read a = some (.data x)) ∧ ∃ y, m.read b = some (.data y)

/-- The traps that an operation can have on cells of the right kind. -/
inductive DataOp.Hazard : DataOp → Trap → Prop
  | divide (site : Coord) : Hazard (.arithmetic .divide) (.divisionByZero site)
  | modulo (site : Coord) : Hazard (.arithmetic .modulo) (.divisionByZero site)
  | amount (site : Coord) : Hazard .shift (.nonFiniteShift site)
  | shift (site : Coord) : Hazard .shift (.addressOutOfRange site)
  | read (site : Coord) : Hazard .read (.addressOutOfRange site)
  | write (site : Coord) : Hazard .write (.addressOutOfRange site)

variable {trap : Trap}

theorem DataOp.Hazard.exists_site {op : DataOp} (h : op.Hazard trap) :
    ∃ site, trap = .divisionByZero site ∨ trap = .nonFiniteShift site ∨
      trap = .addressOutOfRange site := by
  cases h with
  | divide site | modulo site => exact ⟨site, .inl rfl⟩
  | amount site => exact ⟨site, .inr (.inl rfl)⟩
  | shift site | read site | write site => exact ⟨site, .inr (.inr rfl)⟩

namespace Memory

variable {m : Memory} {c : Coord}

theorem NoNumber.isMisfit (h : m.NoNumber c trap) : trap.isMisfit = true := by
  cases h <;> rfl

theorem NoNumber.not_data (h : m.NoNumber c trap) : ¬∃ x, m.read c = some (.data x) := by
  rintro ⟨x, hx⟩
  cases h with
  | empty held =>
    rw [held] at hx
    cases hx
  | other held other => exact other x hx

theorem resolve_eq_error {origin : Coord} {a : Address} (h : m.resolve origin a = .error trap) :
    (∃ site, trap = .addressOutOfRange site) ∨ ∃ site, trap = .notAnAddress site := by
  unfold resolve at h
  rcases bind_eq_error_iff.1 h with h | ⟨hop, _, h⟩
  · exact .inl ⟨_, (Address.locate_eq_error h).1⟩
  · split at h
    · cases h
    · rcases bind_eq_error_iff.1 h with h | ⟨pointer, _, h⟩
      · exact .inr ⟨_, (pointerAt_eq_error h).1⟩
      · exact .inl ⟨_, (Address.locate_eq_error h).1⟩

end Memory

theorem DataOp.Stores.fits {op : DataOp} {m : Memory} {origin a b : Coord} {store : Option Store}
    (h : op.Stores m origin a b store) : op.Fits m a b := by
  cases h with
  | addressOf => trivial
  | shift destination source => exact ⟨⟨_, source⟩, _, destination⟩
  | read source | readEmpty source => exact ⟨_, source⟩
  | write destination pointee source => exact ⟨⟨_, source⟩, _, destination⟩
  | move source => exact ⟨_, source⟩
  | arithmetic destination source => exact ⟨⟨_, source⟩, _, destination⟩

/-- A data operation is refused on cells of the wrong kind, or runs into one of its hazards on cells
of the right kind. -/
theorem DataOp.Refuses.misfit_or_hazard {op : DataOp} {m : Memory} {origin a b : Coord}
    (h : op.Refuses m origin a b trap) :
    trap.isMisfit = true ∧ ¬op.Fits m a b ∨ op.Hazard trap ∧ op.Fits m a b := by
  cases h with
  | moveEmpty source => exact .inl ⟨rfl, by simp [Fits, source]⟩
  | shiftNoPointer destination => exact .inl ⟨rfl, fun hf => not_exists.2 destination hf.2⟩
  | shiftNoNumber source => exact .inl ⟨source.isMisfit, fun hf => source.not_data hf.1⟩
  | shiftNotFinite destination source =>
    exact .inr ⟨.amount a, ⟨_, source⟩, _, destination⟩
  | shiftTooFar destination source => exact .inr ⟨.shift a, ⟨_, source⟩, _, destination⟩
  | shiftOffGrid destination source => exact .inr ⟨.shift b, ⟨_, source⟩, _, destination⟩
  | readNoPointer source => exact .inl ⟨rfl, not_exists.2 source⟩
  | readOffGrid source => exact .inr ⟨.read a, _, source⟩
  | writeNoPointer destination => exact .inl ⟨rfl, fun hf => not_exists.2 destination hf.2⟩
  | writeEmpty source => exact .inl ⟨rfl, by simp [Fits, source]⟩
  | writeOffGrid destination source => exact .inr ⟨.write b, ⟨_, source⟩, _, destination⟩
  | noRight source => exact .inl ⟨source.isMisfit, fun hf => source.not_data hf.1⟩
  | noLeft destination => exact .inl ⟨destination.isMisfit, fun hf => destination.not_data hf.2⟩
  | divide destination source => exact .inr ⟨.divide a, ⟨_, source⟩, _, destination⟩
  | modulo destination source => exact .inr ⟨.modulo a, ⟨_, source⟩, _, destination⟩

namespace Machine

/-- The trap is that an operand of the node names no cell. -/
def Unresolved (m : Machine) (i : Instruction) (trap : Trap) : Prop :=
  ∃ a, (i.source? = some a ∨ i.destination? = some a) ∧ m.resolve a = .error trap

/-- All that a transfer can trap for are its operands. -/
theorem unresolved_of_enter {m : Machine} {i : Instruction} {target origin : Address}
    (ht : i.source? = some target) (ho : i.destination? = some origin)
    (h : m.enter target origin = .error trap) : m.Unresolved i trap := by
  rcases bind_eq_error_iff.1 h with h | ⟨a, _, h⟩
  · exact ⟨target, .inl ht, h⟩
  rcases bind_eq_error_iff.1 h with h | ⟨b, _, h⟩
  · exact ⟨origin, .inr ho, h⟩
  · cases h

/-- **The three reasons for a trap.** -/
theorem perform_eq_error {m : Machine} {i : Instruction} (h : m.perform i = .error trap) :
    m.Unresolved i trap ∨ trap.isMisfit = true ∨
      ∃ op, i.operation = .data op ∧ op.Hazard trap := by
  cases i with
  | nop => cases h
  | data op source destination next =>
    have h := map_eq_error_iff.1 h
    rcases bind_eq_error_iff.1 h with h | ⟨a, _, h⟩
    · exact .inl ⟨source, .inl rfl, h⟩
    rcases bind_eq_error_iff.1 h with h | ⟨b, _, h⟩
    · exact .inl ⟨destination, .inr rfl, h⟩
    rcases bind_eq_error_iff.1 h with h | ⟨store, _, h⟩
    · rcases (DataOp.Refuses.of_store h).misfit_or_hazard with ⟨h, _⟩ | ⟨h, _⟩
      · exact .inr (.inl h)
      · exact .inr (.inr ⟨op, rfl, h⟩)
    · cases h
  | branch test left right ifTrue ifFalse =>
    have h := map_eq_error_iff.1 h
    rcases bind_eq_error_iff.1 h with h | ⟨a, _, h⟩
    · exact .inl ⟨left, .inl rfl, h⟩
    rcases bind_eq_error_iff.1 h with h | ⟨x, _, h⟩
    · exact .inr (.inl (Memory.dataAt_eq_error h).isMisfit)
    rcases bind_eq_error_iff.1 h with h | ⟨b, _, h⟩
    · exact .inl ⟨right, .inr rfl, h⟩
    rcases bind_eq_error_iff.1 h with h | ⟨y, _, h⟩
    · exact .inr (.inl (Memory.dataAt_eq_error h).isMisfit)
    · cases h
  | call target origin link =>
    rcases bind_eq_error_iff.1 (map_eq_error_iff.1 h) with h | ⟨_, _, h⟩
    · exact .inl (unresolved_of_enter rfl rfl h)
    · cases h
  | jump target origin =>
    rcases bind_eq_error_iff.1 (map_eq_error_iff.1 h) with h | ⟨_, _, h⟩
    · exact .inl (unresolved_of_enter rfl rfl h)
    · cases h
  | ret =>
    have h := map_eq_error_iff.1 h
    unfold stepReturn at h
    split at h <;> cases h
    exact .inr (.inl rfl)

/-- A node that the program has is never unknown. -/
theorem perform_ne_unknown (m : Machine) (i : Instruction) (id : NodeId) :
    m.perform i ≠ .error (.unknownInstruction id) := by
  intro h
  rcases perform_eq_error h with ⟨a, _, h⟩ | h | ⟨op, _, h⟩
  · rcases Memory.resolve_eq_error h with ⟨_, h⟩ | ⟨_, h⟩ <;> cases h
  · cases h
  · cases h

end Machine

end GridMachine
