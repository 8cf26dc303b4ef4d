import GridMachine.Proofs.Effect
import GridMachine.Proofs.Vetting

/-! # Errors are true

A trap or a rejection names a site and says what is the matter there. `Trap.TrueOf` and
`Rejection.TrueOf` spell out what each of them says of the machine, of the operation and of its
operands, in terms of what the cells hold and of sums without bounds. An error comes from the first
look that fails, and speaks of what the looks before it found. `Grounded` carries that along a
sequence of looks, so that it is enough to know of each kind of look what its failure says. -/

namespace GridMachine

/-! ## Errors of work in several parts -/

section Grounded

variable {ε α β : Type} {P : ε → Prop} {x : Except ε α}

/-- Every error that comes of `x` is one of those that `P` holds of. -/
def Grounded (P : ε → Prop) (x : Except ε α) : Prop := ∀ e, x = .error e → P e

namespace Grounded

theorem ok (a : α) : Grounded P (.ok a) := nofun

theorem error {e : ε} (h : P e) : Grounded P (.error e : Except ε α) := by
  intro e' he
  rw [← Except.error.inj he]
  exact h

/-- The second part can rely on what came of the first. -/
theorem bind {f : α → Except ε β} (hx : Grounded P x)
    (hf : ∀ a, x = .ok a → Grounded P (f a)) : Grounded P (x >>= f) := by
  intro e he
  rcases bind_eq_error_iff.1 he with he | ⟨a, ha, he⟩
  · exact hx e he
  · exact hf a ha e he

theorem map (hx : Grounded P x) (g : α → β) : Grounded P (g <$> x) := by
  intro e he
  exact hx e (map_eq_error_iff.1 he)

end Grounded

end Grounded

/-! ## What a trap says -/

/-- The address is relative, and counts off the grid from `origin`. -/
def Address.Overshoots (a : Address) (origin : Coord) : Prop :=
  a.base = .relative ∧ ¬OnGrid (a.counted origin)

/-- What the trap says of the machine, when it is asked for the operation on the operands `source`
and `destination`. -/
def Trap.TrueOf (m : Machine) (op : Operation) (source destination : Option Address) : Trap → Prop
  | notAnAddress site => ∀ p, m.memory.read site ≠ some (.pointer p)
  | emptyCell site => m.memory.read site = none
  | notData site => m.memory.read site ≠ none ∧ ∀ x, m.memory.read site ≠ some (.data x)
  | divisionByZero site =>
    ∃ x, m.memory.read site = some (.data x) ∧
      (op = .data (.arithmetic .divide) ∧ (∃ negative, Exact.ofFloat x = .finite negative 0) ∨
        op = .data (.arithmetic .modulo) ∧ (Exact.ofFloat x).floor? = some 0)
  | addressOutOfRange site =>
    (∃ a, (source = some a ∨ destination = some a) ∧ a.coord = site ∧
      a.Overshoots m.active.origin) ∨
    (∃ p, m.memory.read site = some (.pointer p) ∧ p.Overshoots m.active.origin) ∨
    op = .data .shift ∧
      ((∃ p a x columns, m.memory.read site = some (.pointer p) ∧ source = some a ∧
        m.read a = .ok (some (.data x)) ∧ (Exact.ofFloat x).floor? = some columns ∧
        OffRange (p.coord.col.toInt + columns)) ∨
      ∃ x columns, m.memory.read site = some (.data x) ∧
        (Exact.ofFloat x).floor? = some columns ∧ OffRange columns)
  | nonFiniteShift site =>
    op = .data .shift ∧ ∃ x, m.memory.read site = some (.data x) ∧
      (Exact.ofFloat x = .undefined ∨ ∃ negative, Exact.ofFloat x = .infinite negative)
  | returnFromRoot => op = .ret ∧ m.depth = 1
  -- A node that is there to be performed is known.
  | unknownInstruction _ => False

theorem Address.Overshoots.of_offGrid {a : Address} {origin : Coord}
    (off : ¬OnGrid (a.counted origin)) : a.Overshoots origin := by
  refine ⟨?_, off⟩
  cases hb : a.base with
  | relative => rfl
  | absolute =>
    -- An absolute address is a coordinate, and so is on the grid.
    refine absurd (onGrid_iff.2 ⟨a.coord, ?_⟩) off
    rw [counted, hb]

namespace Machine

variable {m : Machine} {op : Operation} {source destination : Option Address}

/-! ## Looks at a cell -/

theorem trueOf_of_noNumber {c : Coord} {trap : Trap} (h : m.memory.NoNumber c trap) :
    Trap.TrueOf m op source destination trap := by
  cases h with
  | empty held => exact held
  | other held other => exact ⟨held, other⟩

theorem dataAt_grounded (c : Coord) :
    Grounded (Trap.TrueOf m op source destination) (m.memory.dataAt c) := by
  intro trap h
  exact trueOf_of_noNumber (Memory.dataAt_eq_error h)

theorem resolve_grounded {a : Address} (ha : source = some a ∨ destination = some a) :
    Grounded (Trap.TrueOf m op source destination) (m.resolve a) := by
  intro trap h
  cases Memory.resolve_eq_iff.1 h with
  | offGrid off => exact .inl ⟨a, ha, rfl, .of_offGrid off⟩
  | pointeeOffGrid first kind held off => exact .inr (.inl ⟨_, held, .of_offGrid off⟩)
  | notPointer first kind other => exact other

/-! ## Traps -/

/-- A pointer that is off the grid is blamed on the cell that keeps it. -/
theorem trueOf_of_pointer {p : Address} {site : Coord}
    (held : m.memory.read site = some (.pointer p)) (off : ¬OnGrid (p.counted m.active.origin)) :
    Trap.TrueOf m op source destination (.addressOutOfRange site) :=
  .inr (.inl ⟨p, held, .of_offGrid off⟩)

/-- **Every trap of an operation on data is true.** -/
theorem trueOf_of_refuses {op : DataOp} {source : Address} {a b : Coord} {trap : Trap}
    (ha : m.resolve source = .ok a) (h : op.Refuses m.memory m.active.origin a b trap) :
    Trap.TrueOf m (.data op) (some source) destination trap := by
  cases h with
  | moveEmpty source | writeEmpty source => exact source
  | shiftNoPointer other | readNoPointer other | writeNoPointer other => exact other
  | shiftNoNumber look | noRight look | noLeft look => exact trueOf_of_noNumber look
  | @shiftNotFinite p x destination source value =>
    exact ⟨rfl, x, source, Exact.floor?_eq_none (by rw [Exact.floor?_ofFloat, value]; rfl)⟩
  | @shiftTooFar p x q destination source value off =>
    refine .inr (.inr ⟨rfl, .inr ⟨x, ⌊q⌋, source, ?_, off⟩⟩)
    exact Exact.floor?_of_dyadic? value
  | @shiftOffGrid p x q destination amount value off =>
    refine .inr (.inr ⟨rfl, .inl ⟨p, source, x, ⌊q⌋, destination, rfl, ?_, ?_, off⟩⟩)
    · exact read_of_dataAt ha (Memory.dataAt_eq_ok_iff.2 amount)
    · exact Exact.floor?_of_dyadic? value
  | readOffGrid source off => exact trueOf_of_pointer source off
  | writeOffGrid destination source off => exact trueOf_of_pointer destination off
  | @divide left right destination source zero =>
    refine ⟨right, source, .inl ⟨rfl, ?_⟩⟩
    exact Exact.isZero_iff.1 (Exact.isZero_ofFloat_iff.2 zero)
  | @modulo left right q destination source value zero =>
    refine ⟨right, source, .inr ⟨rfl, ?_⟩⟩
    rw [Exact.floor?_of_dyadic? value, zero]

theorem enter_grounded {target origin : Address} :
    Grounded (Trap.TrueOf m op (some target) (some origin)) (m.enter target origin) := by
  refine (resolve_grounded (.inl rfl)).bind fun a _ => ?_
  exact (resolve_grounded (.inr rfl)).bind fun b _ => .ok _

theorem depth_eq_one_of_lt (h : m.depth < 2) : m.depth = 1 := by
  have hpos : 1 ≤ m.depth := Nat.le_add_left 1 _
  omega

/-- **Every trap of a node is true.** -/
theorem perform_grounded (m : Machine) (i : Instruction) :
    Grounded (Trap.TrueOf m i.operation i.source? i.destination?) (m.perform i) := by
  cases i with
  | nop => exact .ok _
  | data op source destination next =>
    refine Grounded.map (.bind (resolve_grounded (.inl rfl)) fun a ha => ?_) some
    refine (resolve_grounded (.inr rfl)).bind fun b _ => ?_
    refine Grounded.bind (fun trap h => ?_) fun _ _ => .ok _
    exact trueOf_of_refuses ha (.of_store h)
  | branch test left right ifTrue ifFalse =>
    refine Grounded.map (.bind (resolve_grounded (.inl rfl)) fun a _ => ?_) some
    refine (dataAt_grounded a).bind fun x _ => ?_
    refine (resolve_grounded (.inr rfl)).bind fun b _ => ?_
    exact (dataAt_grounded b).bind fun _ _ => .ok _
  | call target origin link => exact Grounded.map (enter_grounded.bind fun _ _ => .ok _) some
  | jump target origin => exact Grounded.map (enter_grounded.bind fun _ _ => .ok _) some
  | ret =>
    refine Grounded.map ?_ some
    unfold stepReturn
    cases hpop : m.stack.pop? with
    | some stack => exact .ok _
    | none => exact .error ⟨rfl, depth_eq_one_of_lt (Stack.pop?_eq_none_iff.1 hpop)⟩

end Machine

/-! ## What a rejection says -/

/-- What the rejection says of the machine, when the operation is to be recorded on these operands.
Besides what the cell holds, it says which operand names it. -/
def Rejection.TrueOf (m : Machine) (op : Operation) (source destination : Address) :
    Rejection → Prop
  | emptyOperand site => m.resolve source = .ok site ∧ m.memory.read site = none
  | expectedData site =>
    (m.resolve source = .ok site ∨ m.resolve destination = .ok site) ∧
      ∀ x, m.memory.read site ≠ some (.data x)
  | expectedAddress site =>
    (m.resolve source = .ok site ∨ m.resolve destination = .ok site) ∧
      ∀ p, m.memory.read site ≠ some (.pointer p)
  | expectedCodeOrEmpty site =>
    (op = .call ∨ op = .jump) ∧ m.resolve source = .ok site ∧ m.memory.read site ≠ none ∧
      ∀ entry, m.memory.read site ≠ some (.code entry)
  | returnFromRoot => op = .ret ∧ m.depth = 1
  | unresolvedOperand trap =>
    (m.resolve source = .error trap ∨ m.resolve destination = .error trap) ∧
      trap.TrueOf m op (some source) (some destination)

namespace Machine

variable {m : Machine} {op : Operation} {source destination : Address} {site : Coord}

theorem operand_grounded {a : Address} (ha : a = source ∨ a = destination) :
    Grounded (Rejection.TrueOf m op source destination) (m.operand a) := by
  unfold operand
  cases hr : m.resolve a with
  | ok site => exact .ok _
  | error trap =>
    have htrap : trap.TrueOf m op (some source) (some destination) :=
      resolve_grounded (ha.imp (congrArg some ·.symm) (congrArg some ·.symm)) trap hr
    rcases ha with rfl | rfl
    · exact .error ⟨.inl hr, htrap⟩
    · exact .error ⟨.inr hr, htrap⟩

theorem expectOccupied_grounded (hs : m.resolve source = .ok site) :
    Grounded (Rejection.TrueOf m op source destination)
      (Operand.expectOccupied ⟨site, m.memory.read site⟩) := by
  unfold Operand.expectOccupied
  cases hc : m.memory.read site with
  | some cell => exact .ok ()
  | none => exact .error ⟨hs, hc⟩

theorem expectData_grounded
    (hs : m.resolve source = .ok site ∨ m.resolve destination = .ok site) :
    Grounded (Rejection.TrueOf m op source destination)
      (Operand.expectData ⟨site, m.memory.read site⟩) := by
  unfold Operand.expectData
  split
  · exact .ok ()
  · rename_i hother
    exact .error ⟨hs, hother⟩

theorem expectAddress_grounded
    (hs : m.resolve source = .ok site ∨ m.resolve destination = .ok site) :
    Grounded (Rejection.TrueOf m op source destination)
      (Operand.expectAddress ⟨site, m.memory.read site⟩) := by
  unfold Operand.expectAddress
  split
  · exact .ok ()
  · rename_i hother
    exact .error ⟨hs, hother⟩

theorem expectCodeOrEmpty_grounded (hop : op = .call ∨ op = .jump)
    (hs : m.resolve source = .ok site) :
    Grounded (Rejection.TrueOf m op source destination)
      (Operand.expectCodeOrEmpty ⟨site, m.memory.read site⟩) := by
  unfold Operand.expectCodeOrEmpty
  split
  · exact .ok ()
  · exact .ok ()
  · rename_i cell hother hc
    refine .error ⟨hop, hs, ?_, fun entry he => hother entry ?_⟩
    · rw [show m.memory.read site = some cell from hc]
      nofun
    · exact Option.some.inj (hc.symm.trans he)

theorem vetData_grounded {op : DataOp} {a b : Coord} (ha : m.resolve source = .ok a)
    (hb : m.resolve destination = .ok b) :
    Grounded (Rejection.TrueOf m (.data op) source destination)
      (op.vet ⟨a, m.memory.read a⟩ ⟨b, m.memory.read b⟩) := by
  cases op with
  | addressOf => exact .ok ()
  | move => exact expectOccupied_grounded ha
  | shift =>
    exact (expectData_grounded (.inl ha)).bind fun _ _ => expectAddress_grounded (.inr hb)
  | read => exact expectAddress_grounded (.inl ha)
  | write => exact (expectOccupied_grounded ha).bind fun _ _ => expectAddress_grounded (.inr hb)
  | arithmetic =>
    exact (expectData_grounded (.inl ha)).bind fun _ _ => expectData_grounded (.inr hb)

theorem vetTransfer_grounded (hop : op = .call ∨ op = .jump) :
    Grounded (Rejection.TrueOf m op source destination) (m.vet source destination op) := by
  have hvet : m.vet source destination op = (do
      let target ← m.operand source
      target.expectCodeOrEmpty
      let _ ← m.operand destination) := by
    rcases hop with rfl | rfl <;> rfl
  rw [hvet]
  refine (operand_grounded (.inl rfl)).bind fun x hx => ?_
  obtain ⟨a, ha, rfl⟩ := operand_eq_ok_iff.1 hx
  refine (expectCodeOrEmpty_grounded hop ha).bind fun _ _ => ?_
  exact (operand_grounded (.inr rfl)).bind fun _ _ => .ok _

/-- **Every rejection is true.** -/
theorem vet_grounded (m : Machine) (source destination : Address) (op : Operation) :
    Grounded (Rejection.TrueOf m op source destination) (m.vet source destination op) := by
  cases op with
  | nop => exact .ok ()
  | data op =>
    refine (operand_grounded (.inl rfl)).bind fun x hx => ?_
    obtain ⟨a, ha, rfl⟩ := operand_eq_ok_iff.1 hx
    refine (operand_grounded (.inr rfl)).bind fun y hy => ?_
    obtain ⟨b, hb, rfl⟩ := operand_eq_ok_iff.1 hy
    exact vetData_grounded ha hb
  | branch test =>
    refine (operand_grounded (.inl rfl)).bind fun x hx => ?_
    obtain ⟨a, ha, rfl⟩ := operand_eq_ok_iff.1 hx
    refine (expectData_grounded (.inl ha)).bind fun _ _ => ?_
    refine (operand_grounded (.inr rfl)).bind fun y hy => ?_
    obtain ⟨b, hb, rfl⟩ := operand_eq_ok_iff.1 hy
    exact expectData_grounded (.inr hb)
  | call => exact vetTransfer_grounded (.inl rfl)
  | jump => exact vetTransfer_grounded (.inr rfl)
  | ret =>
    show Grounded _ (if m.depth < 2 then .error Rejection.returnFromRoot else .ok ())
    split
    · rename_i hdepth
      exact .error ⟨rfl, depth_eq_one_of_lt hdepth⟩
    · exact .ok ()

theorem splice_fst_eq_error_iff {reason : Rejection} :
    (m.splice source destination op).1 = .error reason ↔
      m.vet source destination op = .error reason := by
  rw [splice_eq]
  cases m.vet source destination op <;> simp

/-! ## Errors -/

/-- **Errors are true of the state that they are reported in**, whatever that state is. A trap is
true of the node that was to be executed, or says rightly that there is none; a rejection is true of
the operation that was to be recorded. -/
theorem errors_true (m : Machine) :
    (∀ trap, m.execute.1 = .error trap →
      (∃ i, m.currentInstruction? = some i ∧
        trap.TrueOf m i.operation i.source? i.destination?) ∨
      trap = .unknownInstruction m.active.current ∧
        m.program.contains m.active.current = false) ∧
    ∀ source destination op reason, (m.splice source destination op).1 = .error reason →
      reason.TrueOf m op source destination := by
  refine ⟨?_, ?_⟩
  · intro trap h
    rw [execute_fst_eq_error_iff] at h
    cases hi : m.currentInstruction? with
    | some i =>
      rw [step_of_current hi] at h
      exact .inl ⟨i, rfl, m.perform_grounded i trap h⟩
    | none =>
      rw [step_of_absent hi] at h
      refine .inr ⟨(Except.error.inj h).symm, Program.contains_eq_false_iff.2 ?_⟩
      exact Array.getElem?_eq_none_iff.1 hi
  · intro source destination op reason h
    exact m.vet_grounded source destination op reason (splice_fst_eq_error_iff.1 h)

/-- A fetch through a pointer that leads below the last row, seen from the origin `(1, 0)`. -/
def edgeFetch : Machine :=
  { ofMemory (.ofList [(⟨3, 0⟩, .pointer (.relative ⟨Int64.maxValue, 0⟩))]) with
    program := ⟨#[.data .read (.absolute ⟨3, 0⟩) (.absolute ⟨4, 0⟩) ⟨0⟩]⟩
    stack := .root (.enter ⟨1, 0⟩ .zero ⟨0⟩) }

/-- The trap is put down to the cell of the pointer, and there is a pointer off the grid in it. A
move from its destination is rejected over that cell, which is empty. -/
theorem edgeFetch_errors_true :
    edgeFetch.execute.1 = .error (.addressOutOfRange ⟨3, 0⟩) ∧
      (∃ p, edgeFetch.memory.read ⟨3, 0⟩ = some (.pointer p) ∧ p.Overshoots ⟨1, 0⟩) ∧
      (edgeFetch.splice (.absolute ⟨4, 0⟩) (.absolute ⟨3, 0⟩) (.data .move)).1 =
        .error (.emptyOperand ⟨4, 0⟩) ∧
      edgeFetch.memory.read ⟨4, 0⟩ = none := by
  obtain ⟨htrap, hrejection⟩ := errors_true edgeFetch
  have hempty := hrejection (.absolute ⟨4, 0⟩) (.absolute ⟨3, 0⟩) (.data .move)
    (.emptyOperand ⟨4, 0⟩) rfl
  refine ⟨rfl, ?_, rfl, hempty.2⟩
  rcases htrap _ rfl with ⟨i, hi, htrue⟩ | ⟨hunknown, -⟩
  · obtain rfl := Option.some.inj hi
    rcases htrue with ⟨a, ha, -, hover⟩ | hpointer | ⟨hshift, -⟩
    · -- Both operands are absolute, and do not overshoot.
      rcases ha with ha | ha <;> obtain rfl := Option.some.inj ha <;> cases hover.1
    · exact hpointer
    · cases hshift
  · cases hunknown

end Machine

end GridMachine
