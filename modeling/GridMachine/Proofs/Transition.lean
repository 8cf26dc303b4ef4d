import GridMachine.Machine.Step

/-! # A step as a function of the state

The machine executes a node by changing itself in place, and what it changed before a trap stays
changed. This file gives the step a second reading, as a function: the next state, or nothing at a
placeholder, or the trap. First each kind of node is shown to look before it changes anything, so
that its in-place execution is all or nothing; `execute_eq` collects them. Then `Step` lists what a
step can do, one case for each kind of node, and every invariant of the machine is proved from that
list. -/

namespace GridMachine

/-! ## Work in two parts -/

section Bind

variable {ε α β : Type} {x : Except ε α} {f : α → Except ε β}

@[simp]
theorem ok_bind (a : α) : Except.ok a >>= f = f a := rfl

@[simp]
theorem error_bind (e : ε) : Except.error e >>= f = .error e := rfl

@[simp]
theorem map_ok (g : α → β) (a : α) : g <$> (.ok a : Except ε α) = .ok (g a) := rfl

@[simp]
theorem map_error (g : α → β) (e : ε) : g <$> (.error e : Except ε α) = .error e := rfl

theorem bind_eq_ok_iff {b : β} : x >>= f = .ok b ↔ ∃ a, x = .ok a ∧ f a = .ok b := by
  cases x <;> simp

theorem bind_eq_error_iff {e : ε} :
    x >>= f = .error e ↔ x = .error e ∨ ∃ a, x = .ok a ∧ f a = .error e := by
  cases x <;> simp

theorem map_eq_ok_iff {g : α → β} {b : β} : g <$> x = .ok b ↔ ∃ a, x = .ok a ∧ g a = b := by
  cases x <;> simp

theorem map_eq_error_iff {g : α → β} {e : ε} : g <$> x = .error e ↔ x = .error e := by
  cases x <;> simp

end Bind

/-! ## The function -/

namespace Machine

/-- Let the active frame go on at `next`. -/
def advance (m : Machine) (next : NodeId) : Machine :=
  { m with stack := m.stack.modifyTop (·.advance next) }

/-- The entry of the function at `place`, and the state in which there is one. -/
def define (m : Machine) (place : Coord) : NodeId × Machine :=
  match m.memory.read place with
  | some (.code entry) => (entry, m)
  | _ =>
    let entry := m.program.fresh
    (entry,
      { m with program := m.program.push .nop, memory := m.memory.write place (.code entry) })

def stepData (m : Machine) (op : DataOp) (source destination : Address) (next : NodeId) :
    Except Trap Machine := do
  let source ← m.resolve source
  let destination ← m.resolve destination
  let store ← op.store m.memory m.active.origin source destination
  return { m.advance next with memory := m.memory.apply store, flag := none }

def stepBranch (m : Machine) (test : Comparison) (left right : Address) (ifTrue ifFalse : NodeId) :
    Except Trap Machine := do
  let place ← m.resolve left
  let left ← m.memory.dataAt place
  let place ← m.resolve right
  let right ← m.memory.dataAt place
  let taken := test.holds left right
  return { m.advance (if taken then ifTrue else ifFalse) with flag := some taken }

/-- The frame that runs the function at `target`, and the state in which there is one. -/
def enter (m : Machine) (target origin : Address) : Except Trap (Frame × Machine) := do
  let target ← m.resolve target
  let origin ← m.resolve origin
  let (entry, m) := m.define target
  return (.enter origin target entry, m)

def stepCall (m : Machine) (target origin : Address) (link : NodeId) : Except Trap Machine := do
  let (frame, m) ← m.enter target origin
  let m := m.advance link
  return { m with stack := m.stack.push frame, flag := none }

def stepJump (m : Machine) (target origin : Address) : Except Trap Machine := do
  let (frame, m) ← m.enter target origin
  return { m with stack := m.stack.modifyTop fun _ => frame, flag := none }

def stepReturn (m : Machine) : Except Trap Machine :=
  match m.stack.pop? with
  | some stack => .ok { m with stack := stack, flag := none }
  | none => .error .returnFromRoot

/-- The state after executing the node `i`, or none where `i` is a placeholder. -/
def perform (m : Machine) : Instruction → Except Trap (Option Machine)
  | .nop => return none
  | .data op source destination next => some <$> m.stepData op source destination next
  | .branch test left right ifTrue ifFalse => some <$> m.stepBranch test left right ifTrue ifFalse
  | .call target origin link => some <$> m.stepCall target origin link
  | .jump target origin => some <$> m.stepJump target origin
  | .ret => some <$> m.stepReturn

def step (m : Machine) : Except Trap (Option Machine) := m.fetch >>= m.perform

end Machine

/-! ## In place, all or nothing -/

namespace Edit

variable {ε α β : Type}

/-- What comes of work on `m` that is done wholly or not at all. -/
def settled (m : Machine) : Except ε (α × Machine) → Except ε α × Machine
  | .ok (a, n) => (.ok a, n)
  | .error reason => (.error reason, m)

/-- Work that looks before it changes anything is all or nothing if the rest of it is. -/
theorem make_look_bind {see : Machine → Except ε α} {rest : α → Edit ε β} {m : Machine}
    {whole : α → Except ε (β × Machine)}
    (h : ∀ a, see m = .ok a → (rest a).make m = settled m (whole a)) :
    (look see >>= rest).make m = settled m (see m >>= whole) := by
  rw [make_bind, make_look]
  cases hs : see m with
  | ok a => exact h a hs
  | error reason => rfl

theorem make_define (place : Coord) (m : Machine) :
    (define place).make m = settled m (.ok (m.define place)) := by
  unfold define Machine.define
  simp only [make_bind, make_get]
  rcases m.memory.read place with _ | (_ | _ | _) <;> rfl

theorem make_data (op : DataOp) (source destination : Address) (next : NodeId) (m : Machine) :
    (data op source destination next).make m =
      settled m (Prod.mk () <$> m.stepData op source destination next) := by
  simp only [data, Machine.stepData, map_bind]
  refine make_look_bind fun a _ => ?_
  refine make_look_bind fun b _ => ?_
  refine make_look_bind fun store _ => ?_
  cases store <;> rfl

theorem make_branch (test : Comparison) (left right : Address) (ifTrue ifFalse : NodeId)
    (m : Machine) :
    (branch test left right ifTrue ifFalse).make m =
      settled m (Prod.mk () <$> m.stepBranch test left right ifTrue ifFalse) := by
  simp only [branch, Machine.stepBranch, map_bind]
  refine make_look_bind fun a _ => ?_
  refine make_look_bind fun x _ => ?_
  refine make_look_bind fun b _ => ?_
  refine make_look_bind fun y _ => ?_
  rfl

theorem make_enter (target origin : Address) (m : Machine) :
    (enter target origin).make m = settled m (m.enter target origin) := by
  unfold enter Machine.enter
  refine make_look_bind fun a _ => ?_
  refine make_look_bind fun b _ => ?_
  rw [make_bind, make_define]
  rfl

theorem make_call (target origin : Address) (link : NodeId) (m : Machine) :
    (call target origin link).make m =
      settled m (Prod.mk () <$> m.stepCall target origin link) := by
  unfold call Machine.stepCall
  rw [make_bind, make_enter]
  cases m.enter target origin <;> rfl

theorem make_jump (target origin : Address) (m : Machine) :
    (jump target origin).make m = settled m (Prod.mk () <$> m.stepJump target origin) := by
  unfold jump Machine.stepJump
  rw [make_bind, make_enter]
  cases m.enter target origin <;> rfl

theorem make_ret (m : Machine) : ret.make m = settled m (Prod.mk () <$> m.stepReturn) := by
  unfold ret Machine.stepReturn
  simp only [make_bind, make_get]
  cases m.stack.pop? <;> rfl

/-- What comes of a step is all or nothing if the work of its node is. -/
theorem make_true {work : Edit Trap Unit} {r : Except Trap Machine} {m : Machine}
    (h : work.make m = settled m (Prod.mk () <$> r)) :
    (do work; return true : Edit Trap Bool).make m =
      match some <$> r with
      | .ok (some next) => (.ok true, next)
      | .ok none => (.ok false, m)
      | .error trap => (.error trap, m) := by
  rw [make_bind, h]
  cases r <;> rfl

end Edit

namespace Machine

/-- **A step is made wholly or not at all.** In-place execution is the function `step`, and where
that has no next state the machine is as it was. -/
theorem execute_eq (m : Machine) :
    m.execute =
      match m.step with
      | .ok (some next) => (.ok true, next)
      | .ok none => (.ok false, m)
      | .error trap => (.error trap, m) := by
  unfold execute Edit.execute step
  rw [Edit.make_bind, Edit.make_look]
  cases m.fetch with
  | error trap => rfl
  | ok i =>
    cases i with
    | nop => rfl
    | data op source destination next =>
      exact Edit.make_true (Edit.make_data op source destination next m)
    | branch test left right ifTrue ifFalse =>
      exact Edit.make_true (Edit.make_branch test left right ifTrue ifFalse m)
    | call target origin link => exact Edit.make_true (Edit.make_call target origin link m)
    | jump target origin => exact Edit.make_true (Edit.make_jump target origin m)
    | ret => exact Edit.make_true (Edit.make_ret m)

/-! ## What a step can do -/

/-- The steps that can be made from `m`, one case for each kind of node. -/
inductive Step (m : Machine) : Machine → Prop
  | data {op : DataOp} {source destination : Address} {next : NodeId} {a b : Coord}
      {store : Option Store}
      (current : m.currentInstruction? = some (.data op source destination next))
      (source_at : m.resolve source = .ok a) (destination_at : m.resolve destination = .ok b)
      (stored : op.store m.memory m.active.origin a b = .ok store) :
      Step m { m.advance next with memory := m.memory.apply store, flag := none }
  | branch {test : Comparison} {left right : Address} {ifTrue ifFalse : NodeId} {a b : Coord}
      {x y : Float}
      (current : m.currentInstruction? = some (.branch test left right ifTrue ifFalse))
      (left_at : m.resolve left = .ok a) (left_is : m.memory.dataAt a = .ok x)
      (right_at : m.resolve right = .ok b) (right_is : m.memory.dataAt b = .ok y) :
      Step m { m.advance (if test.holds x y then ifTrue else ifFalse) with
        flag := some (test.holds x y) }
  | call {target origin : Address} {link : NodeId} {a b : Coord}
      (current : m.currentInstruction? = some (.call target origin link))
      (target_at : m.resolve target = .ok a) (origin_at : m.resolve origin = .ok b) :
      Step m { (m.define a).2 with
        stack := (m.stack.modifyTop (·.advance link)).push (.enter b a (m.define a).1)
        flag := none }
  | jump {target origin : Address} {a b : Coord}
      (current : m.currentInstruction? = some (.jump target origin))
      (target_at : m.resolve target = .ok a) (origin_at : m.resolve origin = .ok b) :
      Step m { (m.define a).2 with
        stack := m.stack.modifyTop fun _ => .enter b a (m.define a).1
        flag := none }
  | ret {stack : Stack} (current : m.currentInstruction? = some .ret)
      (popped : m.stack.pop? = some stack) :
      Step m { m with stack := stack, flag := none }

theorem step_of_current {m : Machine} {i : Instruction} (h : m.currentInstruction? = some i) :
    m.step = m.perform i := by
  rw [step, fetch, h, ok_bind]

theorem step_of_absent {m : Machine} (h : m.currentInstruction? = none) :
    m.step = .error (.unknownInstruction m.active.current) := by
  rw [step, fetch, h, error_bind]

theorem enter_eq_ok_iff {m n : Machine} {target origin : Address} {frame : Frame} :
    m.enter target origin = .ok (frame, n) ↔
      ∃ a b, m.resolve target = .ok a ∧ m.resolve origin = .ok b ∧
        frame = .enter b a (m.define a).1 ∧ n = (m.define a).2 := by
  simp only [enter, bind_eq_ok_iff]
  constructor
  · rintro ⟨a, ha, b, hb, ⟨⟩⟩
    exact ⟨a, b, ha, hb, rfl, rfl⟩
  · rintro ⟨a, b, ha, hb, rfl, rfl⟩
    exact ⟨a, ha, b, hb, rfl⟩

theorem define_stack (m : Machine) (place : Coord) : (m.define place).2.stack = m.stack := by
  unfold define
  split <;> rfl

/-- A function is defined already, or it is defined now, at a new placeholder. -/
theorem define_cases (m : Machine) (place : Coord) :
    (∃ entry, m.memory.read place = some (.code entry) ∧ m.define place = (entry, m)) ∨
      (∀ entry, m.memory.read place ≠ some (.code entry)) ∧
        m.define place =
          (m.program.fresh,
            { m with
              program := m.program.push .nop
              memory := m.memory.write place (.code m.program.fresh) }) := by
  unfold define
  split
  · rename_i entry he
    exact .inl ⟨entry, he, rfl⟩
  · rename_i hne
    exact .inr ⟨hne, rfl⟩

/-- The cases of `Step` are all there are. -/
theorem Step.of_step {m n : Machine} (h : m.step = .ok (some n)) : Step m n := by
  cases hi : m.currentInstruction? with
  | none => rw [step_of_absent hi] at h; cases h
  | some i =>
    rw [step_of_current hi] at h
    cases i with
    | nop => cases h
    | data op source destination next =>
      obtain ⟨_, hn, ⟨⟩⟩ := map_eq_ok_iff.1 h
      obtain ⟨a, ha, hn⟩ := bind_eq_ok_iff.1 hn
      obtain ⟨b, hb, hn⟩ := bind_eq_ok_iff.1 hn
      obtain ⟨store, hs, ⟨⟩⟩ := bind_eq_ok_iff.1 hn
      exact .data hi ha hb hs
    | branch test left right ifTrue ifFalse =>
      obtain ⟨_, hn, ⟨⟩⟩ := map_eq_ok_iff.1 h
      obtain ⟨a, ha, hn⟩ := bind_eq_ok_iff.1 hn
      obtain ⟨x, hx, hn⟩ := bind_eq_ok_iff.1 hn
      obtain ⟨b, hb, hn⟩ := bind_eq_ok_iff.1 hn
      obtain ⟨y, hy, ⟨⟩⟩ := bind_eq_ok_iff.1 hn
      exact .branch hi ha hx hb hy
    | call target origin link =>
      obtain ⟨_, hn, ⟨⟩⟩ := map_eq_ok_iff.1 h
      obtain ⟨⟨frame, k⟩, he, ⟨⟩⟩ := bind_eq_ok_iff.1 hn
      obtain ⟨a, b, ha, hb, rfl, rfl⟩ := enter_eq_ok_iff.1 he
      simp only [advance, define_stack]
      exact .call hi ha hb
    | jump target origin =>
      obtain ⟨_, hn, ⟨⟩⟩ := map_eq_ok_iff.1 h
      obtain ⟨⟨frame, k⟩, he, ⟨⟩⟩ := bind_eq_ok_iff.1 hn
      obtain ⟨a, b, ha, hb, rfl, rfl⟩ := enter_eq_ok_iff.1 he
      simp only [define_stack]
      exact .jump hi ha hb
    | ret =>
      obtain ⟨_, hn, ⟨⟩⟩ := map_eq_ok_iff.1 h
      unfold stepReturn at hn
      split at hn
      · cases hn
        exact .ret hi ‹_›
      · cases hn

/-- Each of the cases of `Step` happens. -/
theorem Step.step_eq {m n : Machine} (h : Step m n) : m.step = .ok (some n) := by
  cases h with
  | data current source_at destination_at stored =>
    simp [step_of_current current, perform, stepData, source_at, destination_at, stored]
  | branch current left_at left_is right_at right_is =>
    simp [step_of_current current, perform, stepBranch, left_at, left_is, right_at, right_is]
  | call current target_at origin_at =>
    simp [step_of_current current, perform, stepCall,
      enter_eq_ok_iff.2 ⟨_, _, target_at, origin_at, rfl, rfl⟩, advance, define_stack]
  | jump current target_at origin_at =>
    simp [step_of_current current, perform, stepJump,
      enter_eq_ok_iff.2 ⟨_, _, target_at, origin_at, rfl, rfl⟩, define_stack]
  | ret current popped =>
    simp [step_of_current current, perform, stepReturn, popped]

theorem step_eq_some_iff {m n : Machine} : m.step = .ok (some n) ↔ Step m n :=
  ⟨Step.of_step, Step.step_eq⟩

theorem step_eq_none_iff {m : Machine} : m.step = .ok none ↔ m.currentInstruction? = some .nop := by
  cases hi : m.currentInstruction? with
  | none => simp [step_of_absent hi]
  | some i =>
    rw [step_of_current hi]
    cases i <;> simp [perform, map_eq_ok_iff, pure, Except.pure]

/-- A step is made exactly where one of the cases of `Step` applies. -/
theorem execute_eq_true_iff {m n : Machine} : m.execute = (.ok true, n) ↔ Step m n := by
  rw [execute_eq, ← step_eq_some_iff]
  cases m.step with
  | ok r => cases r <;> simp
  | error trap => simp

/-- No step is made, and none refused, exactly at a placeholder. -/
theorem execute_eq_false_iff {m n : Machine} :
    m.execute = (.ok false, n) ↔ m.currentInstruction? = some .nop ∧ n = m := by
  rw [execute_eq, ← step_eq_none_iff]
  cases m.step with
  | ok r => cases r <;> simp [eq_comm]
  | error trap => simp

theorem execute_eq_error_iff {m n : Machine} {trap : Trap} :
    m.execute = (.error trap, n) ↔ m.step = .error trap ∧ n = m := by
  rw [execute_eq]
  cases m.step with
  | ok r => cases r <;> simp
  | error t => simp [eq_comm]

theorem execute_fst_eq_false_iff {m : Machine} :
    m.execute.1 = .ok false ↔ m.currentInstruction? = some .nop := by
  rw [execute_eq, ← step_eq_none_iff]
  cases m.step with
  | ok r => cases r <;> simp
  | error trap => simp

theorem execute_fst_eq_error_iff {m : Machine} {trap : Trap} :
    m.execute.1 = .error trap ↔ m.step = .error trap := by
  rw [execute_eq]
  cases m.step with
  | ok r => cases r <;> simp
  | error t => simp

end Machine

end GridMachine
