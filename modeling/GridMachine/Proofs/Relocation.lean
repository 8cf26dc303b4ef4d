import GridMachine.Proofs.Provenance

/-! # A machine can be moved across the grid

Moving a machine by a displacement moves its cells, its frames and whatever is counted from the zero
of the grid, and wraps around the edges. Relative addresses stay as they are, since the origins they
are counted from have moved. The moved machine then does the same at the moved place: each function
that a step is made of is shown to give, from moved arguments, the moved result (`Corresponds`). The
edges of the grid do not move, and an address that leads off the grid at one place need not do so at
the other. That is the one thing that tells the two runs apart, and as long as it happens in neither,
they correspond step by step. -/

namespace GridMachine

/-! ## Moving -/

/-- A relative address is counted from an origin that moves, and stays as it is. -/
def Address.translate (a : Address) (d : Coord) : Address :=
  match a.base with
  | .relative => a
  | .absolute => { a with coord := a.coord + d }

def Cell.translate (cell : Cell) (d : Coord) : Cell :=
  match cell with
  | .data value => .data value
  | .pointer address => .pointer (address.translate d)
  | .code entry => .code entry

def Memory.translate (m : Memory) (d : Coord) : Memory :=
  ⟨.ofList (m.toList.map fun p => (p.1 + d, p.2.translate d))⟩

def Instruction.translate (i : Instruction) (d : Coord) : Instruction :=
  match i with
  | .nop => .nop
  | .data op source destination next =>
    .data op (source.translate d) (destination.translate d) next
  | .branch test left right ifTrue ifFalse =>
    .branch test (left.translate d) (right.translate d) ifTrue ifFalse
  | .call target origin link => .call (target.translate d) (origin.translate d) link
  | .jump target origin => .jump (target.translate d) (origin.translate d)
  | .ret => .ret

def Program.translate (p : Program) (d : Coord) : Program := ⟨p.nodes.map (·.translate d)⟩

def Frame.translate (f : Frame) (d : Coord) : Frame :=
  { f with origin := f.origin + d, target := f.target + d }

def Stack.translate (s : Stack) (d : Coord) : Stack :=
  ⟨s.top.translate d, s.callers.map (·.translate d)⟩

/-- The machine, moved by `d` across the grid. -/
def Machine.translate (m : Machine) (d : Coord) : Machine where
  memory := m.memory.translate d
  program := m.program.translate d
  stack := m.stack.translate d
  flag := m.flag

def Trap.translate (trap : Trap) (d : Coord) : Trap :=
  match trap with
  | .notAnAddress site => .notAnAddress (site + d)
  | .emptyCell site => .emptyCell (site + d)
  | .notData site => .notData (site + d)
  | .divisionByZero site => .divisionByZero (site + d)
  | .addressOutOfRange site => .addressOutOfRange (site + d)
  | .nonFiniteShift site => .nonFiniteShift (site + d)
  | .returnFromRoot => .returnFromRoot
  | .unknownInstruction id => .unknownInstruction id

def Store.translate (s : Store) (d : Coord) : Store := ⟨s.place + d, s.cell.translate d⟩

variable {d : Coord}

theorem Address.translate_relative {a : Address} (h : a.base = .relative) : a.translate d = a := by
  simp [translate, h]

@[simp]
theorem Address.translate_indirection (a : Address) (d : Coord) :
    (a.translate d).indirection = a.indirection := by
  cases h : a.base <;> simp [translate, h]

namespace Memory

variable (m : Memory) (c : Coord)

/-- The moved memory holds at the moved place what the memory holds at the place. -/
theorem read_translate (d : Coord) :
    (m.translate d).read (c + d) = (m.read c).map (·.translate d) := by
  cases h : m.read c with
  | some cell =>
    have hmem : (c + d, cell.translate d) ∈ m.toList.map fun p => (p.1 + d, p.2.translate d) :=
      List.mem_map_of_mem (mem_toList_iff.2 h)
    refine Std.ExtTreeMap.getElem?_ofList_of_mem (Std.compare_eq_iff_eq.2 rfl) ?_ hmem
    -- Different places are moved to different places.
    refine List.pairwise_map.2 (Std.ExtTreeMap.distinct_keys_toList.imp fun hne => ?_)
    rw [Std.compare_eq_iff_eq] at hne ⊢
    exact fun he => hne ((Coord.add_left_inj d).1 he)
  | none =>
    refine Std.ExtTreeMap.getElem?_ofList_of_contains_eq_false (Bool.eq_false_iff.2 fun hc => ?_)
    obtain ⟨moved, hmoved, hplace⟩ := List.mem_map.1 (List.contains_iff_mem.1 hc)
    obtain ⟨⟨c', cell⟩, hcell, rfl⟩ := List.mem_map.1 hmoved
    obtain rfl := (Coord.add_left_inj d).1 hplace
    rw [mem_toList_iff.1 hcell] at h
    cases h

theorem translate_write (cell : Cell) (d : Coord) :
    (m.write c cell).translate d = (m.translate d).write (c + d) (cell.translate d) := by
  refine ext_read fun e => ?_
  -- Every place is a moved one.
  obtain ⟨c', rfl⟩ : ∃ c', e = c' + d := ⟨e - d, (Coord.sub_add_cancel e d).symm⟩
  rw [read_translate, read_write, read_write, read_translate]
  by_cases h : c' = c
  · simp [h]
  · simp [h, Coord.add_left_inj]

theorem translate_apply (store : Option Store) (d : Coord) :
    (m.apply store).translate d = (m.translate d).apply (store.map (·.translate d)) := by
  cases store with
  | none => rfl
  | some s => exact m.translate_write s.place s.cell d

end Memory

/-! ## Corresponding results -/

/-- The result `y` is `x` as it is after moving by `d`, with `move` to move a value, unless one of
the two leads off the grid. -/
inductive Corresponds (d : Coord) {α β : Type} (move : α → β) :
    Except Trap α → Except Trap β → Prop
  | ok (a : α) : Corresponds d move (.ok a) (.ok (move a))
  | error (trap : Trap) : Corresponds d move (.error trap) (.error (trap.translate d))
  | offGrid (site : Coord) (y : Except Trap β) :
      Corresponds d move (.error (.addressOutOfRange site)) y
  | offGridThere (x : Except Trap α) (site : Coord) :
      Corresponds d move x (.error (.addressOutOfRange site))

namespace Corresponds

variable {α β γ δ : Type} {move : α → β} {move' : γ → δ} {x : Except Trap α} {y : Except Trap β}

theorem of_eq {a : α} {b : β} (h : b = move a) : Corresponds d move (.ok a) (.ok b) := by
  rw [h]
  exact .ok a

/-- Work in two parts corresponds if its parts do. -/
theorem bind {f : α → Except Trap γ} {g : β → Except Trap δ} (h : Corresponds d move x y)
    (hf : ∀ a, Corresponds d move' (f a) (g (move a))) :
    Corresponds d move' (x >>= f) (y >>= g) := by
  cases h with
  | ok a => exact hf a
  | error trap => exact .error trap
  | offGrid site y => exact .offGrid site _
  | offGridThere x site => exact .offGridThere _ site

theorem map {f : α → γ} {g : β → δ} (h : Corresponds d move x y)
    (hf : ∀ a, g (move a) = move' (f a)) : Corresponds d move' (f <$> x) (g <$> y) := by
  cases h with
  | ok a => exact of_eq (hf a)
  | error trap => exact .error trap
  | offGrid site y => exact .offGrid site _
  | offGridThere x site => exact .offGridThere _ site

end Corresponds

/-! ## Reaching cells -/

theorem Address.locate_corresponds (a : Address) (origin site site' : Coord) :
    Corresponds d (· + d) (a.locate origin site) ((a.translate d).locate (origin + d) site') := by
  cases hb : a.base with
  | absolute =>
    simp only [locate, translate, toAbsolute?, hb]
    exact .ok a.coord
  | relative =>
    rw [translate_relative hb]
    simp only [locate, toAbsolute?, hb]
    cases h : a.coord.add? origin with
    | none => exact .offGrid site _
    | some c =>
      cases h' : a.coord.add? (origin + d) with
      | none => exact .offGridThere _ site'
      | some c' =>
        -- Both sums stay on the grid, where they agree with the wrapping ones that moving uses.
        refine .of_eq ?_
        change c' = c + d
        rw [← Coord.add_eq_of_add? h, ← Coord.add_eq_of_add? h', Coord.add_assoc]

/-- A pointer moved along its row moves across the grid with it. -/
theorem Address.shift?_translate {a b b' : Address} {columns : Int64}
    (h : a.shift? columns = some b) (h' : (a.translate d).shift? columns = some b') :
    b' = b.translate d := by
  obtain ⟨c, hc, rfl⟩ := Option.map_eq_some_iff.1 h
  obtain ⟨c', hc', rfl⟩ := Option.map_eq_some_iff.1 h'
  have hsum := Coord.add_eq_of_add? hc
  have hsum' := Coord.add_eq_of_add? hc'
  obtain ⟨indirection, base, coord⟩ := a
  cases base with
  | relative =>
    have hcoord : c' = c := hsum'.symm.trans hsum
    rw [hcoord]
    rfl
  | absolute =>
    have hcoord : c' = c + d := by
      rw [← hsum, ← hsum']
      exact Coord.add_right_comm _ _ _
    rw [hcoord]
    rfl

theorem shiftColumns_corresponds (site : Coord) (amount : Float) :
    Corresponds d id (shiftColumns site amount) (shiftColumns (site + d) amount) := by
  rw [shiftColumns_eq, shiftColumns_eq]
  cases dyadic? amount with
  | none => exact .error (.nonFiniteShift site)
  | some q =>
    dsimp only
    cases word? ⌊q⌋ with
    | none => exact .offGrid site _
    | some n => exact .ok n

namespace Memory

variable (m : Memory) (c : Coord)

theorem occupiedAt_corresponds :
    Corresponds d (·.translate d) (m.occupiedAt c) ((m.translate d).occupiedAt (c + d)) := by
  unfold occupiedAt
  rw [read_translate]
  cases m.read c with
  | none => exact .error (.emptyCell c)
  | some cell => exact .ok cell

theorem dataAt_corresponds :
    Corresponds d id (m.dataAt c) ((m.translate d).dataAt (c + d)) := by
  unfold dataAt
  rw [read_translate]
  rcases m.read c with _ | (value | address | entry)
  · exact .error (.emptyCell c)
  · exact .ok value
  · exact .error (.notData c)
  · exact .error (.notData c)

theorem pointerAt_corresponds :
    Corresponds d (·.translate d) (m.pointerAt c) ((m.translate d).pointerAt (c + d)) := by
  unfold pointerAt
  rw [read_translate]
  rcases m.read c with _ | (value | address | entry)
  · exact .error (.notAnAddress c)
  · exact .error (.notAnAddress c)
  · exact .ok address
  · exact .error (.notAnAddress c)

theorem resolve_corresponds (origin : Coord) (a : Address) :
    Corresponds d (· + d) (m.resolve origin a)
      ((m.translate d).resolve (origin + d) (a.translate d)) := by
  unfold resolve
  refine (a.locate_corresponds origin _ _).bind fun hop => ?_
  rw [Address.translate_indirection]
  cases a.indirection with
  | direct => exact .ok hop
  | indirect =>
    exact (m.pointerAt_corresponds hop).bind fun pointer => pointer.locate_corresponds _ _ _

end Memory

/-- What a data operation stores is moved with its operands. -/
theorem DataOp.store_corresponds (op : DataOp) (m : Memory) (origin a b : Coord) :
    Corresponds d (Option.map (·.translate d)) (op.store m origin a b)
      (op.store (m.translate d) (origin + d) (a + d) (b + d)) := by
  cases op with
  | addressOf => exact .ok (some (Store.mk b (.pointer (.absolute a))))
  | move =>
    exact (m.occupiedAt_corresponds a).bind fun cell => .ok (some (Store.mk b cell))
  | shift =>
    refine (m.pointerAt_corresponds b).bind fun pointer => ?_
    refine (m.dataAt_corresponds a).bind fun amount => ?_
    refine (shiftColumns_corresponds a amount).bind fun columns => ?_
    cases h : pointer.shift? columns with
    | none => exact .offGrid b _
    | some moved =>
      cases h' : (pointer.translate d).shift? columns with
      | none =>
        simp only [id_eq, h']
        exact .offGridThere _ (b + d)
      | some moved' =>
        obtain rfl := Address.shift?_translate h h'
        simp only [id_eq, h']
        exact .ok (some (Store.mk b (.pointer moved)))
  | read =>
    refine (m.pointerAt_corresponds a).bind fun pointer => ?_
    refine (pointer.locate_corresponds origin _ _).bind fun place => .of_eq ?_
    rw [Memory.read_translate]
    cases m.read place <;> rfl
  | write =>
    refine (m.pointerAt_corresponds b).bind fun pointer => ?_
    refine (m.occupiedAt_corresponds a).bind fun cell => ?_
    exact (pointer.locate_corresponds origin _ _).bind fun place =>
      .ok (some (Store.mk place cell))
  | arithmetic op =>
    refine (m.dataAt_corresponds a).bind fun right => ?_
    refine (m.dataAt_corresponds b).bind fun left => ?_
    simp only [id_eq]
    cases op.apply left right with
    | none => exact .error (.divisionByZero a)
    | some value => exact .ok (some (Store.mk b (.data value)))

/-! ## Steps -/

theorem Program.get?_translate (p : Program) (d : Coord) (id : NodeId) :
    (p.translate d).get? id = (p.get? id).map (·.translate d) :=
  Array.getElem?_map

theorem Program.fresh_translate (p : Program) (d : Coord) : (p.translate d).fresh = p.fresh := by
  simp [fresh, size, translate]

theorem Program.translate_push_nop (p : Program) (d : Coord) :
    (p.push .nop).translate d = (p.translate d).push .nop :=
  Program.ext Array.map_push

theorem Stack.pop?_translate (s : Stack) (d : Coord) :
    (s.translate d).pop? = s.pop?.map (·.translate d) := by
  unfold pop? translate
  cases s.callers <;> rfl

namespace Machine

variable (m : Machine)

theorem resolve_corresponds (a : Address) :
    Corresponds d (· + d) (m.resolve a) ((m.translate d).resolve (a.translate d)) :=
  m.memory.resolve_corresponds m.active.origin a

theorem fetch_corresponds : Corresponds d (·.translate d) m.fetch (m.translate d).fetch := by
  have hcurrent : (m.translate d).currentInstruction? =
      m.currentInstruction?.map (·.translate d) := m.program.get?_translate d _
  unfold fetch
  rw [hcurrent]
  cases m.currentInstruction? with
  | none => exact .error (.unknownInstruction m.active.current)
  | some i => exact .ok i

theorem define_translate (place d : Coord) :
    (m.translate d).define (place + d) = ((m.define place).1, (m.define place).2.translate d) := by
  have hread : (m.translate d).memory.read (place + d) =
      (m.memory.read place).map (·.translate d) := m.memory.read_translate place d
  have hfresh : (m.translate d).program.fresh = m.program.fresh := m.program.fresh_translate d
  -- The new function starts at the same node, and is put into the moved cell.
  have hnew : ({ m.translate d with
        program := (m.translate d).program.push .nop
        memory := (m.translate d).memory.write (place + d) (.code m.program.fresh) } : Machine) =
      ({ m with
        program := m.program.push .nop
        memory := m.memory.write place (.code m.program.fresh) } : Machine).translate d :=
    Machine.ext (m.memory.translate_write place (.code m.program.fresh) d).symm
      (m.program.translate_push_nop d).symm rfl rfl
  unfold define
  rw [hread, hfresh]
  rcases m.memory.read place with _ | (value | address | entry)
  · exact Prod.ext rfl hnew
  · exact Prod.ext rfl hnew
  · exact Prod.ext rfl hnew
  · rfl

theorem stepData_corresponds (op : DataOp) (source destination : Address) (next : NodeId) :
    Corresponds d (·.translate d) (m.stepData op source destination next)
      ((m.translate d).stepData op (source.translate d) (destination.translate d) next) := by
  unfold stepData
  refine (m.resolve_corresponds source).bind fun a => ?_
  refine (m.resolve_corresponds destination).bind fun b => ?_
  refine (op.store_corresponds m.memory m.active.origin a b).bind fun store => .of_eq ?_
  exact Machine.ext (m.memory.translate_apply store d).symm rfl rfl rfl

theorem stepBranch_corresponds (test : Comparison) (left right : Address)
    (ifTrue ifFalse : NodeId) :
    Corresponds d (·.translate d) (m.stepBranch test left right ifTrue ifFalse)
      ((m.translate d).stepBranch test (left.translate d) (right.translate d) ifTrue ifFalse) := by
  unfold stepBranch
  refine (m.resolve_corresponds left).bind fun a => ?_
  refine (m.memory.dataAt_corresponds a).bind fun x => ?_
  refine (m.resolve_corresponds right).bind fun b => ?_
  exact (m.memory.dataAt_corresponds b).bind fun y => .of_eq rfl

theorem enter_corresponds (target origin : Address) :
    Corresponds d (fun r => (r.1.translate d, r.2.translate d)) (m.enter target origin)
      ((m.translate d).enter (target.translate d) (origin.translate d)) := by
  unfold enter
  refine (m.resolve_corresponds target).bind fun a => ?_
  refine (m.resolve_corresponds origin).bind fun b => ?_
  simp only [define_translate]
  exact .of_eq rfl

theorem stepCall_corresponds (target origin : Address) (link : NodeId) :
    Corresponds d (·.translate d) (m.stepCall target origin link)
      ((m.translate d).stepCall (target.translate d) (origin.translate d) link) := by
  unfold stepCall
  exact (m.enter_corresponds target origin).bind fun r => .of_eq rfl

theorem stepJump_corresponds (target origin : Address) :
    Corresponds d (·.translate d) (m.stepJump target origin)
      ((m.translate d).stepJump (target.translate d) (origin.translate d)) := by
  unfold stepJump
  exact (m.enter_corresponds target origin).bind fun r => .of_eq rfl

theorem stepReturn_corresponds :
    Corresponds d (·.translate d) m.stepReturn (m.translate d).stepReturn := by
  have hpop : (m.translate d).stack.pop? = m.stack.pop?.map (·.translate d) :=
    m.stack.pop?_translate d
  unfold stepReturn
  rw [hpop]
  cases m.stack.pop? with
  | none => exact .error .returnFromRoot
  | some stack => exact .of_eq rfl

theorem perform_corresponds (i : Instruction) :
    Corresponds d (Option.map (·.translate d)) (m.perform i)
      ((m.translate d).perform (i.translate d)) := by
  cases i with
  | nop => exact .ok none
  | data op source destination next =>
    exact (m.stepData_corresponds op source destination next).map fun _ => rfl
  | branch test left right ifTrue ifFalse =>
    exact (m.stepBranch_corresponds test left right ifTrue ifFalse).map fun _ => rfl
  | call target origin link => exact (m.stepCall_corresponds target origin link).map fun _ => rfl
  | jump target origin => exact (m.stepJump_corresponds target origin).map fun _ => rfl
  | ret => exact m.stepReturn_corresponds.map fun _ => rfl

/-- **A moved machine makes the moved step.** -/
theorem step_corresponds :
    Corresponds d (Option.map (·.translate d)) m.step (m.translate d).step :=
  m.fetch_corresponds.bind m.perform_corresponds

/-- Whether execution traps over an address that leads off the grid. -/
def strays (m : Machine) : Bool :=
  match m.execute.1 with
  | .error (.addressOutOfRange _) => true
  | _ => false

variable {m}

theorem execute_translate (hm : m.strays = false) (hd : (m.translate d).strays = false) :
    (m.translate d).execute =
      (m.execute.1.mapError (·.translate d), m.execute.2.translate d) := by
  have hstep := m.step_corresponds (d := d)
  unfold strays at hm hd
  rw [execute_eq] at hm hd
  rw [execute_eq, execute_eq]
  revert hm hd hstep
  generalize m.step = x
  generalize (m.translate d).step = y
  intro hm hd hstep
  cases hstep with
  | ok r => cases r <;> rfl
  | error trap => rfl
  | offGrid site _ => cases hm
  | offGridThere _ site => cases hd

/-! ## Runs -/

theorem after_translate {count : Nat} (hm : ∀ k < count, (m.after k).strays = false)
    (hd : ∀ k < count, ((m.translate d).after k).strays = false) :
    (m.translate d).after count = (m.after count).translate d := by
  induction count with
  | zero => rfl
  | succ count ih =>
    have hlt := Nat.lt_succ_self count
    have hbefore : (m.translate d).after count = (m.after count).translate d :=
      ih (fun k hk => hm k (Nat.lt_succ_of_lt hk)) fun k hk => hd k (Nat.lt_succ_of_lt hk)
    have hstrays := hd count hlt
    rw [hbefore] at hstrays
    rw [after, after, hbefore, execute_translate (hm count hlt) hstrays]

end Machine

/-- Every operand of the program is counted from the origin of the frame that uses it. -/
def Program.Relative (p : Program) : Prop :=
  ∀ i ∈ p.toList, ∀ a, i.source? = some a ∨ i.destination? = some a → a.base = .relative

theorem Instruction.translate_relative {i : Instruction}
    (h : ∀ a, i.source? = some a ∨ i.destination? = some a → a.base = .relative) :
    i.translate d = i := by
  cases i with
  | nop | ret => rfl
  | data op a b | branch test a b | call a b | jump a b =>
    have ha := Address.translate_relative (d := d) (h a (.inl rfl))
    have hb := Address.translate_relative (d := d) (h b (.inr rfl))
    simp only [translate, ha, hb]

/-- There is nothing to move in such a program. -/
theorem Program.Relative.translate_eq {p : Program} (h : p.Relative) : p.translate d = p := by
  refine Program.ext ?_
  calc p.nodes.map (·.translate d)
    _ = p.nodes.map id := Array.map_congr_left fun i hi =>
        Instruction.translate_relative (h i (Array.mem_toList_iff.2 hi))
    _ = p.nodes := Array.map_id p.nodes

theorem Program.Relative.grown {p q : Program} (h : p.Relative) (hq : q.GrownFrom p) :
    q.Relative := by
  obtain ⟨added, hq⟩ := hq
  intro i hi a ha
  rw [hq] at hi
  rcases List.mem_append.1 hi with hi | hi
  · exact h i hi a ha
  · rw [List.eq_of_mem_replicate hi] at ha
    rcases ha with ⟨⟨⟩⟩ | ⟨⟨⟩⟩

namespace Machine

/-- **Execution is the same wherever a machine is placed.** As long as neither the machine nor the
machine moved by `d` traps over an address that leads off the grid, each execution gives the same in
both, a trap naming the moved place, and the one is in the state of the other, moved by `d`. A
program whose operands are all relative is itself the same in both. -/
theorem execution_translates (m : Machine) (d : Coord) {count : Nat}
    (hm : ∀ k < count, (m.after k).strays = false)
    (hd : ∀ k < count, ((m.translate d).after k).strays = false) :
    (∀ k < count,
      ((m.translate d).after k).execute.1 = (m.after k).execute.1.mapError (·.translate d)) ∧
    (∀ k ≤ count, (m.translate d).after k = (m.after k).translate d) ∧
    (m.program.Relative →
      ∀ k ≤ count, ((m.translate d).after k).program = (m.after k).program) := by
  have hafter : ∀ k ≤ count, (m.translate d).after k = (m.after k).translate d := by
    intro k hk
    exact after_translate (fun j hj => hm j (Nat.lt_of_lt_of_le hj hk)) fun j hj =>
      hd j (Nat.lt_of_lt_of_le hj hk)
  refine ⟨?_, hafter, ?_⟩
  · intro k hk
    have hstrays := hd k hk
    rw [hafter k (Nat.le_of_lt hk)] at hstrays ⊢
    rw [execute_translate (hm k hk) hstrays]
  · intro hrelative k hk
    rw [hafter k hk]
    exact (hrelative.grown (Traced.after m k).grown).translate_eq

/-- A root function that stores a pointer to its origin, and then looks for something to move in an
empty cell. -/
def pointThenMove : Machine :=
  { initial with
    program := ⟨#[.data .addressOf (.relative .zero) (.absolute ⟨0, 1⟩) ⟨1⟩,
      .data .move (.relative ⟨0, 7⟩) (.absolute ⟨0, 1⟩) ⟨0⟩]⟩
    stack := .root (.enter ⟨1, 0⟩ .zero ⟨0⟩) }

/-- Moved around the edge of the grid, it traps over the empty cell of the moved place. -/
theorem pointThenMove_translates :
    let d : Coord := ⟨Int64.maxValue, -2⟩
    let moved := pointThenMove.translate d
    (pointThenMove.after 1).execute.1 = .error (.emptyCell ⟨1, 7⟩) ∧
      (moved.after 1).execute.1 = .error (.emptyCell ⟨Int64.minValue, 5⟩) ∧
      moved.after 2 = (pointThenMove.after 2).translate d ∧
      (moved.after 2).memory.read ⟨Int64.maxValue, -1⟩ =
        some (.pointer (.absolute ⟨Int64.minValue, -2⟩)) := by
  intro d moved
  have hm : ∀ k < 2, (pointThenMove.after k).strays = false := by decide +kernel
  have hd : ∀ k < 2, (moved.after k).strays = false := by decide +kernel
  obtain ⟨hresults, hafter, -⟩ := execution_translates pointThenMove d hm hd
  have htrap : (pointThenMove.after 1).execute.1 = .error (.emptyCell ⟨1, 7⟩) := by
    rw [execute_fst_eq_error_iff,
      step_of_current (i := .data .move (.relative ⟨0, 7⟩) (.absolute ⟨0, 1⟩) ⟨0⟩) rfl]
    rfl
  have hplace : (⟨1, 7⟩ : Coord) + d = ⟨Int64.minValue, 5⟩ := by decide
  refine ⟨htrap, ?_, hafter 2 (Nat.le_refl 2), ?_⟩
  · rw [hresults 1 (by decide), htrap, ← hplace]
    rfl
  · decide +kernel

end Machine

end GridMachine
