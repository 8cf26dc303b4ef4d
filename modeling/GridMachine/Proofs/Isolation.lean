import GridMachine.Proofs.Acts

/-! # A function does not see its callers

Execution looks at the active frame only, and at the frame below it only to resume it. So the frames
under a function can be exchanged for others (`Stack.atop`): every step is made alike and leaves them
alike, up to the one that returns from the function and uncovers them. -/

namespace GridMachine

/-! ## Frames put under a stack -/

namespace Stack

variable {s t : Stack} {below above : List Frame}

/-- The stack with the frames `below` under its own, the root first. -/
def atop (s : Stack) (below : List Frame) : Stack :=
  { s with callers := s.callers ++ below.reverse }

@[simp]
theorem toList_atop (s : Stack) (below : List Frame) :
    (s.atop below).toList = below ++ s.toList := by
  simp [toList, atop]

/-- A stack is known by its frames. -/
theorem toList_inj (h : s.toList = t.toList) : s = t := by
  unfold toList at h
  obtain ⟨hcallers, htop⟩ := List.append_inj' h rfl
  exact Stack.ext (List.cons.inj htop).1 (List.reverse_inj.1 hcallers)

theorem exists_toList_eq (h : above ≠ []) : ∃ s : Stack, s.toList = above := by
  refine ⟨⟨above.getLast h, above.dropLast.reverse⟩, ?_⟩
  simp [toList, List.dropLast_concat_getLast]

/-- A stack that is deeper than the frames at its bottom lies over them. -/
theorem exists_atop (h : s.toList = below ++ above) (hd : below.length < s.depth) :
    ∃ u : Stack, u.toList = above ∧ s = u.atop below := by
  have hne : above ≠ [] := by
    rintro rfl
    rw [← length_toList, h, List.append_nil] at hd
    exact absurd hd (Nat.lt_irrefl _)
  obtain ⟨u, hu⟩ := exists_toList_eq hne
  refine ⟨u, hu, toList_inj ?_⟩
  rw [toList_atop, hu]
  exact h

/-- To return within a stack, nothing below it matters. -/
theorem pop?_atop (h : s.callers ≠ []) (below : List Frame) :
    (s.atop below).pop? = s.pop?.map (·.atop below) := by
  unfold pop? atop
  cases hs : s.callers with
  | nil => exact absurd hs h
  | cons caller rest => rfl

/-- To return from the last of its frames is to come to what is below. -/
theorem pop?_atop_of_root (h : s.callers = []) (hb : below ≠ []) :
    ∃ t : Stack, (s.atop below).pop? = some t ∧ t.toList = below := by
  cases hp : (s.atop below).pop? with
  | none =>
    have hdepth := pop?_eq_none_iff.1 hp
    have hpos := List.length_pos_iff.2 hb
    simp only [depth, atop, h, List.nil_append, List.length_reverse] at hdepth
    omega
  | some t =>
    refine ⟨t, rfl, ?_⟩
    have hlist := toList_of_pop? hp
    rw [toList_atop] at hlist
    simp only [toList, h, atop, List.reverse_nil, List.nil_append] at hlist
    exact (List.append_cancel_right hlist).symm

end Stack

/-! ## Steps over other frames -/

namespace Machine

variable {m n : Machine} {below : List Frame}

/-- The machine with the frames `below` under its own, the root first. -/
def atop (m : Machine) (below : List Frame) : Machine :=
  { m with stack := m.stack.atop below }

theorem define_atop (m : Machine) (below : List Frame) (place : Coord) :
    (m.atop below).define place = ((m.define place).1, (m.define place).2.atop below) := by
  have hread : (m.atop below).memory.read place = m.memory.read place := rfl
  unfold define
  rw [hread]
  rcases m.memory.read place with _ | (_ | _ | _) <;> rfl

theorem enter_atop (m : Machine) (below : List Frame) (target origin : Address) :
    (m.atop below).enter target origin =
      (fun (frame, n) => (frame, n.atop below)) <$> m.enter target origin := by
  simp only [enter, map_bind, define_atop]
  rfl

/-- A node that does not return from the lowest frame is performed alike over any frames. -/
theorem perform_atop {i : Instruction} (h : i ≠ .ret ∨ m.stack.callers ≠ [])
    (below : List Frame) :
    (m.atop below).perform i = Option.map (·.atop below) <$> m.perform i := by
  cases i with
  | nop => rfl
  | data op source destination next =>
    simp only [perform, stepData, map_bind]
    rfl
  | branch test left right ifTrue ifFalse =>
    simp only [perform, stepBranch, map_bind]
    rfl
  | call target origin link =>
    simp only [perform, stepCall, enter_atop, map_bind]
    cases m.enter target origin <;> rfl
  | jump target origin =>
    simp only [perform, stepJump, enter_atop, map_bind]
    cases m.enter target origin <;> rfl
  | ret =>
    have hc : m.stack.callers ≠ [] := h.resolve_left (absurd rfl)
    have hp : (m.atop below).stack.pop? = m.stack.pop?.map (·.atop below) :=
      Stack.pop?_atop hc below
    simp only [perform, stepReturn, hp]
    cases m.stack.pop? <;> rfl

theorem step_atop (h : m.currentInstruction? ≠ some .ret ∨ m.stack.callers ≠ [])
    (below : List Frame) : (m.atop below).step = Option.map (·.atop below) <$> m.step := by
  cases hi : m.currentInstruction? with
  | none =>
    have hi' : (m.atop below).currentInstruction? = none := hi
    rw [step_of_absent hi, step_of_absent hi']
    rfl
  | some i =>
    have hi' : (m.atop below).currentInstruction? = some i := hi
    rw [step_of_current hi, step_of_current hi']
    refine perform_atop (h.imp_left fun hne => ?_) below
    rintro rfl
    exact hne hi

theorem execute_atop (h : m.currentInstruction? ≠ some .ret ∨ m.stack.callers ≠ [])
    (below : List Frame) :
    (m.atop below).execute = (m.execute.1, m.execute.2.atop below) := by
  rw [execute_eq, execute_eq, step_atop h]
  cases m.step with
  | ok r => cases r <;> rfl
  | error trap => rfl

/-- To return from the lowest frame uncovers what is below, on which nothing else depends. -/
theorem execute_atop_of_root (hi : m.currentInstruction? = some .ret)
    (hc : m.stack.callers = []) (hb : below ≠ []) :
    ∃ t : Stack, (m.atop below).execute = (.ok true, { m with stack := t, flag := none }) ∧
      t.toList = below := by
  obtain ⟨t, hp, ht⟩ := Stack.pop?_atop_of_root hc hb
  have hstep := Step.ret (m := m.atop below) hi hp
  exact ⟨t, execute_eq_true_iff.2 hstep, ht⟩

/-! ## Two runs over different frames -/

variable {below' : List Frame}

/-- The machines differ at most in the lowest frames of their stacks, `below` and `below'`. -/
structure Alike (below below' : List Frame) (m n : Machine) : Prop where
  memory : n.memory = m.memory
  program : n.program = m.program
  flag : n.flag = m.flag
  frames : ∃ above, m.stack.toList = below ++ above ∧ n.stack.toList = below' ++ above

theorem alike_atop (m : Machine) (below below' : List Frame) :
    Alike below below' (m.atop below) (m.atop below') :=
  ⟨rfl, rfl, rfl, m.stack.toList, m.stack.toList_atop below, m.stack.toList_atop below'⟩

/-- Both are one machine, put over the different frames. -/
theorem Alike.exists_atop (h : Alike below below' m n) (hd : below.length < m.depth) :
    ∃ u : Machine, m = u.atop below ∧ n = u.atop below' := by
  obtain ⟨hmemory, hprogram, hflag, above, hm, hn⟩ := h
  obtain ⟨s, hs, hms⟩ := Stack.exists_atop hm hd
  have hns : n.stack = s.atop below' := by
    apply Stack.toList_inj
    rw [hn, Stack.toList_atop, hs]
  refine ⟨{ m with stack := s }, ?_, ?_⟩
  · exact Machine.ext rfl rfl hms rfl
  · exact Machine.ext hmemory hprogram hns hflag

/-- **One step is the same over any callers**, and it leaves them as they are. -/
theorem Alike.execute (h : Alike below below' m n) (hb : below ≠ []) (hb' : below' ≠ [])
    (hd : below.length < m.depth) :
    n.execute.1 = m.execute.1 ∧ Alike below below' m.execute.2 n.execute.2 := by
  obtain ⟨u, rfl, rfl⟩ := h.exists_atop hd
  by_cases hroot : u.currentInstruction? = some .ret ∧ u.stack.callers = []
  · obtain ⟨t, he, ht⟩ := execute_atop_of_root hroot.1 hroot.2 hb
    obtain ⟨t', he', ht'⟩ := execute_atop_of_root hroot.1 hroot.2 hb'
    rw [he, he']
    refine ⟨rfl, rfl, rfl, rfl, [], ?_, ?_⟩
    · rw [List.append_nil]
      exact ht
    · rw [List.append_nil]
      exact ht'
  · have hinner : u.currentInstruction? ≠ some .ret ∨ u.stack.callers ≠ [] :=
      Decidable.not_and_iff_or_not.1 hroot
    rw [execute_atop hinner, execute_atop hinner]
    exact ⟨rfl, alike_atop u.execute.2 below below'⟩

theorem Alike.after (h : Alike below below' m n) (hb : below ≠ []) (hb' : below' ≠ [])
    {count : Nat} (hd : ∀ k < count, below.length < (m.after k).depth) :
    Alike below below' (m.after count) (n.after count) := by
  induction count with
  | zero => exact h
  | succ count ih =>
    have hbefore := ih fun k hk => hd k (Nat.lt_succ_of_lt hk)
    exact (hbefore.execute hb hb' (hd count (Nat.lt_succ_self count))).2

/-- **A function does not see its callers.** Two machines differ in the frames below a function, and
there are such frames in both. As long as the one has not returned from the function, each execution
gives the same in both; their memories, programs and flags stay the same, and so do the frames above
those in which they differ. -/
theorem callers_unseen (h : Alike below below' m n) (hb : below ≠ []) (hb' : below' ≠ [])
    {count : Nat} (hd : ∀ k < count, below.length < (m.after k).depth) :
    (∀ k < count, (n.after k).execute.1 = (m.after k).execute.1) ∧
      ∀ k ≤ count, Alike below below' (m.after k) (n.after k) := by
  have halike : ∀ k ≤ count, Alike below below' (m.after k) (n.after k) := by
    intro k hk
    exact h.after hb hb' fun j hj => hd j (Nat.lt_of_lt_of_le hj hk)
  refine ⟨fun k hk => ?_, halike⟩
  exact ((halike k (Nat.le_of_lt hk)).execute hb hb' (hd k hk)).1

/-- A function that stores a pointer next to its origin and returns. -/
def storeThenReturn : Machine :=
  { initial with
    program := ⟨#[.data .addressOf (.relative .zero) (.relative ⟨0, 1⟩) ⟨1⟩, .ret]⟩
    stack := .root (.enter ⟨5, 5⟩ ⟨1, 0⟩ ⟨0⟩) }

/-- Called by one frame or by two, it stores the same pointer and comes back to its callers. -/
theorem storeThenReturn_callers_unseen :
    let one : List Frame := [.enter .zero .zero ⟨7⟩]
    let two : List Frame := [.enter .zero .zero ⟨0⟩, .enter ⟨3, 3⟩ ⟨2, 0⟩ ⟨9⟩]
    let m := storeThenReturn.atop one
    let n := storeThenReturn.atop two
    (∀ k < 2, (n.after k).execute.1 = (m.after k).execute.1) ∧ (m.after 2).depth = 1 ∧
      (m.after 2).memory.read ⟨5, 6⟩ = some (.pointer (.absolute ⟨5, 5⟩)) ∧
      Alike one two (m.after 2) (n.after 2) := by
  intro one two m n
  have hdepth : ∀ k < 2, one.length < (m.after k).depth := by decide +kernel
  have hstart := alike_atop storeThenReturn one two
  have hone : one ≠ [] := List.cons_ne_nil _ _
  have htwo : two ≠ [] := List.cons_ne_nil _ _
  obtain ⟨hresults, halike⟩ := callers_unseen hstart hone htwo hdepth
  exact ⟨hresults, by decide +kernel, by decide +kernel, halike 2 (Nat.le_refl 2)⟩

end Machine

end GridMachine
