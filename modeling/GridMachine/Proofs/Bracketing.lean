import GridMachine.Proofs.Acts

/-! # Calls and returns are brackets

A caller has no return address but its own current node, which the call moves on to the link before
the new frame covers it. What is covered cannot be reached: an act changes the active frame, covers
it, or uncovers the frame below (`Turn`). So the frames below a call are a suffix of the callers for
as long as the depth stays above them, whatever is executed, recorded or edited meanwhile, and what
is uncovered in the end is the caller as the call left it. -/

namespace GridMachine

/-! ## What an act can do to the stack -/

/-- Whether the act is a loop, which counts as one step for each that it makes. -/
def Act.isLoop : Act → Bool
  | run _ | runUntilHalt .. => true
  | _ => false

/-- The frames below the active one, as the lowest of all frames. -/
theorem Stack.take_toList {s : Stack} {base : List Frame} (h : base <:+ s.callers) :
    s.toList.take base.length = base.reverse := by
  obtain ⟨inner, hc⟩ := h
  simp [toList, ← hc]

namespace Machine

variable {m n : Machine}

/-- `n` has the callers of `m`, or one more, or it has lost the active frame to its caller. -/
inductive Turn (m n : Machine) : Prop
  | stays (same : n.stack.callers = m.stack.callers)
  | covers (f : Frame) (covered : n.stack.callers = f :: m.stack.callers)
  | uncovers (popped : m.stack.pop? = some n.stack) (lowered : n.flag = none)

theorem Step.turn (h : Step m n) : Turn m n := by
  cases h with
  | data | branch | jump => exact .stays rfl
  | call => exact .covers _ rfl
  | ret _ popped => exact .uncovers popped rfl

theorem Authored.stack_eq (h : Authored m n) : n.stack = m.stack := by
  rcases h with rfl | ⟨source, destination, op, _, rfl⟩
  · rfl
  · cases op <;> rfl

theorem Moved.turn {k : Machine} (h : Moved k n) (hk : k.stack = m.stack) : Turn m n := by
  rcases h with rfl | h
  · exact .stays (by rw [hk])
  · cases h.turn with
    | stays same =>
      rw [hk] at same
      exact .stays same
    | covers f covered =>
      rw [hk] at covered
      exact .covers f covered
    | uncovers popped lowered =>
      rw [hk] at popped
      exact .uncovers popped lowered

theorem write_stack (m : Machine) (a : Address) (cell : Cell) :
    (m.write a cell).2.stack = m.stack := by
  unfold write
  split <;> rfl

end Machine

open Machine

/-- **Every act but a loop makes one turn.** -/
theorem Act.turn {a : Act} (h : a.isLoop = false) (m : Machine) : Turn m (a.apply m) := by
  cases a with
  | execute => exact (execute_moved m).turn rfl
  | run | runUntilHalt => cases h
  | tick player => exact (player.tick_moved m).turn rfl
  | splice source destination op =>
    exact .stays (congrArg Stack.callers (splice_authored m source destination op).stack_eq)
  | record recorder op =>
    exact .stays (congrArg Stack.callers (recorder.record_authored m op).stack_eq)
  | recordAndStep recorder op =>
    obtain ⟨k, hk, hm⟩ := recorder.recordAndStep_moved m op
    exact hm.turn hk.stack_eq
  | drop recorder c =>
    obtain ⟨k, hk, hm⟩ := recorder.drop_moved m c
    exact hm.turn hk.stack_eq
  | write a cell => exact .stays (congrArg Stack.callers (m.write_stack a cell))
  | addNode | replaceNode => exact .stays rfl

/-- A loop is a number of steps. -/
theorem Act.steps_of_isLoop {a : Act} (h : a.isLoop = true) (m : Machine) :
    ∃ k, Steps k m (a.apply m) := by
  cases a with
  | run bound => exact run_steps m bound
  | runUntilHalt player bound => exact player.runFrom_steps m 0 bound
  | _ => cases h

namespace Machine

variable {m n : Machine} {base : List Frame} {d : Nat}

theorem one_le_depth (m : Machine) : 1 ≤ m.depth := Nat.le_add_left 1 _

theorem Turn.depth (h : Turn m n) : n.depth ≤ m.depth + 1 ∧ m.depth ≤ n.depth + 1 := by
  unfold Machine.depth Stack.depth
  cases h with
  | stays same => simp [same]
  | covers f covered => simp [covered]
  | uncovers popped _ => simp [Stack.pop?_eq_some_iff.1 popped]

/-! ## Below the active frame -/

/-- A turn that does not go below `base` leaves it alone. -/
theorem Turn.keeps (h : Turn m n) (hb : base <:+ m.stack.callers) (hd : base.length < n.depth) :
    base <:+ n.stack.callers := by
  cases h with
  | stays same =>
    rw [same]
    exact hb
  | covers f covered =>
    rw [covered]
    exact hb.trans (List.suffix_cons f _)
  | uncovers popped _ =>
    rw [Stack.pop?_eq_some_iff.1 popped, List.suffix_cons_iff] at hb
    rcases hb with rfl | hb
    · -- Here `base` would be all the frames of `n`, the active one among them.
      exact absurd hd (Nat.lt_irrefl _)
    · exact hb

/-- A turn that does go below a frame uncovers it, and nothing more. -/
theorem Turn.resumes {f : Frame} (h : Turn m n) (hb : f :: base <:+ m.stack.callers)
    (hd : ¬base.length + 1 < n.depth) : n.stack = ⟨f, base⟩ ∧ n.flag = none := by
  have hl := hb.length_le
  unfold Machine.depth Stack.depth at hd
  cases h with
  | stays same =>
    rw [same] at hd
    exact absurd (Nat.lt_succ_of_le hl) hd
  | covers g covered =>
    rw [covered] at hd
    exact absurd (Nat.lt_succ_of_le (Nat.le_succ_of_le hl)) hd
  | uncovers popped lowered =>
    rw [Stack.pop?_eq_some_iff.1 popped, List.suffix_cons_iff] at hb
    rcases hb with hb | hb
    · obtain ⟨hf, hr⟩ := List.cons.inj hb
      exact ⟨Stack.ext hf.symm hr.symm, lowered⟩
    · exact absurd (Nat.lt_succ_of_le hb.length_le) hd

/-- `n` comes about from `m` by acts that are no loops, with more than `d` frames all the while. -/
inductive Above (d : Nat) (m : Machine) : Machine → Prop
  | refl (above : d < m.depth) : Above d m m
  | act {n : Machine} {a : Act} (before : Above d m n) (single : a.isLoop = false)
      (above : d < (a.apply n).depth) : Above d m (a.apply n)

theorem Above.trans {k : Machine} (h : Above d m n) (h' : Above d n k) : Above d m k := by
  induction h' with
  | refl => exact h
  | act _ single above ih => exact .act ih single above

theorem Above.mono {e : Nat} (h : Above d m n) (he : e ≤ d) : Above e m n := by
  induction h with
  | refl above => exact .refl (Nat.lt_of_le_of_lt he above)
  | act _ single above ih => exact .act ih single (Nat.lt_of_le_of_lt he above)

theorem Above.lt_depth (h : Above d m n) : d < n.depth := by
  cases h with
  | refl above | act _ _ above => exact above

theorem Above.execute (head : m.execute = (.ok true, n)) (hm : d < m.depth) (hn : d < n.depth) :
    Above d m n := by
  have he : Act.execute.apply m = n := congrArg Prod.snd head
  rw [← he] at hn ⊢
  exact .act (.refl hm) rfl hn

/-- The steps of a loop stay above `d`, or there is a first one that does not. -/
theorem Steps.above_or {k : Nat} {p : Machine} (h : Steps k m p) (hd : d < m.depth) :
    Above d m p ∨ ∃ n j, Above d m n ∧ ¬d < (Act.execute.apply n).depth ∧
      Steps j (Act.execute.apply n) p := by
  induction h with
  | refl m => exact .inl (.refl hd)
  | @next k m n p head tail ih =>
    by_cases hn : d < n.depth
    · have hfirst := Above.execute head hd hn
      rcases ih hn with ha | ⟨q, j, ha, hq, hs⟩
      · exact .inl (hfirst.trans ha)
      · exact .inr ⟨q, j, hfirst.trans ha, hq, hs⟩
    · have he : Act.execute.apply m = n := congrArg Prod.snd head
      rw [← he] at hn tail
      exact .inr ⟨m, k, .refl hd, hn, tail⟩

/-- **What is below stays as it is.** -/
theorem Above.keeps (h : Above base.length m n) (hb : base <:+ m.stack.callers) :
    base <:+ n.stack.callers := by
  induction h with
  | refl => exact hb
  | act _ single above ih => exact (Act.turn single _).keeps ih above

/-! ## The bracket -/

/-- A call is executed at `m`, which will resume it at `link`. -/
structure Calls (m inside : Machine) (link : NodeId) : Prop where
  current : ∃ target origin, m.currentInstruction? = some (.call target origin link)
  made : m.execute = (.ok true, inside)

variable {inside : Machine} {link : NodeId}

theorem Calls.callers (h : m.Calls inside link) :
    inside.stack.callers = m.stack.top.advance link :: m.stack.callers := by
  obtain ⟨target, origin, hi⟩ := h.current
  cases execute_eq_true_iff.1 h.made with
  | call current =>
    rw [hi] at current
    cases current
    rfl
  | data current | branch current | jump current | ret current =>
    rw [hi] at current
    cases current

theorem Calls.depth (h : m.Calls inside link) : inside.depth = m.depth + 1 := by
  simp [Machine.depth, Stack.depth, h.callers]

/-- Until the call returns, its caller and the frames below lie under all others. -/
theorem Calls.below (h : m.Calls inside link) (ha : Above m.depth inside n) :
    m.stack.top.advance link :: m.stack.callers <:+ n.stack.callers := by
  have hstart : m.stack.top.advance link :: m.stack.callers <:+ inside.stack.callers :=
    ⟨[], h.callers.symm⟩
  exact Above.keeps ha hstart

/-- The first act that is not above the caller any more resumes it. -/
theorem Calls.resumes (h : m.Calls inside link) (ha : Above m.depth inside n) {a : Act}
    (single : a.isLoop = false) (hd : ¬m.depth < (a.apply n).depth) :
    (a.apply n).stack = m.stack.modifyTop (·.advance link) ∧ (a.apply n).flag = none :=
  (Act.turn single n).resumes (h.below ha) hd

/-- `n` comes about from `m` by calls, each made inside the one before it, and then as many returns.
Before, between and after them anything may be done that does not end the call it is done in. -/
inductive Nested : Nat → Machine → Machine → Prop
  | none (m : Machine) : Nested 0 m m
  | call {count : Nat} {m inside start stop last : Machine} {link : NodeId} {a : Act}
      (called : m.Calls inside link) (before : Above m.depth inside start)
      (inner : Nested count start stop) (after : Above m.depth stop last)
      (single : a.isLoop = false) (returned : (a.apply last).depth = m.depth) :
      Nested (count + 1) m (a.apply last)

/-- Nested calls never go below where they started. -/
theorem Nested.above {count : Nat} (h : Nested count m n) (hd : d < m.depth) : Above d m n := by
  induction h generalizing d with
  | none m => exact .refl hd
  | @call count m inside start stop last link a called before inner after single returned ih =>
    have hdeep : d < inside.depth := by
      rw [called.depth]
      exact Nat.lt_succ_of_lt hd
    have hfirst := Above.execute called.made hd hdeep
    have hlast := before.trans ((ih before.lt_depth).trans after)
    refine .act (hfirst.trans (hlast.mono (Nat.le_of_lt hd))) single ?_
    rw [returned]
    exact hd

/-- Nested calls and their returns leave at most this trace in the stack, that the active frame has
gone on. -/
theorem Nested.stack_eq {count : Nat} (h : Nested count m n) :
    n.stack = m.stack ∨ ∃ link, n.stack = m.stack.modifyTop (·.advance link) := by
  cases h with
  | none m => exact .inl rfl
  | @call count m inside start stop last link a called before inner after single returned =>
    have hlast := before.trans ((inner.above before.lt_depth).trans after)
    exact .inr ⟨link, (called.resumes hlast single (Nat.not_lt.2 (Nat.le_of_eq returned))).1⟩

theorem Nested.restores {count : Nat} (h : Nested count m n) :
    n.depth = m.depth ∧
      n.stack.toList.map Frame.origin = m.stack.toList.map Frame.origin ∧
      n.stack.toList.map Frame.target = m.stack.toList.map Frame.target := by
  unfold Machine.depth
  rcases h.stack_eq with hs | ⟨link, hs⟩
  · rw [hs]
    exact ⟨rfl, rfl, rfl⟩
  · rw [hs]
    simp [Stack.modifyTop, Stack.toList, Stack.depth, Frame.advance]

/-- **Calls and returns are brackets.** From a call until the depth is that of the caller again, the
lowest frames are left as they are; the act that comes back finds the stack of the caller, gone on
to its link, and a cleared flag. The depth changes by one at most with each act and is never zero. A
loop counts as the steps it makes, which stay above a given depth or have a first one that comes
back to it. Nested calls with their returns restore the depth, the origins and the targets. -/
theorem call_bracketed :
    (∀ (m inside : Machine) (link : NodeId), m.Calls inside link →
      inside.depth = m.depth + 1 ∧
      (∀ n, Above m.depth inside n →
        n.stack.toList.take m.depth = inside.stack.toList.take m.depth) ∧
      ∀ n (a : Act), Above m.depth inside n → a.isLoop = false →
        ¬m.depth < (a.apply n).depth →
        (a.apply n).stack =
          { m.stack with
            top := { m.stack.top with current := link, previous := some m.stack.top.current } } ∧
        (a.apply n).flag = none) ∧
    (∀ (m : Machine) (a : Act), a.isLoop = false →
      1 ≤ m.depth ∧ (a.apply m).depth ≤ m.depth + 1 ∧ m.depth ≤ (a.apply m).depth + 1) ∧
    (∀ (m : Machine) (a : Act), a.isLoop = true →
      (∃ k, Steps k m (a.apply m)) ∧
      ∀ d, d < m.depth → Above d m (a.apply m) ∨
        ∃ n k, Above d m n ∧ ¬d < (Act.execute.apply n).depth ∧
          Steps k (Act.execute.apply n) (a.apply m)) ∧
    ∀ (count : Nat) (m n : Machine), Nested count m n →
      n.depth = m.depth ∧
      n.stack.toList.map Frame.origin = m.stack.toList.map Frame.origin ∧
      n.stack.toList.map Frame.target = m.stack.toList.map Frame.target := by
  refine ⟨fun m inside link h => ⟨h.depth, ?_, ?_⟩, ?_, ?_, ?_⟩
  · intro n ha
    have hdeep : m.depth < inside.depth := by
      rw [h.depth]
      exact Nat.lt_succ_self _
    have hstart : Above m.depth inside inside := .refl hdeep
    exact (Stack.take_toList (h.below ha)).trans (Stack.take_toList (h.below hstart)).symm
  · intro n a ha single hd
    exact h.resumes ha single hd
  · intro m a single
    exact ⟨m.one_le_depth, (Act.turn single m).depth⟩
  · intro m a loop
    obtain ⟨k, hs⟩ := Act.steps_of_isLoop loop m
    exact ⟨⟨k, hs⟩, fun d hd => hs.above_or hd⟩
  · intro count m n h
    exact h.restores

/-- A call is recorded and made, and in it a return. -/
theorem recorded_call_bracketed :
    let m := (initial.splice (.absolute ⟨1, 0⟩) (.absolute ⟨2, 0⟩) .call).2
    let inside := m.execute.2
    let n := Act.apply (.splice (.absolute ⟨1, 0⟩) (.absolute ⟨2, 0⟩) .ret) inside
    inside.depth = m.depth + 1 ∧
      (Act.execute.apply n).stack =
        { m.stack with
          top := { m.stack.top with current := ⟨1⟩, previous := some m.stack.top.current } } ∧
      (Act.execute.apply n).flag = none ∧ (Act.execute.apply n).depth = m.depth := by
  intro m inside n
  have hcall : m.Calls inside ⟨1⟩ := ⟨⟨_, _, rfl⟩, rfl⟩
  have hm : m.depth = 1 := rfl
  have hinside : inside.depth = 2 := rfl
  have hn : n.depth = 2 := rfl
  have hdeep : m.depth < n.depth := by omega
  have hback : (Act.execute.apply n).depth = m.depth := by decide +kernel
  obtain ⟨hbracket, -, -, hnested⟩ := call_bracketed
  obtain ⟨hd, -, hresume⟩ := hbracket m inside ⟨1⟩ hcall
  have hstart : Above m.depth inside inside := .refl (by omega)
  have habove : Above m.depth inside n := .act hstart rfl hdeep
  obtain ⟨hs, hf⟩ := hresume n .execute habove rfl (Nat.not_lt.2 (Nat.le_of_eq hback))
  have hone : Nested 1 m (Act.execute.apply n) :=
    .call hcall hstart (.none inside) habove rfl hback
  exact ⟨hd, hs, hf, (hnested 1 m _ hone).1⟩

end Machine

end GridMachine
