import GridMachine.Proofs.Acts

/-! # The schedule does not matter

A machine is driven step by step, by runs with a bound, by the ticks of a player, or by runs of the
player, and the player may be paused and resumed in between. A call is shown to be no more than a
run, with a bound of its own that is zero for a paused player (`Drive.allowance`). What a run does
is known from the number of steps that execution makes within its bound (`progress`), so a sequence
of calls comes to the state after as many steps as its calls made, however they were distributed,
and a run can be split at any bound. -/

namespace GridMachine

namespace Machine

variable {m n : Machine} {k bound : Nat} {trap : Trap}

/-! ## How far a run gets -/

/-- How many of at most `bound` executions in a row make a step. -/
def progress : Nat → Machine → Nat
  | 0, _ => 0
  | bound + 1, m =>
    match m.execute with
    | (.ok true, n) => n.progress bound + 1
    | _ => 0

theorem Steps.progress_add (h : Steps k m n) (bound : Nat) :
    m.progress (k + bound) = k + n.progress bound := by
  induction h with
  | refl m => simp
  | @next k m n p head _ ih =>
    have hk : k + 1 + bound = k + bound + 1 := by omega
    rw [hk, progress, head]
    show n.progress (k + bound) + 1 = k + 1 + p.progress bound
    omega

/-- Where no step is made there is no progress. -/
theorem progress_of_stopped (h : m.execute.1 ≠ .ok true) (bound : Nat) : m.progress bound = 0 := by
  cases bound with
  | zero => rfl
  | succ bound =>
    rw [progress]
    split
    · rename_i he
      rw [he] at h
      exact absurd rfl h
    · rfl

theorem runFrom_of_stopped (h : m.execute.1 ≠ .ok true) (made bound : Nat) :
    (m.runFrom made bound).2 = m := by
  cases bound with
  | zero => rfl
  | succ bound =>
    rw [runFrom]
    split
    · rename_i he
      rw [he] at h
      exact absurd rfl h
    · exact (execute_eq_false_iff.1 ‹_›).2
    · exact (execute_eq_error_iff.1 ‹_›).2

/-- Steps that use up the bound, or end where no further step is made, are all the progress. -/
theorem Steps.progress_eq (h : Steps k m n) (hk : k ≤ bound)
    (hn : k = bound ∨ n.execute.1 ≠ .ok true) : m.progress bound = k := by
  obtain ⟨rest, rfl⟩ := Nat.exists_eq_add_of_le hk
  rw [h.progress_add]
  rcases hn with hn | hn
  · have hrest : rest = 0 := by omega
    rw [hrest]
    rfl
  · rw [progress_of_stopped hn, Nat.add_zero]

/-- A run that ends without a trap reports its progress. -/
theorem run_eq_ok (h : m.run bound = (.ok k, n)) :
    m.progress bound = k ∧ Steps k m n ∧ k ≤ bound ∧ (k = bound ∨ n.execute.1 = .ok false) := by
  obtain ⟨j, hj, hk, hs, hend⟩ := runFrom_eq_ok h
  obtain rfl : k = j := by omega
  have hend' : k = bound ∨ n.execute.1 = .ok false := hend.imp_right fun he => by rw [he]
  refine ⟨hs.progress_eq hj (hend'.imp_right fun he => ?_), hs, hj, hend'⟩
  rw [he]
  nofun

/-- A run that traps has made its progress before, and stands where the trap is. -/
theorem run_eq_error (h : m.run bound = (.error trap, n)) :
    m.progress bound < bound ∧ Steps (m.progress bound) m n ∧ n.execute = (.error trap, n) := by
  obtain ⟨k, hk, hs, ht⟩ := runFrom_eq_error h
  have hn : n.execute.1 ≠ .ok true := by
    rw [ht]
    nofun
  rw [hs.progress_eq (Nat.le_of_lt hk) (.inr hn)]
  exact ⟨hk, hs, ht⟩

/-- **A run makes its progress**, whatever it ends with. -/
theorem steps_progress (m : Machine) (bound : Nat) :
    Steps (m.progress bound) m (m.run bound).2 := by
  rcases h : m.run bound with ⟨trap | k, n⟩
  · exact (run_eq_error h).2.1
  · obtain ⟨hk, hs, -⟩ := run_eq_ok h
    rw [hk]
    exact hs

theorem run_one (m : Machine) : m.run 1 = (Bool.toNat <$> m.execute.1, m.execute.2) := by
  rw [run, runFrom]
  rcases m.execute with ⟨_ | (_ | _), n⟩ <;> rfl

/-! ## A run in two parts -/

/-- What was counted before is added to the count. -/
theorem runFrom_add (made start bound : Nat) (m : Machine) :
    m.runFrom (made + start) bound =
      ((made + ·) <$> (m.runFrom start bound).1, (m.runFrom start bound).2) := by
  induction bound generalizing start m with
  | zero => rfl
  | succ bound ih =>
    rw [runFrom, runFrom]
    rcases m.execute with ⟨_ | (_ | _), n⟩
    · rfl
    · rfl
    · exact ih (start + 1) n

/-- A run that uses up its bound can be gone on with. -/
theorem run_add_of_full {a : Nat} (h : m.run a = (.ok a, n)) (b : Nat) :
    m.run (a + b) = ((a + ·) <$> (n.run b).1, (n.run b).2) := by
  obtain ⟨-, hs, -⟩ := run_eq_ok h
  rw [run, hs.runFrom_eq, Nat.zero_add]
  exact runFrom_add a 0 b n

/-- A run that stops short of its bound stops there under any greater bound. -/
theorem run_add_of_short {a : Nat} (h : m.run a = (.ok k, n)) (hk : k < a) (b : Nat) :
    m.run (a + b) = (.ok k, n) ∧ n.run b = (.ok 0, n) := by
  obtain ⟨-, hs, -, hend⟩ := run_eq_ok h
  have hnop := execute_fst_eq_false_iff.1 (hend.resolve_left (Nat.ne_of_lt hk))
  obtain ⟨rest, rfl⟩ := Nat.exists_eq_add_of_le (Nat.le_of_lt hk)
  refine ⟨?_, runFrom_of_nop hnop 0 b⟩
  rw [run, Nat.add_assoc, hs.runFrom_eq, Nat.zero_add]
  exact runFrom_of_nop hnop k _

/-- A run that traps traps there under any greater bound. -/
theorem run_add_of_error {a : Nat} (h : m.run a = (.error trap, n)) (b : Nat) :
    m.run (a + b) = (.error trap, n) := by
  obtain ⟨hk, hs, ht⟩ := run_eq_error h
  generalize m.progress a = k at hk hs
  obtain ⟨rest, hrest⟩ := Nat.exists_eq_add_of_lt hk
  have hab : a + b = k + (rest + b + 1) := by omega
  rw [run, hab, hs.runFrom_eq, runFrom, ht]

theorem run_snd_add (m : Machine) (a b : Nat) : ((m.run a).2.run b).2 = (m.run (a + b)).2 := by
  rcases h : m.run a with ⟨trap | k, n⟩
  · obtain ⟨-, -, ht⟩ := run_eq_error h
    have hn : n.execute.1 ≠ .ok true := by
      rw [ht]
      nofun
    rw [run_add_of_error h]
    exact runFrom_of_stopped hn 0 b
  · obtain ⟨-, -, hk, -⟩ := run_eq_ok h
    by_cases hfull : k = a
    · rw [hfull] at h
      rw [run_add_of_full h]
    · obtain ⟨hwhole, hrest⟩ := run_add_of_short h (by omega) b
      rw [hwhole]
      show (n.run b).2 = n
      rw [hrest]

end Machine

open Machine

/-! ## The player -/

namespace Player

variable {p : Player}

theorem tick_of_playing (h : p.playing = true) (m : Machine) :
    ((p.tick m).1, (p.tick m).2.2) = m.execute := by
  unfold tick
  rw [if_pos h]
  rcases m.execute with ⟨_ | (_ | _), n⟩ <;> rfl

theorem tick_of_paused (h : p.playing = false) (m : Machine) : p.tick m = (.ok false, p, m) := by
  unfold tick
  rw [if_neg (by simp [h])]

/-- A tick that makes a step leaves the player playing. -/
theorem playing_of_tick {q : Player} {m n : Machine} (h : p.tick m = (.ok true, q, n)) :
    q.playing = true := by
  by_cases hp : p.playing = true
  · unfold tick at h
    rw [if_pos hp] at h
    split at h <;> cases h
    exact hp
  · rw [tick_of_paused (by simpa using hp)] at h
    cases h

/-- **A run of the player is a run of the machine** while it is playing. -/
theorem runFrom_of_playing (h : p.playing = true) (made bound : Nat) (m : Machine) :
    ((p.runFrom made bound m).1, (p.runFrom made bound m).2.2) = m.runFrom made bound := by
  induction bound generalizing p made m with
  | zero => rfl
  | succ bound ih =>
    have htick := tick_of_playing h m
    rw [runFrom, Machine.runFrom, ← htick]
    rcases hr : p.tick m with ⟨_ | (_ | _), q, n⟩
    · rfl
    · rfl
    · exact ih (playing_of_tick hr) (made + 1) n

theorem runFrom_of_paused (h : p.playing = false) (made bound : Nat) (m : Machine) :
    p.runFrom made bound m = (.ok made, p, m) := by
  cases bound with
  | zero => rfl
  | succ bound => rw [runFrom, tick_of_paused h]

end Player

/-! ## Calls in any order -/

/-- A call that drives a machine, or the player that plays it. -/
inductive Drive where
  | execute
  | run (bound : Nat)
  | tick
  | runUntilHalt (bound : Nat)
  | play
  | pause
deriving DecidableEq

namespace Drive

/-- The call, made on the player `p` and the machine `m`: how many steps it reports, or the trap,
and the two then. -/
def apply (p : Player) (m : Machine) : Drive → Except Trap Nat × Player × Machine
  | execute => (Bool.toNat <$> m.execute.1, p, m.execute.2)
  | run bound => ((m.run bound).1, p, (m.run bound).2)
  | tick => (Bool.toNat <$> (p.tick m).1, (p.tick m).2)
  | runUntilHalt bound => p.runUntilHalt m bound
  | play => (.ok 0, p.play, m)
  | pause => (.ok 0, p.pause, m)

/-- How many steps the call may make. A paused player may make none. -/
def allowance (p : Player) : Drive → Nat
  | execute => 1
  | run bound => bound
  | tick => if p.playing then 1 else 0
  | runUntilHalt bound => if p.playing then bound else 0
  | play | pause => 0

/-- How many steps the call makes: as many as execution makes within its allowance. -/
def made (d : Drive) (p : Player) (m : Machine) : Nat := m.progress (d.allowance p)

/-- The player and the machine after the calls. -/
def applyAll : List Drive → Player → Machine → Player × Machine
  | [], p, m => (p, m)
  | d :: rest, p, m => applyAll rest (d.apply p m).2.1 (d.apply p m).2.2

/-- How many steps the calls make in all. -/
def madeByAll : List Drive → Player → Machine → Nat
  | [], _, _ => 0
  | d :: rest, p, m => d.made p m + madeByAll rest (d.apply p m).2.1 (d.apply p m).2.2

/-- **Every call is a run** with its allowance for a bound. -/
theorem apply_eq_run (d : Drive) (p : Player) (m : Machine) :
    ((d.apply p m).1, (d.apply p m).2.2) = m.run (d.allowance p) := by
  cases d with
  | execute => exact (run_one m).symm
  | run | play | pause => rfl
  | tick =>
    show (Bool.toNat <$> (p.tick m).1, (p.tick m).2.2) = m.run (if p.playing then 1 else 0)
    cases hp : p.playing with
    | true =>
      rw [if_pos rfl, run_one, ← Player.tick_of_playing hp m]
    | false =>
      rw [Player.tick_of_paused hp]
      rfl
  | runUntilHalt bound =>
    show ((p.runFrom 0 bound m).1, (p.runFrom 0 bound m).2.2) =
      m.run (if p.playing then bound else 0)
    cases hp : p.playing with
    | true => exact Player.runFrom_of_playing hp 0 bound m
    | false =>
      rw [Player.runFrom_of_paused hp]
      rfl

theorem steps_made (d : Drive) (p : Player) (m : Machine) :
    Steps (d.made p m) m (d.apply p m).2.2 := by
  have hrun := congrArg Prod.snd (d.apply_eq_run p m)
  have hsteps := steps_progress m (d.allowance p)
  rw [← hrun] at hsteps
  exact hsteps

/-- However it is driven, a machine comes to the state after the steps that were made. -/
theorem steps_madeByAll (ds : List Drive) (p : Player) (m : Machine) :
    Steps (madeByAll ds p m) m (applyAll ds p m).2 := by
  induction ds generalizing p m with
  | nil => exact .refl m
  | cons d rest ih => exact (d.steps_made p m).trans (ih _ _)

/-- What a call reports is what it made; and if it traps, that is where the machine stands. -/
theorem reports {d : Drive} {p q : Player} {m n : Machine} {r : Except Trap Nat}
    (h : d.apply p m = (r, q, n)) :
    Steps (d.made p m) m n ∧ (∀ k, r = .ok k → d.made p m = k) ∧
      ∀ trap, r = .error trap → n.execute = (.error trap, n) := by
  have hsteps := d.steps_made p m
  have hrun := d.apply_eq_run p m
  rw [h] at hsteps hrun
  refine ⟨hsteps, ?_, ?_⟩
  · rintro k rfl
    exact (run_eq_ok hrun.symm).1
  · rintro trap rfl
    exact (run_eq_error hrun.symm).2.2

/-- At a placeholder no call makes a step. -/
theorem made_of_nop (d : Drive) (p : Player) {m : Machine}
    (h : m.currentInstruction? = some .nop) : d.made p m = 0 := by
  apply progress_of_stopped
  rw [execute_fst_eq_false_iff.2 h]
  nofun

end Drive

/-- **The schedule does not matter.** Driven by any calls in any order, a machine comes to the state
after the steps that the calls made. A call made as many as it reports, and if it traps, those up
to the state where the trap is; a paused player makes none, and none are made at a placeholder.
While it is playing, a run of the player is a run of the machine. Whatever it did before, a player
that is paused stops, and one that is asked to play goes on. And a run in two parts comes to what
the whole run comes to: their counts add up if the first part uses up its bound, the trap of
the second part is then that of the whole, and otherwise the first part is all there is. -/
theorem schedule_irrelevant :
    (∀ (ds : List Drive) (p : Player) (m : Machine),
      Steps (Drive.madeByAll ds p m) m (Drive.applyAll ds p m).2) ∧
    (∀ (d : Drive) (p q : Player) (m n : Machine) (r : Except Trap Nat),
      d.apply p m = (r, q, n) →
      Steps (d.made p m) m n ∧ (∀ k, r = .ok k → d.made p m = k) ∧
        ∀ trap, r = .error trap → n.execute = (.error trap, n)) ∧
    (∀ (p : Player) (m : Machine), p.playing = false →
      p.tick m = (.ok false, p, m) ∧ ∀ bound, p.runUntilHalt m bound = (.ok 0, p, m)) ∧
    (∀ (d : Drive) (p : Player) (m : Machine), m.currentInstruction? = some .nop →
      d.made p m = 0) ∧
    (∀ (p : Player) (m : Machine) (bound : Nat), p.playing = true →
      ((p.runUntilHalt m bound).1, (p.runUntilHalt m bound).2.2) = m.run bound) ∧
    (∀ (p : Player) (m : Machine) (bound : Nat),
      p.pause.tick m = (.ok false, p.pause, m) ∧
      p.pause.runUntilHalt m bound = (.ok 0, p.pause, m) ∧
      ((p.play.tick m).1, (p.play.tick m).2.2) = m.execute ∧
      ((p.play.runUntilHalt m bound).1, (p.play.runUntilHalt m bound).2.2) = m.run bound) ∧
    ∀ (m : Machine) (a b : Nat),
      ((m.run a).2.run b).2 = (m.run (a + b)).2 ∧
      (∀ n, m.run a = (.ok a, n) →
        (∀ k last, n.run b = (.ok k, last) → m.run (a + b) = (.ok (a + k), last)) ∧
        ∀ trap last, n.run b = (.error trap, last) → m.run (a + b) = (.error trap, last)) ∧
      (∀ k n, m.run a = (.ok k, n) → k < a → m.run (a + b) = (.ok k, n)) ∧
      ∀ trap n, m.run a = (.error trap, n) → m.run (a + b) = (.error trap, n) := by
  refine ⟨Drive.steps_madeByAll, ?_, ?_, ?_, ?_, ?_, ?_⟩
  · intro d p q m n r h
    exact Drive.reports h
  · intro p m hp
    exact ⟨Player.tick_of_paused hp m, fun bound => Player.runFrom_of_paused hp 0 bound m⟩
  · intro d p m h
    exact d.made_of_nop p h
  · intro p m bound hp
    exact Player.runFrom_of_playing hp 0 bound m
  · intro p m bound
    have hpaused : p.pause.playing = false := rfl
    have hplaying : p.play.playing = true := rfl
    exact ⟨Player.tick_of_paused hpaused m, Player.runFrom_of_paused hpaused 0 bound m,
      Player.tick_of_playing hplaying m, Player.runFrom_of_playing hplaying 0 bound m⟩
  · intro m a b
    refine ⟨run_snd_add m a b, ?_, ?_, ?_⟩
    · intro n h
      have hwhole := run_add_of_full h b
      refine ⟨?_, ?_⟩
      · intro k last hlast
        rw [hwhole, hlast]
        rfl
      · intro trap last hlast
        rw [hwhole, hlast]
        rfl
    · intro k n h hk
      exact (run_add_of_short h hk b).1
    · intro trap n h
      exact run_add_of_error h b

/-- The function that stores a pointer and returns to nobody. The tick of a paused player makes no
step, that of a player that plays again makes one, and the runs after it, of the player and of the
machine, end at the trap. Split after that step, a run traps as a whole. -/
theorem strayReturn_schedule :
    let p : Player := .ofConfig {}
    let ds : List Drive := [.pause, .tick, .play, .tick, .runUntilHalt 3, .tick, .run 2]
    p.pause.tick strayReturn = (.ok false, p.pause, strayReturn) ∧
      Drive.madeByAll (ds.take 2) p strayReturn = 0 ∧
      Drive.madeByAll (ds.take 4) p strayReturn = 1 ∧ Drive.madeByAll ds p strayReturn = 1 ∧
      Steps 1 strayReturn (Drive.applyAll ds p strayReturn).2 ∧
      ((p.runUntilHalt strayReturn 5).1, (p.runUntilHalt strayReturn 5).2.2) =
        strayReturn.run 5 ∧
      strayReturn.run 1 = (.ok 1, strayReturn.execute.2) ∧
      strayReturn.run (1 + 4) = (.error .returnFromRoot, strayReturn.execute.2) := by
  intro p ds
  obtain ⟨hsteps, -, -, -, hplaying, hpause, hsplit⟩ := schedule_irrelevant
  have hmade : Drive.madeByAll ds p strayReturn = 1 := by decide +kernel
  have hfirst : strayReturn.run 1 = (.ok 1, strayReturn.execute.2) := rfl
  have hrest : strayReturn.execute.2.run 4 =
      (.error .returnFromRoot, strayReturn.execute.2) := rfl
  refine ⟨(hpause p strayReturn 0).1, by decide +kernel, by decide +kernel, hmade, ?_,
    hplaying p strayReturn 5 rfl, hfirst, ?_⟩
  · rw [← hmade]
    exact hsteps ds p strayReturn
  · exact ((hsplit strayReturn 1 4).2.1 _ hfirst).2 .returnFromRoot _ hrest

end GridMachine
