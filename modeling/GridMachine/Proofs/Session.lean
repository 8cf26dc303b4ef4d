import GridMachine.Proofs.Driving

/-! # What a player remembers

A session is the life of one player. It is made from its settings and then driven, and between its
calls anything at all may be done to the machine. The log of a session says what the events were and
what came of each. A call on the player does two things to it, whatever the call was: the steps that
it made are added to the count, and a trap that it reports pauses the player and is kept
(`Player.noted`). From that, the log tells what the player remembers: the trap that stands, and the
number of steps made through the player, also by the runs that ended in a trap. -/

namespace GridMachine

open Machine

/-! ## What a call does to the player -/

namespace Player

variable {p : Player} {α β : Type}

/-- The player after a call that made `made` steps, by what the call reported. -/
def noted (p : Player) (made : Nat) : Except Trap α → Player
  | .ok _ => { p with ticks := p.ticks + made }
  | .error trap => { p with ticks := p.ticks + made, playing := false, lastTrap := some trap }

/-- What is noted in two parts is noted as a whole. -/
theorem noted_noted (p : Player) (made more : Nat) (a : α) (report : Except Trap β) :
    (p.noted made (.ok a : Except Trap α)).noted more report = p.noted (more + made) report := by
  cases report <;> simp [noted, Nat.add_comm more, Nat.add_assoc]

theorem tick_noted (h : p.playing = true) (m : Machine) :
    (p.tick m).2.1 = p.noted (m.progress 1) (p.tick m).1 := by
  unfold tick progress
  rw [if_pos h]
  rcases m.execute with ⟨_ | (_ | _), n⟩ <;> rfl

/-- The steps of a run are noted tick by tick, and only the last tick can trap. -/
theorem runFrom_noted (h : p.playing = true) (made bound : Nat) (m : Machine) :
    (p.runFrom made bound m).2.1 = p.noted (m.progress bound) (p.runFrom made bound m).1 := by
  induction bound generalizing p made m with
  | zero => rfl
  | succ bound ih =>
    have htick := tick_of_playing h m
    have hnoted := tick_noted h m
    rw [progress, ← htick] at hnoted
    rw [runFrom, progress, ← htick]
    rcases hr : p.tick m with ⟨_ | (_ | _), q, n⟩ <;> rw [hr] at hnoted
    · exact hnoted
    · exact hnoted
    · have hq : q = p.noted 1 (.ok true : Except Trap Bool) := hnoted
      show (q.runFrom (made + 1) bound n).2.1 =
        p.noted (n.progress bound + 1) (q.runFrom (made + 1) bound n).1
      rw [ih (playing_of_tick hr) (made + 1) n, ← noted_noted, ← hq]

end Player

namespace Drive

variable {d : Drive} {p : Player}

/-- Whether the call makes its steps through the player. -/
def isPlayed : Drive → Bool
  | tick | runUntilHalt _ => true
  | execute | run _ | play | pause => false

/-- A paused player lets the call pass. -/
theorem apply_of_paused (h : d.isPlayed = true) (hp : p.playing = false) (m : Machine) :
    d.apply p m = (.ok 0, p, m) ∧ d.made p m = 0 := by
  cases d with
  | tick =>
    rw [apply, Player.tick_of_paused hp, made, allowance, hp]
    exact ⟨rfl, rfl⟩
  | runUntilHalt bound =>
    rw [apply, Player.runUntilHalt, Player.runFrom_of_paused hp, made, allowance, hp]
    exact ⟨rfl, rfl⟩
  | execute | run | play | pause => cases h

/-- **A call on the player is noted by it**: the steps that it made and the trap that it reports. -/
theorem player_eq (h : d.isPlayed = true) (p : Player) (m : Machine) :
    (d.apply p m).2.1 = p.noted (d.made p m) (d.apply p m).1 := by
  cases hp : p.playing with
  | false =>
    obtain ⟨happly, hmade⟩ := apply_of_paused h hp m
    rw [happly, hmade]
    rfl
  | true =>
    cases d with
    | tick =>
      have hmade : tick.made p m = m.progress 1 := by rw [made, allowance, if_pos hp]
      show (p.tick m).2.1 = p.noted (tick.made p m) (Bool.toNat <$> (p.tick m).1)
      rw [hmade, Player.tick_noted hp]
      cases (p.tick m).1 <;> rfl
    | runUntilHalt bound =>
      have hmade : (runUntilHalt bound).made p m = m.progress bound := by
        rw [made, allowance, if_pos hp]
      rw [hmade]
      exact Player.runFrom_noted hp 0 bound m
    | execute | run | play | pause => cases h

end Drive

/-! ## Sessions -/

/-- One event in the life of a player. -/
inductive Event where
  | drive (d : Drive)
  /-- Anything else that is done to the machine. -/
  | elsewhere (change : Machine → Machine)

namespace Event

def isPlayed : Event → Bool
  | drive d => d.isPlayed
  | elsewhere _ => false

/-- The event, with the player `p` and the machine `m`: what is reported, and the two then. -/
def apply (p : Player) (m : Machine) : Event → Except Trap Nat × Player × Machine
  | drive d => d.apply p m
  | elsewhere change => (.ok 0, p, change m)

/-- How many steps the event makes through the player. -/
def made (p : Player) (m : Machine) : Event → Nat
  | drive d => if d.isPlayed then d.made p m else 0
  | elsewhere _ => 0

end Event

/-- What the log of a session says about an event. -/
structure Entry where
  event : Event
  before : Machine
  after : Machine
  report : Except Trap Nat
  /-- How many steps were made through the player. -/
  made : Nat

/-- How many steps were made through the player in all. -/
def Entry.madeByAll : List Entry → Nat
  | [] => 0
  | x :: log => x.made + madeByAll log

def Event.entry (e : Event) (p : Player) (m : Machine) : Entry :=
  ⟨e, m, (e.apply p m).2.2, (e.apply p m).1, e.made p m⟩

/-- The player `p`, made with the settings `c`, and the machine `m` after the events in the log,
which has the latest event first. -/
inductive Session (c : PlayerConfig) : List Entry → Player → Machine → Prop
  | start (m : Machine) : Session c [] (.ofConfig c) m
  | event {log : List Entry} {p : Player} {m : Machine} (e : Event) (before : Session c log p m) :
      Session c (e.entry p m :: log) (e.apply p m).2.1 (e.apply p m).2.2

/-- The entry is a call on the player that reported the trap. -/
def Entry.Fails (x : Entry) (trap : Trap) : Prop :=
  x.event.isPlayed = true ∧ x.report = .error trap

/-- The trap was reported by the last call on the player that failed, and the player was not asked
to play since. -/
def Standing (log : List Entry) (trap : Trap) : Prop :=
  ∃ later x earlier, log = later ++ x :: earlier ∧ x.Fails trap ∧
    ∀ y ∈ later, y.event ≠ .drive .play ∧ ∀ t, ¬y.Fails t

theorem not_standing_nil (trap : Trap) : ¬Standing [] trap := by
  rintro ⟨later, x, earlier, hlog, -⟩
  simp at hlog

theorem standing_cons_iff {x : Entry} {log : List Entry} {trap : Trap} :
    Standing (x :: log) trap ↔
      x.Fails trap ∨
        (x.event ≠ .drive .play ∧ ∀ t, ¬x.Fails t) ∧ Standing log trap := by
  constructor
  · rintro ⟨later, y, earlier, hlog, hfails, hsince⟩
    cases later with
    | nil =>
      obtain ⟨rfl, rfl⟩ := List.cons.inj hlog
      exact .inl hfails
    | cons z later =>
      obtain ⟨rfl, rfl⟩ := List.cons.inj hlog
      obtain ⟨hx, hsince⟩ := List.forall_mem_cons.1 hsince
      exact .inr ⟨hx, later, y, earlier, rfl, hfails, hsince⟩
  · rintro (hfails | ⟨hx, later, y, earlier, rfl, hfails, hsince⟩)
    · exact ⟨[], x, log, rfl, hfails, fun y hy => by cases hy⟩
    · exact ⟨x :: later, y, earlier, rfl, hfails, List.forall_mem_cons.2 ⟨hx, hsince⟩⟩

/-- A call on the player has failed, and the player was not asked to play since. -/
def Stopped (log : List Entry) : Prop :=
  ∃ later x earlier trap, log = later ++ x :: earlier ∧ x.Fails trap ∧
    ∀ y ∈ later, y.event ≠ .drive .play

/-- Then some trap stands. -/
theorem Stopped.standing {log : List Entry} (h : Stopped log) : ∃ trap, Standing log trap := by
  obtain ⟨later, x, earlier, trap, rfl, hfails, hsince⟩ := h
  induction later with
  | nil => exact ⟨trap, standing_cons_iff.2 (.inl hfails)⟩
  | cons y later ih =>
    obtain ⟨hy, hsince⟩ := List.forall_mem_cons.1 hsince
    obtain ⟨t, hstanding⟩ := ih hsince
    by_cases hagain : ∃ s, y.Fails s
    · obtain ⟨s, hs⟩ := hagain
      exact ⟨s, standing_cons_iff.2 (.inl hs)⟩
    · exact ⟨t, standing_cons_iff.2 (.inr ⟨⟨hy, not_exists.1 hagain⟩, hstanding⟩)⟩

/-! ## What the log tells -/

/-- The player remembers what the log says. -/
structure Player.Remembers (p : Player) (log : List Entry) : Prop where
  paused : ∀ trap, p.lastTrap = some trap → p.playing = false
  trap : ∀ trap, p.lastTrap = some trap ↔ Standing log trap
  ticks : p.ticks = Entry.madeByAll log

namespace Player.Remembers

variable {p q : Player} {log : List Entry} {x : Entry}

/-- An event that neither fails nor asks to play leaves the trap as it is. -/
theorem kept (h : p.Remembers log) (hplay : x.event ≠ .drive .play) (hfails : ∀ t, ¬x.Fails t)
    (htrap : q.lastTrap = p.lastTrap) (hplaying : p.playing = false → q.playing = false)
    (hticks : q.ticks = p.ticks + x.made) : q.Remembers (x :: log) where
  paused trap hq := hplaying (h.paused trap (htrap.symm.trans hq))
  trap trap := by
    rw [htrap, h.trap, standing_cons_iff, or_iff_right (hfails trap)]
    exact (and_iff_right ⟨hplay, hfails⟩).symm
  ticks := by
    rw [hticks, h.ticks, Entry.madeByAll, Nat.add_comm]

/-- A call on the player that fails is the last one that did. -/
theorem failed (h : p.Remembers log) {t : Trap} (hfails : x.Fails t) :
    (p.noted x.made x.report).Remembers (x :: log) := by
  obtain ⟨hplayed, hreport⟩ := hfails
  have hnoted : p.noted x.made x.report =
      { p with ticks := p.ticks + x.made, playing := false, lastTrap := some t } := by
    rw [hreport]
    rfl
  rw [hnoted]
  refine ⟨fun _ _ => rfl, fun trap => ?_, ?_⟩
  · show some t = some trap ↔ _
    rw [standing_cons_iff]
    constructor
    · rintro ⟨⟩
      exact .inl ⟨hplayed, hreport⟩
    · rintro (⟨-, htrap⟩ | ⟨⟨-, hnone⟩, -⟩)
      · rw [hreport] at htrap
        rw [Except.error.inj htrap]
      · exact absurd ⟨hplayed, hreport⟩ (hnone t)
  · show p.ticks + x.made = _
    rw [h.ticks, Entry.madeByAll, Nat.add_comm]

/-- Asked to play, the player forgets the trap, and so does the log. -/
theorem played (h : p.Remembers log) (hplay : x.event = .drive .play) (hmade : x.made = 0) :
    p.play.Remembers (x :: log) := by
  refine ⟨nofun, fun trap => ?_, ?_⟩
  · rw [standing_cons_iff]
    constructor
    · intro htrap
      cases htrap
    · rintro (⟨hplayed, -⟩ | ⟨⟨hne, -⟩, -⟩)
      · rw [hplay] at hplayed
        cases hplayed
      · exact absurd hplay hne
  · show p.ticks = _
    rw [h.ticks, Entry.madeByAll, hmade, Nat.zero_add]

/-- A call on the player leaves it with what the log says. -/
theorem noted (h : p.Remembers log) (hplayed : x.event.isPlayed = true) :
    (p.noted x.made x.report).Remembers (x :: log) := by
  cases hreport : x.report with
  | error t =>
    rw [← hreport]
    exact h.failed ⟨hplayed, hreport⟩
  | ok k =>
    refine h.kept ?_ ?_ rfl id rfl
    · intro hplay
      rw [hplay] at hplayed
      cases hplayed
    · rintro t ⟨-, ht⟩
      rw [hreport] at ht
      cases ht

/-- **Every event leaves the player with what the log says.** -/
theorem event (h : p.Remembers log) (e : Event) (m : Machine) :
    (e.apply p m).2.1.Remembers (e.entry p m :: log) := by
  cases e with
  | elsewhere change => exact h.kept nofun (fun t ht => nomatch ht.1) rfl id rfl
  | drive d =>
    by_cases hd : d.isPlayed = true
    · have hmade : ((Event.drive d).entry p m).made = d.made p m := if_pos hd
      show (d.apply p m).2.1.Remembers _
      rw [d.player_eq hd p m, ← hmade]
      exact h.noted hd
    · have hmade : ((Event.drive d).entry p m).made = 0 := if_neg hd
      have hfails : ∀ t, ¬((Event.drive d).entry p m).Fails t := fun t ht => hd ht.1
      cases d with
      | tick | runUntilHalt => exact absurd rfl hd
      | play => exact h.played rfl hmade
      | execute | run => exact h.kept nofun hfails rfl id (by rw [hmade]; rfl)
      | pause => exact h.kept nofun hfails rfl (fun _ => rfl) (by rw [hmade]; rfl)

end Player.Remembers

/-- So a player remembers, at every moment of its life, what the log says. -/
theorem Session.remembers {c : PlayerConfig} {log : List Entry} {p : Player} {m : Machine}
    (h : Session c log p m) : p.Remembers log := by
  induction h with
  | start m =>
    refine ⟨nofun, fun trap => ?_, rfl⟩
    exact iff_of_false nofun (not_standing_nil trap)
  | event e before ih => exact ih.event e _

/-- The steps that the log counts for a call on the player are those that it made. -/
theorem Session.made_steps {c : PlayerConfig} {log : List Entry} {p : Player} {m : Machine}
    (h : Session c log p m) {x : Entry} (hx : x ∈ log) (hplayed : x.event.isPlayed = true) :
    Steps x.made x.before x.after ∧ (∀ k, x.report = .ok k → x.made = k) ∧
      ∀ trap, x.report = .error trap → x.after.execute = (.error trap, x.after) := by
  induction h with
  | start m => cases hx
  | @event log p m e before ih =>
    rcases List.mem_cons.1 hx with rfl | hx
    · cases e with
      | elsewhere change => cases hplayed
      | drive d =>
        have hmade : ((Event.drive d).entry p m).made = d.made p m := if_pos hplayed
        rw [hmade]
        exact Drive.reports rfl
    · exact ih hx

/-- **A player remembers the trap that stopped it and counts the steps made through it**, whatever
is done to the machine between its calls. It keeps a trap only while it is paused, and it is the one
that the last failing call reported, unless it was asked to play since. From a failing call on,
until it is asked to play, ticks and runs do nothing. Its count is that of all steps made by the
calls on it, each of which made as many as it reports, or those up to the state where it trapped. -/
theorem player_remembers {c : PlayerConfig} {log : List Entry} {p : Player} {m : Machine}
    (h : Session c log p m) :
    (∀ trap, p.lastTrap = some trap → p.playing = false) ∧
    (∀ trap, p.lastTrap = some trap ↔ Standing log trap) ∧
    (Stopped log →
      p.tick m = (.ok false, p, m) ∧ ∀ bound, p.runUntilHalt m bound = (.ok 0, p, m)) ∧
    p.ticks = Entry.madeByAll log ∧
    ∀ x ∈ log, x.event.isPlayed = true →
      Steps x.made x.before x.after ∧ (∀ k, x.report = .ok k → x.made = k) ∧
        ∀ trap, x.report = .error trap → x.after.execute = (.error trap, x.after) := by
  have hremembers := h.remembers
  refine ⟨hremembers.paused, hremembers.trap, ?_, hremembers.ticks, ?_⟩
  · intro hstopped
    obtain ⟨trap, hstanding⟩ := hstopped.standing
    have hpaused := hremembers.paused trap ((hremembers.trap trap).2 hstanding)
    exact ⟨Player.tick_of_paused hpaused m, fun bound => Player.runFrom_of_paused hpaused 0 bound m⟩
  · intro x hx hplayed
    exact h.made_steps hx hplayed

/-- The function that stores a pointer and returns to nobody is run, and traps after its first step.
Then the machine is exchanged for another one, and a tick passes. The trap still stands, and the
step is counted. -/
theorem strayReturn_remembered :
    ∃ log p m, Session {} log p m ∧
      log.map Entry.report = [.ok 0, .ok 0, .error .returnFromRoot] ∧
      Standing log .returnFromRoot ∧ p.playing = false ∧ p.tick m = (.ok false, p, m) ∧
      p.ticks = 1 ∧ Entry.madeByAll log = 1 := by
  have hrun := (Session.start (c := {}) strayReturn).event (.drive (.runUntilHalt 5))
  have htick := (hrun.event (.elsewhere fun _ => .initial)).event (.drive .tick)
  obtain ⟨hpaused, htrap, hstopped, hticks, -⟩ := player_remembers htick
  have hstanding := (htrap .returnFromRoot).1 rfl
  refine ⟨_, _, _, htick, rfl, hstanding, hpaused _ rfl, (hstopped ?_).1, rfl, hticks.symm⟩
  obtain ⟨later, x, earlier, hlog, hfails, hsince⟩ := hstanding
  exact ⟨later, x, earlier, _, hlog, hfails, fun y hy => (hsince y hy).1⟩

end GridMachine
