import GridMachine.Machine.Step

/-! The player drives the machine by the ticks of a clock. It counts the steps that its ticks
made, does nothing while it is paused, and pauses itself at a trap, which it remembers until it is
asked to play again. -/

namespace GridMachine

structure PlayerConfig where
  /-- The length of a clock cycle, in milliseconds. -/
  clockMillis : Nat := 25
  playing : Bool := true
deriving DecidableEq

namespace PlayerConfig

def withClock (c : PlayerConfig) (millis : Nat) : PlayerConfig := { c with clockMillis := millis }

def paused (c : PlayerConfig) : PlayerConfig := { c with playing := false }

end PlayerConfig

structure Player where
  config : PlayerConfig
  playing : Bool
  lastTrap : Option Trap
  /-- How many steps its ticks have made. -/
  ticks : Nat
deriving DecidableEq

namespace Player

def ofConfig (c : PlayerConfig) : Player := ⟨c, c.playing, none, 0⟩

/-- Go on ticking, and forget the trap. -/
def play (p : Player) : Player := { p with playing := true, lastTrap := none }

def pause (p : Player) : Player := { p with playing := false }

/-- One tick: whether a step was made, and the player and the machine then. -/
def tick (p : Player) (m : Machine) : Except Trap Bool × Player × Machine :=
  if p.playing then
    match m.execute with
    | (.ok true, m) => (.ok true, { p with ticks := p.ticks + 1 }, m)
    | (.ok false, m) => (.ok false, p, m)
    | (.error trap, m) => (.error trap, { p with playing := false, lastTrap := some trap }, m)
  else
    (.ok false, p, m)

/-- Tick up to `bound` times and count on from `made`. -/
def runFrom (made : Nat) : Nat → Player → Machine → Except Trap Nat × Player × Machine
  | 0, p, m => (.ok made, p, m)
  | bound + 1, p, m =>
    match p.tick m with
    | (.ok true, p, m) => runFrom (made + 1) bound p m
    | (.ok false, p, m) => (.ok made, p, m)
    | (.error trap, p, m) => (.error trap, p, m)

/-- Tick until a tick makes no step, or `bound` times: the number of steps made, or the trap. -/
def runUntilHalt (p : Player) (m : Machine) (bound : Nat) : Except Trap Nat × Player × Machine :=
  p.runFrom 0 bound m

end Player

end GridMachine
