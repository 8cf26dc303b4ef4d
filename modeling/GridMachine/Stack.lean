import GridMachine.Program

/-! The stack of frames. There is always an active frame; the frames it returns to are listed
below it, nearest first. The last of them, or the active frame alone, is the root, which cannot be
popped. -/

namespace GridMachine

/-- The context of one running function. -/
@[ext]
structure Frame where
  /-- Where relative addresses are counted from. -/
  origin : Coord
  /-- The cell of the function that runs. -/
  target : Coord
  current : NodeId
  previous : Option NodeId
deriving DecidableEq

namespace Frame

def enter (origin target : Coord) (entry : NodeId) : Frame := ⟨origin, target, entry, none⟩

/-- Go on at `next`, remembering the node just executed. -/
def advance (f : Frame) (next : NodeId) : Frame :=
  { f with current := next, previous := some f.current }

end Frame

@[ext]
structure Stack where
  top : Frame
  /-- The frames below the active one, nearest first. -/
  callers : List Frame
deriving DecidableEq

namespace Stack

def root (f : Frame) : Stack := ⟨f, []⟩

def depth (s : Stack) : Nat := s.callers.length + 1

/-- Make `f` the active frame, called from the one active now. -/
def push (s : Stack) (f : Frame) : Stack := ⟨f, s.top :: s.callers⟩

def pop? (s : Stack) : Option Stack :=
  match s.callers with
  | [] => none
  | caller :: rest => some ⟨caller, rest⟩

def modifyTop (s : Stack) (f : Frame → Frame) : Stack := { s with top := f s.top }

/-- All frames, the root first and the active one last. -/
def toList (s : Stack) : List Frame := s.callers.reverse ++ [s.top]

@[simp]
theorem length_toList (s : Stack) : s.toList.length = s.depth := by
  simp [toList, depth]

@[simp]
theorem toList_push (s : Stack) (f : Frame) : (s.push f).toList = s.toList ++ [f] := by
  simp [toList, push]

/-- Only the root cannot be popped. -/
theorem pop?_eq_none_iff {s : Stack} : s.pop? = none ↔ s.depth < 2 := by
  unfold pop? depth
  cases s.callers <;> simp

/-- Popping uncovers the frame below. -/
theorem pop?_eq_some_iff {s t : Stack} : s.pop? = some t ↔ s.callers = t.top :: t.callers := by
  unfold pop?
  cases s.callers with
  | nil => simp
  | cons caller rest => simp [Stack.ext_iff]

/-- Popping drops the last frame of the list and nothing else. -/
theorem toList_of_pop? {s t : Stack} (h : s.pop? = some t) : s.toList = t.toList ++ [s.top] := by
  unfold pop? at h
  split at h
  · simp at h
  · rename_i caller rest hc
    obtain rfl := Option.some.inj h
    simp [toList, hc]

end Stack

end GridMachine
