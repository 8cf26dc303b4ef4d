import GridMachine.Recorder.Basic
import GridMachine.Proofs.Aliasing

/-! # What a pick names

A cell is picked by its place on the grid, and the toggles make an address of it. A relative address
gets its offset by a difference that wraps at the edges of the grid, and it is resolved by a sum
that does not. The two agree where the difference does not wrap (`InReach`). Where it does, the sum
leaves the grid as well, so the address comes to no cell rather than to another one. -/

namespace GridMachine

/-- Added to `b` without wrapping, the wrapped difference of `a` and `b` comes to `a` or leaves the
grid; it comes to `a` exactly if nothing was wrapped. -/
theorem Coord.sub_add?_eq_some_iff {a b c : Coord} :
    (a - b).add? b = some c ↔ c = a ∧ (a.sub? b).isSome = true := by
  rw [Option.isSome_iff_exists]
  constructor
  · intro h
    have hc : c = a := by rw [← add_eq_of_add? h, sub_add_cancel]
    subst hc
    exact ⟨rfl, _, sub?_eq_some_iff_add?.2 h⟩
  · rintro ⟨rfl, d, hd⟩
    have hadd := sub?_eq_some_iff_add?.1 hd
    have hoffset : c - b = d := by rw [← add_eq_of_add? hadd, add_sub_cancel]
    rw [hoffset]
    exact hadd

namespace Recorder

variable {r : Recorder} {m : Machine} {c d : Coord}

/-- Whether an address that the toggles make can count to the cell without wrapping. -/
def InReach (r : Recorder) (m : Machine) (c : Coord) : Prop :=
  r.base = .absolute ∨ (c.sub? m.active.origin).isSome = true

instance (r : Recorder) (m : Machine) (c : Coord) : Decidable (r.InReach m c) :=
  inferInstanceAs (Decidable (_ ∨ _))

@[simp]
theorem pick_indirection (r : Recorder) (m : Machine) (c : Coord) :
    (r.pick m c).indirection = r.indirection := by
  cases hb : r.base <;> simp [pick, hb, Address.toRelative]

/-- Wrapped back, the pick is the picked cell again. -/
@[simp]
theorem toAbsolute_pick (r : Recorder) (m : Machine) (c : Coord) :
    (r.pick m c).toAbsolute m.active.origin = ⟨r.indirection, .absolute, c⟩ := by
  cases hb : r.base <;> simp [pick, hb, Address.toRelative, Address.toAbsolute]

/-- A pick names the picked cell and no other, for a frame with the origin it was made for. -/
theorem names_pick {n : Machine} (horigin : n.active.origin = m.active.origin) :
    names n d (r.pick m c) = decide (d = c) := by
  rw [names, horigin, toAbsolute_pick]
  by_cases h : d = c
  · simp [h]
  · simp [h, Ne.symm h]

/-- In reach, a pick counts to the picked cell, and otherwise to none. -/
theorem toInts_eq_counted_pick_iff :
    d.toInts = (r.pick m c).counted m.active.origin ↔ d = c ∧ r.InReach m c := by
  unfold InReach
  cases hb : r.base with
  | absolute =>
    simp only [pick, hb, Address.counted, true_or, and_true]
    constructor
    · exact Coord.toInts_inj
    · intro h
      rw [h]
  | relative =>
    simp only [pick, hb, Address.toRelative, Address.counted, reduceCtorEq, false_or]
    rw [← Coord.add?_eq_some_iff]
    exact Coord.sub_add?_eq_some_iff

theorem toInts_eq_counted_pick (h : r.InReach m c) :
    c.toInts = (r.pick m c).counted m.active.origin :=
  toInts_eq_counted_pick_iff.2 ⟨rfl, h⟩

/-- Out of reach, a pick is refused at its own offset, whatever it would do with the cell. -/
theorem resolve_pick_of_not_inReach (h : ¬r.InReach m c) :
    m.resolve (r.pick m c) = .error (.addressOutOfRange (r.pick m c).coord) := by
  refine Memory.Resolves.resolve_eq (.offGrid ?_)
  rw [onGrid_iff]
  rintro ⟨d, hd⟩
  exact h (toInts_eq_counted_pick_iff.1 hd).2

/-- **A picked cell is never misnamed**, whatever the toggles and wherever the cell and the active
origin are. The pick wraps back to its cell. If it is direct, it resolves to that cell, or it is out
of reach and refused; if it is indirect, that cell is the one it goes through, or it is out of reach
and refused. -/
theorem pick_names_cell (r : Recorder) (m : Machine) (c : Coord) :
    ((r.pick m c).toAbsolute m.active.origin).coord = c ∧
    (r.indirection = .direct →
      (r.InReach m c → m.resolve (r.pick m c) = .ok c) ∧
      (¬r.InReach m c →
        m.resolve (r.pick m c) = .error (.addressOutOfRange (r.pick m c).coord)) ∧
      ∀ d, m.resolve (r.pick m c) = .ok d → d = c) ∧
    (r.indirection = .indirect →
      (∀ d, m.GoesThrough (r.pick m c) d ↔ d = c ∧ r.InReach m c) ∧
      (r.InReach m c → m.resolve (r.pick m c) =
        m.memory.pointerAt c >>= fun p => p.locate m.active.origin c) ∧
      (¬r.InReach m c →
        m.resolve (r.pick m c) = .error (.addressOutOfRange (r.pick m c).coord))) := by
  refine ⟨by rw [toAbsolute_pick], fun hdirect => ?_, fun hindirect => ?_⟩
  · have kind : (r.pick m c).indirection = .direct := (pick_indirection r m c).trans hdirect
    have hreach : r.InReach m c → m.resolve (r.pick m c) = .ok c := fun h =>
      Memory.resolve_of_direct (toInts_eq_counted_pick h) kind
    refine ⟨hreach, resolve_pick_of_not_inReach, ?_⟩
    intro d hd
    by_cases h : r.InReach m c
    · exact Except.ok.inj (hd.symm.trans (hreach h))
    · rw [resolve_pick_of_not_inReach h] at hd
      cases hd
  · have kind : (r.pick m c).indirection = .indirect := (pick_indirection r m c).trans hindirect
    refine ⟨?_, ?_, resolve_pick_of_not_inReach⟩
    · intro d
      rw [← toInts_eq_counted_pick_iff]
      exact and_iff_right kind
    · intro h
      exact Memory.resolve_of_indirect (toInts_eq_counted_pick h) kind

/-- Seen from the origin `(1, 0)`, the offset of a cell in the first row of the grid wraps to the
last one, and resolving it is refused. A pick through a pointer takes its hop at the cell that was
picked. -/
theorem edgePointers_pick_names_cell :
    let direct : Recorder := {}
    let through : Recorder := { indirection := .indirect }
    let far : Coord := ⟨Int64.minValue, 0⟩
    direct.pick edgePointers far = .relative ⟨Int64.maxValue, 0⟩ ∧
      ((direct.pick edgePointers far).toAbsolute edgePointers.active.origin).coord = far ∧
      edgePointers.resolve (direct.pick edgePointers far) =
        .error (.addressOutOfRange ⟨Int64.maxValue, 0⟩) ∧
      edgePointers.resolve (direct.pick edgePointers ⟨5, 1⟩) = .ok ⟨5, 1⟩ ∧
      edgePointers.GoesThrough (through.pick edgePointers ⟨3, 1⟩) ⟨3, 1⟩ := by
  intro direct through far
  obtain ⟨hback, hfar, -⟩ := pick_names_cell direct edgePointers far
  obtain ⟨-, hnear, -⟩ := pick_names_cell direct edgePointers ⟨5, 1⟩
  obtain ⟨-, -, hthrough⟩ := pick_names_cell through edgePointers ⟨3, 1⟩
  have hpick : direct.pick edgePointers far = .relative ⟨Int64.maxValue, 0⟩ := by decide
  have hrefused := (hfar rfl).2.1 (by decide)
  refine ⟨hpick, hback, ?_, (hnear rfl).1 (by decide), ?_⟩
  · rw [hrefused, hpick]
    rfl
  · exact ((hthrough rfl).1 ⟨3, 1⟩).2 ⟨rfl, by decide⟩

end Recorder

end GridMachine
