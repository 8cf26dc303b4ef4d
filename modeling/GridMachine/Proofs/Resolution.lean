import GridMachine.Proofs.Transition

/-! # Resolution is exact

What an address counts to is a pair of whole numbers without bounds (`Address.counted`): its own
coordinates, and for a relative address those of the origin added to them. Such a pair is one cell
of the grid or it is off the grid. Resolution takes the cell in the one case and refuses in the
other, at both places where it counts: at the address, and at the pointer that an indirect address
finds. `Resolves` lists what can come of it, and `resolve_eq_iff` says that this is all. So nothing
wraps, no second pointer is followed, and of all cells only the first one is looked at. -/

namespace GridMachine

/-! ## Whole numbers and the grid -/

/-- The row and the column, as whole numbers. -/
def Coord.toInts (c : Coord) : Int × Int := (c.row.toInt, c.col.toInt)

/-- Both numbers are in the signed 64-bit range. -/
def OnGrid (z : Int × Int) : Prop :=
  (Int64.minValue.toInt ≤ z.1 ∧ z.1 ≤ Int64.maxValue.toInt) ∧
    Int64.minValue.toInt ≤ z.2 ∧ z.2 ≤ Int64.maxValue.toInt

/-- The number is outside the signed 64-bit range. -/
def OffRange (n : Int) : Prop := n < Int64.minValue.toInt ∨ Int64.maxValue.toInt < n

instance (n : Int) : Decidable (OffRange n) := inferInstanceAs (Decidable (_ ∨ _))

namespace Address

/-- Where the address counts to from `origin`, in whole numbers without bounds. -/
def counted (a : Address) (origin : Coord) : Int × Int :=
  match a.base with
  | .relative => (a.coord.row.toInt + origin.row.toInt, a.coord.col.toInt + origin.col.toInt)
  | .absolute => a.coord.toInts

/-- The same coordinates, taken as the cell itself. -/
def direct (a : Address) : Address := { a with indirection := .direct }

end Address

theorem exists_word?_iff {n : Int} :
    (∃ w, word? n = some w) ↔ Int64.minValue.toInt ≤ n ∧ n ≤ Int64.maxValue.toInt := by
  rw [← Option.isSome_iff_exists, Option.isSome_iff_ne_none, ne_eq, word?_eq_none_iff]
  omega

theorem exists_word_iff {n : Int} : (∃ w : Int64, w.toInt = n) ↔ ¬OffRange n := by
  simp only [← word?_eq_some_iff, exists_word?_iff, OffRange, not_or, Int.not_lt]

theorem Coord.toInts_inj {c d : Coord} (h : c.toInts = d.toInts) : c = d := by
  obtain ⟨hrow, hcol⟩ := Prod.mk.inj h
  exact Coord.ext (Int64.toInt_inj.1 hrow) (Int64.toInt_inj.1 hcol)

/-- The pairs on the grid are those that a coordinate stands for. -/
theorem onGrid_iff {z : Int × Int} : OnGrid z ↔ ∃ c : Coord, c.toInts = z := by
  simp only [OnGrid, ← exists_word?_iff, word?_eq_some_iff]
  constructor
  · rintro ⟨⟨row, hrow⟩, col, hcol⟩
    exact ⟨⟨row, col⟩, Prod.ext hrow hcol⟩
  · rintro ⟨c, rfl⟩
    exact ⟨⟨c.row, rfl⟩, c.col, rfl⟩

/-- A pair of numbers that both fit a word is the coordinate of these words. -/
theorem Coord.words_eq_some_iff {row col : Int} {c : Coord} :
    (do return ⟨← word? row, ← word? col⟩ : Option Coord) = some c ↔ c.toInts = (row, col) := by
  simp only [bind, Option.bind_eq_some_iff, word?_eq_some_iff]
  constructor
  · rintro ⟨_, hrow, _, hcol, ⟨⟩⟩
    exact Prod.ext hrow hcol
  · intro h
    obtain ⟨hrow, hcol⟩ := Prod.mk.inj h
    exact ⟨c.row, hrow, c.col, hcol, rfl⟩

theorem Coord.add?_eq_some_iff {a b c : Coord} :
    a.add? b = some c ↔
      c.toInts = (a.row.toInt + b.row.toInt, a.col.toInt + b.col.toInt) :=
  words_eq_some_iff

theorem Coord.sub?_eq_some_iff {a b c : Coord} :
    a.sub? b = some c ↔
      c.toInts = (a.row.toInt - b.row.toInt, a.col.toInt - b.col.toInt) :=
  words_eq_some_iff

/-- The exact difference is the coordinate that exactly adds up. -/
theorem Coord.sub?_eq_some_iff_add? {a b c : Coord} : a.sub? b = some c ↔ c.add? b = some a := by
  rw [sub?_eq_some_iff, add?_eq_some_iff]
  simp only [toInts, Prod.mk.injEq]
  omega

/-! ## Counting to a cell -/

namespace Address

variable {a : Address} {origin site c : Coord}

/-- An address comes to a cell exactly when it counts to it without bounds. -/
theorem locate_eq_ok_iff : a.locate origin site = .ok c ↔ c.toInts = a.counted origin := by
  unfold locate toAbsolute? counted
  cases a.base with
  | absolute =>
    constructor
    · rintro ⟨⟩
      rfl
    · intro h
      rw [Coord.toInts_inj h]
  | relative =>
    rw [← Coord.add?_eq_some_iff]
    cases a.coord.add? origin <;> simp

theorem locate_of_offGrid (h : ¬OnGrid (a.counted origin)) (site : Coord) :
    a.locate origin site = .error (.addressOutOfRange site) := by
  cases hl : a.locate origin site with
  | ok c => exact absurd (onGrid_iff.2 ⟨c, locate_eq_ok_iff.1 hl⟩) h
  | error trap =>
    unfold locate at hl
    split at hl
    · cases hl
    · exact hl.symm

end Address

/-! ## Resolution -/

namespace Memory

variable {m m' : Memory} {origin : Coord} {a b : Address} {h c : Coord}

/-- What comes of resolving the address `a` from `origin`, with its first cell `h` and, for an
indirect address, the pointer `b` in it. The indirection of `b` is not asked for. -/
inductive Resolves (m : Memory) (origin : Coord) (a : Address) : Except Trap Coord → Prop
  | offGrid (off : ¬OnGrid (a.counted origin)) :
      Resolves m origin a (.error (.addressOutOfRange a.coord))
  | direct {h : Coord} (first : h.toInts = a.counted origin) (kind : a.indirection = .direct) :
      Resolves m origin a (.ok h)
  | indirect {h c : Coord} {b : Address} (first : h.toInts = a.counted origin)
      (kind : a.indirection = .indirect) (held : m.read h = some (.pointer b))
      (second : c.toInts = b.counted origin) :
      Resolves m origin a (.ok c)
  | pointeeOffGrid {h : Coord} {b : Address} (first : h.toInts = a.counted origin)
      (kind : a.indirection = .indirect) (held : m.read h = some (.pointer b))
      (off : ¬OnGrid (b.counted origin)) :
      Resolves m origin a (.error (.addressOutOfRange h))
  | notPointer {h : Coord} (first : h.toInts = a.counted origin)
      (kind : a.indirection = .indirect) (other : ∀ b, m.read h ≠ some (.pointer b)) :
      Resolves m origin a (.error (.notAnAddress h))

theorem resolve_of_direct (first : h.toInts = a.counted origin) (kind : a.indirection = .direct) :
    m.resolve origin a = .ok h := by
  simp [resolve, Address.locate_eq_ok_iff.2 first, kind, pure, Except.pure]

theorem resolve_of_indirect (first : h.toInts = a.counted origin)
    (kind : a.indirection = .indirect) :
    m.resolve origin a = m.pointerAt h >>= fun b => b.locate origin h := by
  simp [resolve, Address.locate_eq_ok_iff.2 first, kind]

theorem resolve_of_pointer (first : h.toInts = a.counted origin)
    (kind : a.indirection = .indirect) (held : m.read h = some (.pointer b)) :
    m.resolve origin a = b.locate origin h := by
  rw [resolve_of_indirect first kind, pointerAt_eq_ok_iff.2 held, ok_bind]

/-- A pointer taken as direct resolves to the cell that it counts to. -/
theorem resolve_direct_eq_ok_iff :
    m.resolve origin a.direct = .ok c ↔ c.toInts = a.counted origin := by
  constructor
  · intro hr
    obtain ⟨hop, hl, ⟨⟩⟩ := bind_eq_ok_iff.1 hr
    exact Address.locate_eq_ok_iff (a := a.direct).1 hl
  · intro hc
    exact resolve_of_direct hc rfl

/-- All that `Resolves` lists happens. -/
theorem Resolves.resolve_eq {r : Except Trap Coord} (hr : Resolves m origin a r) :
    m.resolve origin a = r := by
  cases hr with
  | offGrid off => rw [resolve, Address.locate_of_offGrid off, error_bind]
  | direct first kind => exact resolve_of_direct first kind
  | indirect first kind held second =>
    rw [resolve_of_pointer first kind held]
    exact Address.locate_eq_ok_iff.2 second
  | @pointeeOffGrid h b first kind held off =>
    rw [resolve_of_pointer first kind held]
    exact Address.locate_of_offGrid off h
  | @notPointer h first kind other =>
    rw [resolve_of_indirect first kind, pointerAt]
    split
    · exact absurd ‹_› (other _)
    · rfl

/-- Nothing else happens. -/
theorem exists_resolves (m : Memory) (origin : Coord) (a : Address) :
    ∃ r, Resolves m origin a r := by
  by_cases hgrid : OnGrid (a.counted origin)
  · obtain ⟨h, first⟩ := onGrid_iff.1 hgrid
    cases kind : a.indirection with
    | direct => exact ⟨_, .direct first kind⟩
    | indirect =>
      by_cases hp : ∃ b, m.read h = some (.pointer b)
      · obtain ⟨b, held⟩ := hp
        by_cases hb : OnGrid (b.counted origin)
        · obtain ⟨c, second⟩ := onGrid_iff.1 hb
          exact ⟨_, .indirect first kind held second⟩
        · exact ⟨_, .pointeeOffGrid first kind held hb⟩
      · exact ⟨_, .notPointer first kind (not_exists.1 hp)⟩
  · exact ⟨_, .offGrid hgrid⟩

theorem resolve_eq_iff {r : Except Trap Coord} :
    m.resolve origin a = r ↔ Resolves m origin a r := by
  constructor
  · rintro rfl
    obtain ⟨r, hr⟩ := exists_resolves m origin a
    rw [hr.resolve_eq]
    exact hr
  · exact Resolves.resolve_eq

theorem Resolves.congr {r : Except Trap Coord} (hr : Resolves m origin a r)
    (hm : ∀ h : Coord, h.toInts = a.counted origin → m'.read h = m.read h) :
    Resolves m' origin a r := by
  cases hr with
  | offGrid off => exact .offGrid off
  | direct first kind => exact .direct first kind
  | indirect first kind held second => exact .indirect first kind ((hm _ first).trans held) second
  | pointeeOffGrid first kind held off =>
    exact .pointeeOffGrid first kind ((hm _ first).trans held) off
  | notPointer first kind other =>
    refine .notPointer first kind fun b hb => ?_
    exact other b ((hm _ first).symm.trans hb)

end Memory

/-- To read through a pointer is to read the pointer itself, taken as direct. -/
theorem Machine.read_of_pointer {m : Machine} {a b : Address} {h c : Coord}
    (first : h.toInts = a.counted m.active.origin) (kind : a.indirection = .indirect)
    (held : m.memory.read h = some (.pointer b)) (hb : m.resolve b.direct = .ok c) :
    m.read a = m.read b.direct := by
  have ha : m.resolve a = .ok c :=
    Memory.Resolves.resolve_eq (.indirect first kind held (Memory.resolve_direct_eq_ok_iff.1 hb))
  rw [read, read, ha, hb]

/-- **Resolution is exact, takes one hop and never wraps.** What comes of it is what `Resolves`
lists, with sums in whole numbers without bounds; it depends on no cell but the first; and an
indirect read finds what a read of the pointer finds, if that comes to a cell. -/
theorem resolution_exact :
    (∀ (m : Memory) (origin : Coord) (a : Address) (r : Except Trap Coord),
      m.resolve origin a = r ↔ m.Resolves origin a r) ∧
    (∀ (m m' : Memory) (origin : Coord) (a : Address),
      (∀ h : Coord, h.toInts = a.counted origin → m'.read h = m.read h) →
      m'.resolve origin a = m.resolve origin a) ∧
    ∀ (m : Machine) (a b : Address) (h c : Coord), a.indirection = .indirect →
      h.toInts = a.counted m.active.origin → m.memory.read h = some (.pointer b) →
      m.resolve b.direct = .ok c → m.read a = m.read b.direct := by
  refine ⟨?_, ?_, ?_⟩
  · intro m origin a r
    exact Memory.resolve_eq_iff
  · intro m m' origin a hm
    obtain ⟨r, hr⟩ := m.exists_resolves origin a
    rw [hr.resolve_eq, (hr.congr hm).resolve_eq]
  · intro m a b h c kind first held hb
    exact Machine.read_of_pointer first kind held hb

/-- Two pointers, seen from the origin `(1, 0)`: one leads below the last row, the other one is
marked as indirect and leads to a number. -/
def edgePointers : Machine :=
  { Machine.ofMemory (.ofList
      [(⟨3, 0⟩, .pointer (.relative ⟨Int64.maxValue, 0⟩)),
       (⟨3, 1⟩, .pointer (.indirect (.relative ⟨4, 1⟩))), (⟨5, 1⟩, .data 7)]) with
    stack := .root (.enter ⟨1, 0⟩ .zero ⟨0⟩) }

/-- The first one is refused at its own cell. The second one is followed once, as in a memory that
holds nothing else, and a read through it is a read of the cell it points to. -/
theorem edgePointers_resolved :
    let first : Address := .indirect (.absolute ⟨3, 0⟩)
    let second : Address := .indirect (.absolute ⟨3, 1⟩)
    let alone : Memory := .ofList [(⟨3, 1⟩, .pointer (.indirect (.relative ⟨4, 1⟩)))]
    edgePointers.memory.Resolves ⟨1, 0⟩ first (.error (.addressOutOfRange ⟨3, 0⟩)) ∧
      alone.resolve ⟨1, 0⟩ second = edgePointers.memory.resolve ⟨1, 0⟩ second ∧
      edgePointers.read second = edgePointers.read (.relative ⟨4, 1⟩) ∧
      edgePointers.read second = .ok (some (.data 7)) := by
  intro first second alone
  obtain ⟨hresolves, hlocal, hread⟩ := resolution_exact
  refine ⟨(hresolves _ _ _ _).1 rfl, hlocal _ _ _ _ ?_, ?_, rfl⟩
  · intro h hh
    obtain rfl : h = ⟨3, 1⟩ := Coord.toInts_inj hh
    rfl
  · exact hread edgePointers second (.indirect (.relative ⟨4, 1⟩)) ⟨3, 1⟩ ⟨5, 1⟩ rfl rfl rfl rfl

end GridMachine
