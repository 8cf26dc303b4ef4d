import Mathlib.Data.Set.Card
import GridMachine.Memory.Basic

/-! # A memory and its history

A memory is filled with pairs and then changed, one cell at a time. What it holds depends on the
last change at each cell only: the cell that was written there, if the last change was a write
(`Latest`). One change settles its own cell and leaves all others as they were; from that follows,
by induction over the history, what is read at every cell, and with it the enumeration and the
size. -/

namespace GridMachine

namespace Memory

/-- A change of one cell. -/
inductive Change where
  | write (place : Coord) (cell : Cell)
  | clear (place : Coord)

namespace Change

def place : Change → Coord
  | write place _ => place
  | clear place => place

/-- The memory after the change. What a cell held is taken out of it when it is cleared. -/
def apply (m : Memory) : Change → Memory
  | write place cell => m.write place cell
  | clear place => (m.take place).2

/-- What the change leaves in its own cell. -/
def left : Change → Option Cell
  | write _ cell => some cell
  | clear _ => none

/-- A change decides what is read in its own cell, and no other. -/
theorem read_apply (m : Memory) (change : Change) (p : Coord) :
    (change.apply m).read p = if p = change.place then change.left else m.read p := by
  cases change with
  | write place cell => exact read_write m place cell p
  | clear place => exact read_clear m place p

end Change

/-- The memory filled with the pairs and then changed. -/
def afterAll (pairs : List (Coord × Cell)) (changes : List Change) : Memory :=
  changes.foldl Change.apply (ofList pairs)

/-- All that happened to it, oldest first. A pair is a write. -/
def history (pairs : List (Coord × Cell)) (changes : List Change) : List Change :=
  pairs.map (fun pair => .write pair.1 pair.2) ++ changes

/-- The last change at `p` is that the cell was written. -/
def Latest (history : List Change) (p : Coord) (cell : Cell) : Prop :=
  ∃ earlier later, history = earlier ++ .write p cell :: later ∧
    ∀ change ∈ later, change.place ≠ p

variable {m : Memory} {p : Coord} {cell : Cell}

/-! ## Reading -/

/-- Either the newest change is that write, or it is a change elsewhere. -/
theorem latest_concat_iff {past : List Change} {change : Change} :
    Latest (past ++ [change]) p cell ↔
      change = .write p cell ∨ change.place ≠ p ∧ Latest past p cell := by
  constructor
  · rintro ⟨earlier, later, heq, hlater⟩
    cases later using List.reverseRecOn with
    | nil =>
      exact .inl (List.append_singleton_inj.1 heq).2
    | append_singleton later newest =>
      rw [← List.cons_append, ← List.append_assoc] at heq
      obtain ⟨rfl, rfl⟩ := List.append_singleton_inj.1 heq
      refine .inr ⟨hlater _ (by simp), earlier, later, rfl, ?_⟩
      intro change hchange
      exact hlater change (by simp [hchange])
  · rintro (rfl | ⟨hplace, earlier, later, rfl, hlater⟩)
    · exact ⟨past, [], rfl, by simp⟩
    · refine ⟨earlier, later ++ [change], by simp, ?_⟩
      intro other hother
      rcases List.mem_append.1 hother with h | h
      · exact hlater other h
      · rw [List.mem_singleton.1 h]
        exact hplace

/-- **What is read is what was written last.** -/
theorem read_iff_latest (past : List Change) :
    (past.foldl Change.apply empty).read p = some cell ↔ Latest past p cell := by
  induction past using List.reverseRecOn with
  | nil => simp [Latest]
  | append_singleton past change ih =>
    rw [List.foldl_append, List.foldl_cons, List.foldl_nil, Change.read_apply, latest_concat_iff,
      ← ih]
    by_cases h : p = change.place
    · subst h
      cases change <;> simp [Change.place, Change.left]
    · have hother : change ≠ .write p cell := by
        rintro rfl
        exact h rfl
      simp [h, Ne.symm h, hother]

theorem afterAll_eq (pairs : List (Coord × Cell)) (changes : List Change) :
    afterAll pairs changes = (history pairs changes).foldl Change.apply empty := by
  rw [history, List.foldl_append, List.foldl_map]
  rfl

/-! ## Enumeration and size -/

theorem nodup_places (m : Memory) : (m.toList.map Prod.fst).Nodup := by
  rw [toList, Std.ExtTreeMap.map_fst_toList_eq_keys]
  exact Std.ExtTreeMap.nodup_keys

theorem mem_places_iff : p ∈ m.toList.map Prod.fst ↔ ∃ cell, m.read p = some cell := by
  simp [mem_toList_iff]

/-- The size is the number of occupied cells. -/
theorem encard_occupied (m : Memory) : {p | ∃ cell, m.read p = some cell}.encard = m.size := by
  have hset : {p | ∃ cell, m.read p = some cell} =
      ((m.toList.map Prod.fst).toFinset : Set Coord) := by
    ext p
    rw [Finset.mem_coe, List.mem_toFinset, mem_places_iff]
    rfl
  rw [hset, Set.encard_coe_eq_coe_finsetCard, List.toFinset_card_of_nodup m.nodup_places,
    List.length_map, toList, Std.ExtTreeMap.length_toList]
  rfl

theorem isEmpty_iff_size (m : Memory) : m.isEmpty = true ↔ m.size = 0 := by
  rw [isEmpty, Std.ExtTreeMap.isEmpty_eq_size_beq_zero, beq_iff_eq]
  rfl

/-- **A memory is a finite map, whatever its history.** It reads what was written last and not
cleared since, and nothing elsewhere. Clearing a cell gives what was read there. The enumeration
lists the occupied cells, each of them once, and the size is their number. A change shows at its own
cell only. -/
theorem afterAll_finite_map (pairs : List (Coord × Cell)) (changes : List Change) :
    let m := afterAll pairs changes
    let past := history pairs changes
    (∀ p cell, m.read p = some cell ↔ Latest past p cell) ∧
    (∀ p, m.read p = none ↔ ∀ cell, ¬Latest past p cell) ∧
    (∀ p, (m.take p).1 = m.read p ∧ (m.take p).2.read p = none) ∧
    (∀ p cell, (p, cell) ∈ m.toList ↔ Latest past p cell) ∧
    (m.toList.map Prod.fst).Nodup ∧
    {p | ∃ cell, Latest past p cell}.encard = m.size ∧
    (m.isEmpty = true ↔ m.size = 0) ∧
    ∀ (change : Change) (p : Coord), p ≠ change.place → (change.apply m).read p = m.read p := by
  intro m past
  have hread (p : Coord) (cell : Cell) : m.read p = some cell ↔ Latest past p cell := by
    rw [← read_iff_latest, ← afterAll_eq]
  refine ⟨hread, ?_, ?_, ?_, m.nodup_places, ?_, m.isEmpty_iff_size, ?_⟩
  · intro p
    simp only [← hread, Option.eq_none_iff_forall_ne_some, ne_eq]
  · intro p
    refine ⟨rfl, ?_⟩
    show (m.clear p).read p = none
    rw [read_clear, if_pos rfl]
  · intro p cell
    rw [mem_toList_iff, hread]
  · simp only [← hread]
    exact m.encard_occupied
  · intro change p hp
    rw [Change.read_apply, if_neg hp]

/-- The zero of the grid is filled twice, a corner of the grid in between, and the cell beside the
zero is cleared. -/
def filledTwice : Memory :=
  afterAll [(.zero, .data 1), (⟨Int64.minValue, Int64.maxValue⟩, .code ⟨3⟩), (.zero, .data 2)]
    [.clear ⟨0, 1⟩]

/-- The later number is taken from the zero, which is empty then, and the corner is as it was
filled before and after. -/
theorem filledTwice_finite_map :
    (filledTwice.take .zero).1 = some (.data 2) ∧ (filledTwice.take .zero).2.read .zero = none ∧
      filledTwice.read ⟨Int64.minValue, Int64.maxValue⟩ = some (.code ⟨3⟩) ∧
      ((Change.clear .zero).apply filledTwice).read ⟨Int64.minValue, Int64.maxValue⟩ =
        some (.code ⟨3⟩) := by
  obtain ⟨hread, -, htake, -, -, -, -, hother⟩ := afterAll_finite_map
    [(.zero, .data 1), (⟨Int64.minValue, Int64.maxValue⟩, .code ⟨3⟩), (.zero, .data 2)]
    [.clear ⟨0, 1⟩]
  have hzero : filledTwice.read .zero = some (.data 2) :=
    (hread _ _).2 ⟨[_, _], [.clear ⟨0, 1⟩], rfl, by decide⟩
  have hcorner : filledTwice.read ⟨Int64.minValue, Int64.maxValue⟩ = some (.code ⟨3⟩) :=
    (hread _ _).2 ⟨[_], [.write .zero (.data 2), .clear ⟨0, 1⟩], rfl, by decide⟩
  refine ⟨(htake _).1.trans hzero, (htake _).2, hcorner, ?_⟩
  exact (hother (.clear .zero) _ (by decide)).trans hcorner

end Memory

end GridMachine
