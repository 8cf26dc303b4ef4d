import Std.Data.ExtTreeMap

/-! Coordinates of the grid. Rows and columns are signed 64-bit words, so the grid is finite and
closes on itself: `+` and `-` wrap around its edges and always cancel. `add?` and `sub?` are the
exact operations, which have no value where a component leaves the range of a word. Coordinates
are ordered row by row, and that order is lawful, so it can key an extensional map. -/

namespace GridMachine

/-- The word that holds the integer `n`, if one does. -/
def word? (n : Int) : Option Int64 :=
  if Int64.minValue.toInt ≤ n ∧ n ≤ Int64.maxValue.toInt then some (Int64.ofInt n) else none

/-- A word is found exactly when it stands for `n`. -/
theorem word?_eq_some_iff {n : Int} {w : Int64} : word? n = some w ↔ w.toInt = n := by
  unfold word?
  constructor
  · intro h
    split at h
    · rename_i hn
      rw [← Option.some.inj h, Int64.toInt_ofInt_of_le hn.1 (Int.lt_of_le_sub_one hn.2)]
    · simp at h
  · intro h
    subst h
    rw [if_pos ⟨Int64.minValue_le_toInt w, Int64.toInt_le w⟩, Int64.ofInt_toInt]

/-- No word is found exactly when `n` is outside the signed 64-bit range. -/
theorem word?_eq_none_iff {n : Int} :
    word? n = none ↔ n < Int64.minValue.toInt ∨ Int64.maxValue.toInt < n := by
  unfold word?
  split
  · rename_i hn
    simp only [reduceCtorEq, false_iff]
    omega
  · rename_i hn
    simp only [true_iff]
    omega

@[ext]
structure Coord where
  row : Int64
  col : Int64
deriving DecidableEq

namespace Coord

def zero : Coord := ⟨0, 0⟩

/-- The sum by components, wrapping at the edges of the grid. -/
instance : Add Coord := ⟨fun a b => ⟨a.row + b.row, a.col + b.col⟩⟩

/-- The difference by components, wrapping at the edges of the grid. -/
instance : Sub Coord := ⟨fun a b => ⟨a.row - b.row, a.col - b.col⟩⟩

def add? (a b : Coord) : Option Coord := do
  let row ← word? (a.row.toInt + b.row.toInt)
  let col ← word? (a.col.toInt + b.col.toInt)
  return ⟨row, col⟩

def sub? (a b : Coord) : Option Coord := do
  let row ← word? (a.row.toInt - b.row.toInt)
  let col ← word? (a.col.toInt - b.col.toInt)
  return ⟨row, col⟩

/-- Row by row, and by column within a row. -/
instance : Ord Coord := ⟨compareLex (compareOn Coord.row) (compareOn Coord.col)⟩

instance : Std.TransOrd Coord :=
  inferInstanceAs (Std.TransCmp (compareLex (compareOn Coord.row) (compareOn Coord.col)))

instance : Std.LawfulEqOrd Coord where
  eq_of_compare {a b} h := by
    have h' : compareOn Coord.row a b = .eq ∧ compareOn Coord.col a b = .eq := compareLex_eq_eq.1 h
    have hr : a.row = b.row := Std.LawfulEqOrd.eq_of_compare h'.1
    have hc : a.col = b.col := Std.LawfulEqOrd.eq_of_compare h'.2
    cases a
    cases b
    simp_all

@[simp]
theorem add_row (a b : Coord) : (a + b).row = a.row + b.row := rfl

@[simp]
theorem add_col (a b : Coord) : (a + b).col = a.col + b.col := rfl

@[simp]
theorem sub_row (a b : Coord) : (a - b).row = a.row - b.row := rfl

@[simp]
theorem sub_col (a b : Coord) : (a - b).col = a.col - b.col := rfl

/-- Subtraction undoes addition, also across an edge of the grid. -/
@[simp]
theorem add_sub_cancel (a b : Coord) : a + b - b = a := by
  ext <;> simp [Int64.add_sub_cancel]

/-- Addition undoes subtraction, also across an edge of the grid. -/
@[simp]
theorem sub_add_cancel (a b : Coord) : a - b + b = a := by
  ext <;> simp [Int64.sub_add_cancel]

theorem add_assoc (a b c : Coord) : a + b + c = a + (b + c) :=
  Coord.ext (Int64.add_assoc ..) (Int64.add_assoc ..)

@[simp]
theorem zero_add (a : Coord) : zero + a = a :=
  Coord.ext (Int64.zero_add _) (Int64.zero_add _)

theorem add_right_comm (a b c : Coord) : a + b + c = a + c + b := by
  rw [add_assoc, add_assoc]
  congr 1
  exact Coord.ext (Int64.add_comm ..) (Int64.add_comm ..)

theorem add_left_inj {a b : Coord} (c : Coord) : a + c = b + c ↔ a = b := by
  constructor
  · intro h
    rw [← add_sub_cancel a c, h, add_sub_cancel]
  · intro h
    rw [h]

/-- Where the exact sum is a word, the wrapping sum is that word. -/
theorem add_eq_of_word? {a b w : Int64} (h : word? (a.toInt + b.toInt) = some w) : a + b = w := by
  rw [← Int64.toInt_inj, Int64.toInt_add, ← word?_eq_some_iff.1 h, Int64.toInt_bmod]

/-- Where the exact sum is on the grid, nothing wraps. -/
theorem add_eq_of_add? {a b c : Coord} (h : a.add? b = some c) : a + b = c := by
  simp only [add?, bind, Option.bind_eq_some_iff] at h
  obtain ⟨row, hr, col, hc, ⟨⟩⟩ := h
  exact Coord.ext (add_eq_of_word? hr) (add_eq_of_word? hc)

def text (a : Coord) : String :=
  "(" ++ toString a.row.toInt ++ ", " ++ toString a.col.toInt ++ ")"

end Coord

end GridMachine
