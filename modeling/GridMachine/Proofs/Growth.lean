import GridMachine.Program

/-! # Programs that grow

Execution and recording add nodes to a program at its end only, and only placeholders. The names
that such nodes get are known beforehand, since a node is named by its number: they are the next
ones that the program does not have. -/

namespace GridMachine

/-! ## Placeholders at the end -/

/-- `q` is `p` with placeholders added at its end. -/
def Program.GrownFrom (q p : Program) : Prop :=
  ∃ added, q.toList = p.toList ++ List.replicate added .nop

namespace Program

variable {p q : Program} {id : NodeId} {i : Instruction}

theorem get?_eq_toList (p : Program) (id : NodeId) : p.get? id = p.toList[id.index]? := by
  simp [get?, toList]

theorem GrownFrom.refl (p : Program) : p.GrownFrom p := ⟨0, by simp⟩

theorem GrownFrom.trans {r : Program} (h : r.GrownFrom q) (h' : q.GrownFrom p) :
    r.GrownFrom p := by
  obtain ⟨more, hr⟩ := h
  obtain ⟨added, hq⟩ := h'
  refine ⟨added + more, ?_⟩
  rw [hr, hq, List.append_assoc, List.replicate_append_replicate]

theorem grownFrom_push_nop (p : Program) : (p.push .nop).GrownFrom p := ⟨1, by simp [toList, push]⟩

theorem GrownFrom.size_le (h : q.GrownFrom p) : p.size ≤ q.size := by
  obtain ⟨added, hq⟩ := h
  have hlen : q.toList.length = p.toList.length + added := by simp [hq]
  exact Nat.le.intro hlen.symm

/-- What was there stays as it is. -/
theorem GrownFrom.get?_eq (h : q.GrownFrom p) (hid : p.contains id = true) :
    q.get? id = p.get? id := by
  obtain ⟨added, hq⟩ := h
  have hlt : id.index < p.toList.length := contains_iff.1 hid
  rw [get?_eq_toList, get?_eq_toList, hq, List.getElem?_append_left hlt]

/-- What was not there is a placeholder. -/
theorem GrownFrom.eq_nop (h : q.GrownFrom p) (hid : p.contains id = false)
    (hi : q.get? id = some i) : i = .nop := by
  obtain ⟨added, hq⟩ := h
  have hle : p.toList.length ≤ id.index := contains_eq_false_iff.1 hid
  rw [get?_eq_toList, hq, List.getElem?_append_right hle] at hi
  exact List.eq_of_mem_replicate (List.mem_of_getElem? hi)

/-! ## The names to come -/

variable {count : Nat}

/-- The names that the next `count` nodes will get. -/
def upcoming (p : Program) (count : Nat) : List NodeId :=
  (List.range' p.size count).map NodeId.mk

theorem mem_upcoming : id ∈ p.upcoming count ↔ p.size ≤ id.index ∧ id.index < p.size + count := by
  simp only [upcoming, List.mem_map, List.mem_range'_1]
  constructor
  · rintro ⟨index, hindex, rfl⟩
    exact hindex
  · intro h
    exact ⟨id.index, h, rfl⟩

theorem nodup_upcoming (p : Program) (count : Nat) : (p.upcoming count).Nodup := by
  refine List.Pairwise.map _ ?_ (List.nodup_range' 1)
  intro i j hne h
  exact hne (NodeId.mk.inj h)

@[simp]
theorem length_upcoming (p : Program) (count : Nat) : (p.upcoming count).length = count := by
  simp [upcoming]

end Program

end GridMachine
