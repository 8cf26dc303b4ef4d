import GridMachine.Proofs.Replay

/-! # Recording at a name without a node

The name that the active frame goes on at need not belong to a node of the program. A splice does
not ask: it adds the placeholders of the new instruction to the program and then writes over the
node of that name, if there is one by then. So it all depends on where the name lies. Beyond the
placeholders there is no node to write over, and they are all that is left of the splice. Among them
there is one, and the instruction is written over it and leads to itself. -/

namespace GridMachine

namespace Program

variable {p q : Program} {id : NodeId} {i : Instruction}

/-- A program that has grown to a known size is known. -/
theorem GrownFrom.toList_eq (h : q.GrownFrom p) {count : Nat} (hs : q.size = p.size + count) :
    q.toList = p.toList ++ List.replicate count .nop := by
  obtain ⟨added, hq⟩ := h
  have hlen : q.size = p.size + added := by
    have := congrArg List.length hq
    simpa [toList, size] using this
  have hadded : added = count := by omega
  rw [hq, hadded]

theorem get?_of_not_contains (h : p.contains id = false) : p.get? id = none :=
  Array.getElem?_eq_none (contains_eq_false_iff.1 h)

/-- Without a node of that name, nothing is written. -/
theorem set_of_not_contains (h : p.contains id = false) (i : Instruction) : p.set id i = p := by
  have hlt : ¬id.index < p.nodes.size := Nat.not_lt.2 (contains_eq_false_iff.1 h)
  simp [set, Array.setIfInBounds, hlt]

end Program

namespace Machine

variable {m n : Machine} {source destination : Address} {op : Operation} {i : Instruction}

/-- `n` is `m` with nothing but `added` placeholders to show for a splice. -/
structure Lost (m n : Machine) (added : Nat) : Prop where
  nodes : n.program.toList = m.program.toList ++ List.replicate added .nop
  absent : n.program.contains m.active.current = false
  /-- There is as little to execute as before. -/
  before : m.execute = (.error (.unknownInstruction m.active.current), m)
  after : n.execute = (.error (.unknownInstruction m.active.current), n)

/-- `n` is `m` with the node `i` written over one of the placeholders that were added for it. -/
structure Looped (m n : Machine) (i : Instruction) : Prop where
  size : n.program.size = m.program.size + i.successors.length
  others : ∀ id, m.program.contains id = true → n.program.get? id = m.program.get? id
  node : n.program.get? m.active.current = some i
  loop : m.active.current ∈ i.successors
  placeholders : ∀ id ∈ i.successors, id ≠ m.active.current → n.program.get? id = some .nop

/-- Without a current node, execution says so. -/
theorem execute_of_not_contains (h : m.program.contains m.active.current = false) :
    m.execute = (.error (.unknownInstruction m.active.current), m) :=
  execute_eq_error_iff.2 ⟨step_of_absent (Program.get?_of_not_contains h), rfl⟩

/-- A name beyond the placeholders stays without a node. -/
theorem Lost.of_overwrite {p : Program} (hc : m.program.contains m.active.current = false)
    (grown : p.GrownFrom m.program) {added : Nat} (hsize : p.size = m.program.size + added)
    (hfar : m.program.size + added ≤ m.active.current.index) (i : Instruction) :
    Lost m (m.overwrite p i) added := by
  have hp : p.contains m.active.current = false :=
    Program.contains_eq_false_iff.2 (by omega)
  have hset : (m.overwrite p i).program = p := Program.set_of_not_contains hp i
  have habsent : (m.overwrite p i).program.contains m.active.current = false := by
    rw [hset]
    exact hp
  refine ⟨?_, habsent, execute_of_not_contains hc, execute_of_not_contains habsent⟩
  rw [hset]
  exact grown.toList_eq hsize

/-- A name among the placeholders gets a node, and the node is its own successor. -/
theorem Looped.of_overwrite {p : Program} (hc : m.program.contains m.active.current = false)
    (grown : p.GrownFrom m.program) (hsize : p.size = m.program.size + op.ways)
    (makes : m.Makes source destination op i)
    (hnear : m.active.current.index < m.program.size + op.ways) :
    Looped m (m.overwrite p i) i := by
  have hfresh := Program.contains_eq_false_iff.1 hc
  have hp : p.contains m.active.current = true := Program.contains_iff.2 (by omega)
  refine ⟨?_, ?_, Program.get?_set_self hp i, ?_, ?_⟩
  · rw [makes.ways, Program.length_upcoming]
    exact (p.size_set _ i).trans hsize
  · intro id hid
    have hne : id ≠ m.active.current := by
      rintro rfl
      rw [hc] at hid
      cases hid
    exact (Program.get?_set_of_ne hne i).trans (grown.get?_eq hid)
  · rw [makes.ways, Program.mem_upcoming]
    exact ⟨hfresh, hnear⟩
  · intro id hid hne
    rw [makes.ways, Program.mem_upcoming] at hid
    have hlt : id.index < p.size := by omega
    have hget : p.get? id = some _ := Array.getElem?_eq_getElem hlt
    have hnop := grown.eq_nop (Program.contains_eq_false_iff.2 hid.1) hget
    rw [hnop] at hget
    exact (Program.get?_set_of_ne hne i).trans hget

/-- **What a splice does at a name without a node.** It hands over that name, and adds placeholders
with the next names for the ways on of the instruction that it makes. If the name is beyond them,
the instruction is lost, and executing still finds no node. If the name is one of theirs, the
instruction is there, and one of its ways leads back to it. Nothing but the program changes. -/
theorem splice_without_node (hc : m.program.contains m.active.current = false) (hop : op ≠ .nop)
    {id : NodeId} (h : m.splice source destination op = (.ok id, n)) :
    id = m.active.current ∧ n.memory = m.memory ∧ n.stack = m.stack ∧ n.flag = m.flag ∧
      ∃ i, m.Makes source destination op i ∧
        i.successors = m.program.upcoming i.successors.length ∧
        i.successors.length = op.ways ∧
        (m.program.size + op.ways ≤ m.active.current.index → Lost m n op.ways) ∧
        (m.active.current.index < m.program.size + op.ways → Looped m n i) := by
  obtain ⟨-, hid, rfl⟩ := splice_eq_ok_iff.1 h
  obtain ⟨p, i, hgraft, grown, hsize, makes⟩ := graft_eq_overwrite hop m source destination
  have hlength : i.successors.length = op.ways := by
    rw [makes.ways, Program.length_upcoming]
  rw [hgraft]
  refine ⟨hid, rfl, rfl, rfl, i, makes, ?_, hlength, ?_, ?_⟩
  · rw [hlength]
    exact makes.ways
  · intro hfar
    exact .of_overwrite hc grown hsize hfar i
  · intro hnear
    exact .of_overwrite hc grown hsize makes hnear

/-- The two numbers and a program of one node, with a frame that goes on at the name `index`. -/
def goesOnAt (index : Nat) : Machine :=
  { twoNumbers with stack := .root (.enter .zero .zero ⟨index⟩) }

/-- A comparison gets the placeholders 1 and 2. Recorded at the name 2 it takes the place of the
second one and leads to itself; recorded at the name 3 it is lost. -/
theorem goesOnAt_splice_without_node :
    let compare (m : Machine) := m.splice (.relative ⟨0, 1⟩) (.relative ⟨0, 2⟩) (.branch .equal)
    (∃ n i, compare (goesOnAt 2) = (.ok ⟨2⟩, n) ∧ i.successors = [⟨1⟩, ⟨2⟩] ∧
      Looped (goesOnAt 2) n i) ∧
    ∃ n, compare (goesOnAt 3) = (.ok ⟨3⟩, n) ∧ Lost (goesOnAt 3) n 2 := by
  intro compare
  have hnear : compare (goesOnAt 2) = (.ok ⟨2⟩, _) := rfl
  have hfar : compare (goesOnAt 3) = (.ok ⟨3⟩, _) := rfl
  obtain ⟨-, -, -, -, i, makes, -, -, -, hlooped⟩ := splice_without_node rfl (by decide) hnear
  obtain ⟨-, -, -, -, -, -, -, -, hlost, -⟩ := splice_without_node rfl (by decide) hfar
  exact ⟨⟨_, i, hnear, makes.ways, hlooped (by decide)⟩, _, hfar, hlost (by decide)⟩

end Machine

end GridMachine
