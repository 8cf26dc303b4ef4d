import GridMachine.Machine.Splice
import GridMachine.Proofs.Transition
import GridMachine.Proofs.Growth

/-! # A splice as a function of the state

Recording is an edit too: the placeholders are added to the program while the instruction is built,
and only then is the current node overwritten. `splice_eq` shows that this comes to a verdict and,
if the verdict is good, one change of the program, `graft`. What that change is for each operation
is said once, in `graft_eq_overwrite`: the program grows by a placeholder for each way on, and the
current node gets an instruction whose ways on are their names. The rest follows for all operations
alike, since the names are new. -/

namespace GridMachine

/-! ## The instruction of an operation -/

namespace Operation

/-- How many ways on an instruction for the operation has. -/
def ways : Operation → Nat
  | data _ | call => 1
  | branch _ => 2
  | nop | jump | ret => 0

/-- The first operand of an instruction for the operation. The target of a call or jump is pinned to
the cell that it is counted to from `origin`. -/
def source? (op : Operation) (source : Address) (origin : Coord) : Option Address :=
  match op with
  | data _ | branch _ => some source
  | call | jump => some (source.toAbsolute origin)
  | nop | ret => none

/-- The second operand of an instruction for the operation. -/
def destination? (op : Operation) (destination : Address) : Option Address :=
  match op with
  | data _ | branch _ | call | jump => some destination
  | nop | ret => none

end Operation

namespace Machine

/-! ## One change of the program -/

/-- Let `program` be the program, with `i` written over the current node. -/
def overwrite (m : Machine) (program : Program) (i : Instruction) : Machine :=
  { m with program := program.set m.active.current i }

/-- The state with the operation written over the current node, and a new placeholder for each way
on. -/
def graft (m : Machine) (source destination : Address) : Operation → Machine
  | .nop => m
  | .data op =>
    let next := m.program.fresh
    m.overwrite (m.program.push .nop) (.data op source destination next)
  | .branch test =>
    let ifTrue := m.program.fresh
    let grown := m.program.push .nop
    let ifFalse := grown.fresh
    m.overwrite (grown.push .nop) (.branch test source destination ifTrue ifFalse)
  | .call =>
    let link := m.program.fresh
    m.overwrite (m.program.push .nop) (.call (source.toAbsolute m.active.origin) destination link)
  | .jump => m.overwrite m.program (.jump (source.toAbsolute m.active.origin) destination)
  | .ret => m.overwrite m.program .ret

/-- **A splice is made wholly or not at all**: it is vetted before a placeholder is added. -/
theorem splice_eq (m : Machine) (source destination : Address) (op : Operation) :
    m.splice source destination op =
      match m.vet source destination op with
      | .ok () => (.ok m.active.current, m.graft source destination op)
      | .error reason => (.error reason, m) := by
  unfold splice Edit.splice Edit.build
  simp only [Edit.make_bind, Edit.make_get, Edit.make_look]
  cases m.vet source destination op with
  | error reason => rfl
  | ok _ => cases op <;> rfl

variable {m : Machine} {source destination : Address} {op : Operation} {i : Instruction}

/-- The node `i` is an instruction for the operation on these operands, as a splice at `m` makes
it. -/
structure Makes (m : Machine) (source destination : Address) (op : Operation) (i : Instruction) :
    Prop where
  operation : i.operation = op
  source : i.source? = op.source? source m.active.origin
  destination : i.destination? = op.destination? destination
  ways : i.successors = m.program.upcoming op.ways

/-- The program grows by the ways on, and then the current node is written over. -/
theorem graft_eq_overwrite (hop : op ≠ .nop) (m : Machine) (source destination : Address) :
    ∃ p i, m.graft source destination op = m.overwrite p i ∧ p.GrownFrom m.program ∧
      p.size = m.program.size + op.ways ∧ m.Makes source destination op i := by
  have hone := m.program.grownFrom_push_nop
  have hsize := m.program.size_push .nop
  cases op with
  | nop => exact absurd rfl hop
  | data | call => exact ⟨_, _, rfl, hone, hsize, rfl, rfl, rfl, rfl⟩
  | branch =>
    have htwo := (m.program.push .nop).grownFrom_push_nop.trans hone
    refine ⟨_, _, rfl, htwo, ?_, rfl, rfl, rfl, ?_⟩
    · rw [Program.size_push, hsize]
      rfl
    · show [m.program.fresh, (m.program.push .nop).fresh] = _
      rw [Program.fresh, Program.fresh, hsize]
      rfl
  | jump | ret => exact ⟨_, _, rfl, .refl _, rfl, rfl, rfl, rfl, rfl⟩

theorem graft_eq_reprogram (m : Machine) (source destination : Address) (op : Operation) :
    m.graft source destination op =
      { m with program := (m.graft source destination op).program } := by
  cases op <;> rfl

/-! ## What a graft changes -/

theorem size_le_graft (m : Machine) (source destination : Address) (op : Operation) :
    m.program.size ≤ (m.graft source destination op).program.size := by
  by_cases hop : op = .nop
  · rw [hop]
    exact Nat.le_refl _
  · obtain ⟨p, i, hgraft, grown, -⟩ := graft_eq_overwrite hop m source destination
    rw [hgraft]
    exact Nat.le_trans grown.size_le (Nat.le_of_eq (p.size_set _ i).symm)

/-- All nodes but the current one stay as they are. -/
theorem get?_graft {id : NodeId} (hid : m.program.contains id = true)
    (hne : id ≠ m.active.current) :
    (m.graft source destination op).program.get? id = m.program.get? id := by
  by_cases hop : op = .nop
  · rw [hop]
    rfl
  · obtain ⟨p, i, hgraft, grown, -⟩ := graft_eq_overwrite hop m source destination
    rw [hgraft]
    exact (Program.get?_set_of_ne hne i).trans (grown.get?_eq hid)

/-- `n` is `m` with the operation recorded as the node `i`. -/
structure Spliced (m n : Machine) (source destination : Address) (op : Operation)
    (i : Instruction) : Prop where
  memory : n.memory = m.memory
  stack : n.stack = m.stack
  flag : n.flag = m.flag
  others : ∀ id, m.program.contains id = true → id ≠ m.active.current →
    n.program.get? id = m.program.get? id
  node : n.program.get? m.active.current = some i
  makes : m.Makes source destination op i
  count : i.successors.length = op.ways
  size : n.program.size = m.program.size + i.successors.length
  /-- The ways on are the nodes that were added, all of them and no other. -/
  added : ∀ id, id ∈ i.successors ↔ m.program.contains id = false ∧ n.program.contains id = true
  placeholders : ∀ id ∈ i.successors, n.program.get? id = some .nop
  distinct : i.successors.Nodup
  elsewhere : m.active.current ∉ i.successors

theorem Spliced.of_overwrite {p : Program} (hc : m.program.contains m.active.current = true)
    (grown : p.GrownFrom m.program) (hsize : p.size = m.program.size + op.ways)
    (makes : m.Makes source destination op i) :
    Spliced m (m.overwrite p i) source destination op i := by
  have hsize' : (m.overwrite p i).program.size = m.program.size + op.ways :=
    (p.size_set _ i).trans hsize
  have hadded : ∀ id, id ∈ i.successors ↔
      m.program.contains id = false ∧ (m.overwrite p i).program.contains id = true := by
    intro id
    rw [makes.ways, Program.mem_upcoming, Program.contains_eq_false_iff, Program.contains_iff,
      hsize']
  -- The current node is not new, and the ways on are.
  have helsewhere : m.active.current ∉ i.successors := by
    intro hmem
    have hnew := ((hadded _).1 hmem).1
    rw [hc] at hnew
    cases hnew
  have hlength : i.successors.length = op.ways := by
    rw [makes.ways, Program.length_upcoming]
  refine ⟨rfl, rfl, rfl, ?_, ?_, makes, hlength, ?_, hadded, ?_, ?_, helsewhere⟩
  · intro id hid hne
    exact (Program.get?_set_of_ne hne i).trans (grown.get?_eq hid)
  · exact Program.get?_set_self (Program.contains_of_size_le grown.size_le hc) i
  · rw [hlength]
    exact hsize'
  · intro id hmem
    have hne : id ≠ m.active.current := by
      rintro rfl
      exact helsewhere hmem
    obtain ⟨hold, hnew⟩ := (hadded id).1 hmem
    obtain ⟨j, hj⟩ : ∃ j, (m.overwrite p i).program.get? id = some j :=
      ⟨_, Array.getElem?_eq_getElem (Program.contains_iff.1 hnew)⟩
    have hp : p.get? id = some j := (Program.get?_set_of_ne hne i).symm.trans hj
    rw [hj, grown.eq_nop hold hp]
  · rw [makes.ways]
    exact m.program.nodup_upcoming op.ways

theorem graft_spliced (hc : m.program.contains m.active.current = true) (hop : op ≠ .nop)
    (source destination : Address) :
    ∃ i, Spliced m (m.graft source destination op) source destination op i := by
  obtain ⟨p, i, hgraft, grown, hsize, makes⟩ := graft_eq_overwrite hop m source destination
  rw [hgraft]
  exact ⟨i, .of_overwrite hc grown hsize makes⟩

/-- The new node performs the operation, and its ways on are new placeholders. -/
theorem graft_node (hc : m.program.contains m.active.current = true) (hop : op ≠ .nop)
    (source destination : Address) :
    ∃ i, (m.graft source destination op).currentInstruction? = some i ∧ i.operation = op ∧
      ∀ next ∈ i.successors, m.program.contains next = false ∧
        (m.graft source destination op).program.get? next = some .nop := by
  obtain ⟨i, h⟩ := graft_spliced hc hop source destination
  refine ⟨i, ?_, h.makes.operation, fun next hn => ?_⟩
  · rw [graft_eq_reprogram]
    exact h.node
  · exact ⟨((h.added next).1 hn).1, h.placeholders next hn⟩

end Machine

end GridMachine
