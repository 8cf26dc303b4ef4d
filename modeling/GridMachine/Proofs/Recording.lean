import GridMachine.Recorder.Basic
import GridMachine.Proofs.Atomicity
import GridMachine.Proofs.Resolution
import GridMachine.Proofs.Vetting

/-! # What comes of recording

To record is to change two things at once, the recorder and the machine, and it can fail in two
phases: before the splice, for a pick that is missing or an operation that the machine rejects, and
after it, when the operation is recorded and its step is refused. `Records` and `RecordsAndSteps`
list what can come of it, each time with the recorder and the machine then. So a failure of the
first kind changes neither of the two, and one of the second kind changes both as the splice alone
does. Which traps that can be follows from what vetting leaves to fear. -/

namespace GridMachine

/-- Whether the operation has operands, so that both must be picked. -/
def Operation.takesOperands : Operation → Bool
  | data _ | branch _ | call | jump => true
  | nop | ret => false

namespace Machine

variable {m : Machine} {source destination : Address} {op : Operation}

/-- An operation without operands is spliced in the same way, whatever stands in their place. -/
theorem splice_of_no_operands (h : op.takesOperands = false) (m : Machine)
    (source destination source' destination' : Address) :
    m.splice source destination op = m.splice source' destination' op := by
  cases op with
  | data | branch | call | jump => cases h
  | nop | ret => rw [splice_eq, splice_eq]; rfl

/-- A splice changes the program and nothing else. -/
theorem graft_keeps (m : Machine) (source destination : Address) (op : Operation) :
    (m.graft source destination op).memory = m.memory ∧
      (m.graft source destination op).stack = m.stack ∧
      (m.graft source destination op).flag = m.flag := by
  rw [graft_eq_reprogram]
  exact ⟨rfl, rfl, rfl⟩

/-- An operation that was recorded at a node of the program traps for a hazard or not at all. -/
theorem hazard_of_execute_graft (hc : m.program.contains m.active.current = true)
    (hop : op ≠ .nop) (h : m.Suits source destination op) {trap : Trap}
    (ht : (m.graft source destination op).execute.1 = .error trap) :
    ∃ dop, op = .data dop ∧ dop.Hazard trap := by
  have hperforms : ∀ i : Instruction, i.Performs source destination op →
      ∃ dop, op = .data dop ∧ dop.Hazard trap := by
    intro i hi
    rcases execute_graft hc hi h with htrue | ⟨trap', dop, ht', hdata, hz⟩
    · rw [htrue] at ht
      cases ht
    · rw [ht'] at ht
      cases ht
      exact ⟨dop, hdata, hz⟩
  have htransfer : ¬(op = .call ∨ op = .jump) := by
    intro hcall
    obtain ⟨_, _, _, hmade, _⟩ := execute_graft_transfer hc hcall h
    rw [hmade] at ht
    cases ht
  cases op with
  | nop => exact absurd rfl hop
  | data dop => exact hperforms _ (.data dop ⟨0⟩)
  | branch test => exact hperforms _ (.branch test ⟨0⟩ ⟨0⟩)
  | call => exact absurd (.inl rfl) htransfer
  | jump => exact absurd (.inr rfl) htransfer
  | ret => exact hperforms _ .ret

end Machine

namespace Recorder

variable {r : Recorder} {m : Machine} {op : Operation} {source destination : Address}

/-- The operation can be recorded with these operands: the picked ones if it has operands, and any
if it has none. -/
def Offers (r : Recorder) (op : Operation) (source destination : Address) : Prop :=
  op.takesOperands = true → r.source = some source ∧ r.destination = some destination

theorem offers_of_no_operands (h : op.takesOperands = false) (r : Recorder)
    (source destination : Address) : r.Offers op source destination := by
  intro htakes
  rw [h] at htakes
  cases htakes

/-- What comes of recording the operation, and the recorder and the machine then. -/
inductive Records (r : Recorder) (m : Machine) (op : Operation) :
    Except RecordError NodeId × Recorder × Machine → Prop
  | missingSource (takes : op.takesOperands = true) (unpicked : r.source = none) :
      Records r m op (.error .missingSource, r, m)
  | missingDestination {source : Address} (takes : op.takesOperands = true)
      (picked : r.source = some source) (unpicked : r.destination = none) :
      Records r m op (.error .missingDestination, r, m)
  | rejected {source destination : Address} {reason : Rejection}
      (offered : r.Offers op source destination)
      (spliced : m.splice source destination op = (.error reason, m)) :
      Records r m op (.error (.rejected reason), r, m)
  | recorded {source destination : Address} {id : NodeId} {n : Machine}
      (offered : r.Offers op source destination)
      (spliced : m.splice source destination op = (.ok id, n)) :
      Records r m op (.ok id, { r with source := none, destination := none }, n)

/-- What comes of recording the operation and executing it, and the recorder and the machine
then. -/
inductive RecordsAndSteps (r : Recorder) (m : Machine) (op : Operation) :
    Except RecordError Bool × Recorder × Machine → Prop
  | refused {e : RecordError} (record : r.Records m op (.error e, r, m)) :
      RecordsAndSteps r m op (.error e, r, m)
  | trapped {id : NodeId} {r' : Recorder} {n : Machine} {trap : Trap}
      (record : r.Records m op (.ok id, r', n)) (executed : n.execute = (.error trap, n)) :
      RecordsAndSteps r m op (.error (.trapped trap), r', n)
  | stepped {id : NodeId} {r' : Recorder} {n k : Machine} {made : Bool}
      (record : r.Records m op (.ok id, r', n)) (executed : n.execute = (.ok made, k)) :
      RecordsAndSteps r m op (.ok made, r', k)

/-! ## Recording -/

/-- Operands that are on offer are spliced as those that the recorder takes. -/
theorem Offers.operands_eq (h : r.Offers op source destination) (m : Machine) :
    ∃ source' destination', r.operands op = .ok (source', destination') ∧
      m.splice source' destination' op = m.splice source destination op := by
  cases op with
  | data | branch | call | jump =>
    obtain ⟨hsource, hdestination⟩ := h rfl
    exact ⟨source, destination, by simp [operands, hsource, hdestination], rfl⟩
  | nop | ret => exact ⟨_, _, rfl, Machine.splice_of_no_operands rfl m ..⟩

theorem operands_of_no_source (htakes : op.takesOperands = true) (h : r.source = none) :
    r.operands op = .error .missingSource := by
  cases op with
  | data | branch | call | jump => simp [operands, h]
  | nop | ret => cases htakes

theorem operands_of_no_destination (htakes : op.takesOperands = true)
    (hsource : r.source = some source) (h : r.destination = none) :
    r.operands op = .error .missingDestination := by
  cases op with
  | data | branch | call | jump => simp [operands, hsource, h]
  | nop | ret => cases htakes

/-- All that `Records` lists happens. -/
theorem Records.record_eq {out : Except RecordError NodeId × Recorder × Machine}
    (h : r.Records m op out) : r.record m op = out := by
  cases h with
  | missingSource takes unpicked => rw [record, operands_of_no_source takes unpicked]
  | missingDestination takes picked unpicked =>
    rw [record, operands_of_no_destination takes picked unpicked]
  | rejected offered spliced =>
    obtain ⟨source', destination', hoperands, hsame⟩ := offered.operands_eq m
    simp only [record, hoperands, hsame, spliced]
  | recorded offered spliced =>
    obtain ⟨source', destination', hoperands, hsame⟩ := offered.operands_eq m
    simp only [record, hoperands, hsame, spliced, reset]

/-- With operands on offer, the splice decides. -/
theorem exists_records_of_offers (h : r.Offers op source destination) :
    ∃ out, r.Records m op out := by
  rcases hs : m.splice source destination op with ⟨reason | id, n⟩
  · obtain rfl := Machine.splice_eq_error hs
    exact ⟨_, .rejected h hs⟩
  · exact ⟨_, .recorded h hs⟩

theorem exists_records (r : Recorder) (m : Machine) (op : Operation) :
    ∃ out, r.Records m op out := by
  cases htakes : op.takesOperands with
  | false =>
    have hoffers := offers_of_no_operands htakes r (.relative .zero) (.relative .zero)
    exact exists_records_of_offers hoffers
  | true =>
    cases hsource : r.source with
    | none => exact ⟨_, .missingSource htakes hsource⟩
    | some source =>
      cases hdestination : r.destination with
      | none => exact ⟨_, .missingDestination htakes hsource hdestination⟩
      | some destination => exact exists_records_of_offers fun _ => ⟨hsource, hdestination⟩

/-- `Records` lists all that happens. -/
theorem record_eq_iff {out : Except RecordError NodeId × Recorder × Machine} :
    r.record m op = out ↔ r.Records m op out := by
  constructor
  · rintro rfl
    obtain ⟨out, h⟩ := exists_records r m op
    rw [h.record_eq]
    exact h
  · exact Records.record_eq

/-- A refusal changes neither the recorder nor the machine. -/
theorem Records.unchanged {e : RecordError} {r' : Recorder} {n : Machine}
    (h : r.Records m op (.error e, r', n)) : r' = r ∧ n = m := by
  cases h with
  | missingSource | missingDestination | rejected => exact ⟨rfl, rfl⟩

/-! ## Recording and executing -/

theorem RecordsAndSteps.recordAndStep_eq {out : Except RecordError Bool × Recorder × Machine}
    (h : r.RecordsAndSteps m op out) : r.recordAndStep m op = out := by
  cases h with
  | refused record => rw [recordAndStep, record.record_eq]
  | trapped record executed | stepped record executed =>
    rw [recordAndStep, record.record_eq]
    simp only [executed]

theorem exists_recordsAndSteps (r : Recorder) (m : Machine) (op : Operation) :
    ∃ out, r.RecordsAndSteps m op out := by
  obtain ⟨⟨e | id, r', n⟩, h⟩ := exists_records r m op
  · obtain ⟨rfl, rfl⟩ := h.unchanged
    exact ⟨_, .refused h⟩
  · rcases he : n.execute with ⟨trap | made, k⟩
    · obtain ⟨-, rfl⟩ := Machine.execute_eq_error_iff.1 he
      exact ⟨_, .trapped h he⟩
    · exact ⟨_, .stepped h he⟩

/-- `RecordsAndSteps` lists all that happens, and all of it happens. -/
theorem recordAndStep_eq_iff {out : Except RecordError Bool × Recorder × Machine} :
    r.recordAndStep m op = out ↔ r.RecordsAndSteps m op out := by
  constructor
  · rintro rfl
    obtain ⟨out, h⟩ := exists_recordsAndSteps r m op
    rw [h.recordAndStep_eq]
    exact h
  · exact RecordsAndSteps.recordAndStep_eq

/-- A trap comes after a splice, which is all that was done. -/
theorem spliced_of_trapped {trap : Trap} {r' : Recorder} {n : Machine}
    (h : r.recordAndStep m op = (.error (.trapped trap), r', n)) :
    ∃ source destination, r.Offers op source destination ∧
      m.Suits source destination op ∧ n = m.graft source destination op ∧
      n.execute = (.error trap, n) := by
  cases recordAndStep_eq_iff.1 h with
  | refused record => cases record
  | @trapped id r' n trap record executed =>
    cases record with
    | recorded offered spliced =>
      obtain ⟨hsuits, -, hgraft⟩ := Machine.splice_eq_ok_iff.1 spliced
      exact ⟨_, _, offered, hsuits, hgraft, executed⟩

/-- **Recording is all or nothing**, for the recorder and the machine together. What comes of it is
what `Records` and `RecordsAndSteps` list. A trap leaves cells, frames and flag as they were; if the
operation does something and the current node is in the program, the operation is recorded there,
and the trap is one of three. To record nothing and step is to execute what the current node
holds. -/
theorem recording_all_or_nothing (r : Recorder) (m : Machine) (op : Operation) :
    (∀ out, r.record m op = out ↔ r.Records m op out) ∧
    (∀ out, r.recordAndStep m op = out ↔ r.RecordsAndSteps m op out) ∧
    (∀ trap r' n, r.recordAndStep m op = (.error (.trapped trap), r', n) →
      n.memory = m.memory ∧ n.stack = m.stack ∧ n.flag = m.flag ∧
        (op ≠ .nop → m.program.contains m.active.current = true →
          (∃ source destination i, r.Offers op source destination ∧
            Machine.Spliced m n source destination op i) ∧
          ∃ site, trap = .divisionByZero site ∨ trap = .nonFiniteShift site ∨
            trap = .addressOutOfRange site)) ∧
    r.recordAndStep m .nop =
      (m.execute.1.mapError .trapped, { r with source := none, destination := none },
        m.execute.2) := by
  refine ⟨fun out => record_eq_iff, fun out => recordAndStep_eq_iff, ?_, ?_⟩
  · intro trap r' n h
    obtain ⟨source, destination, hoffers, hsuits, rfl, htrap⟩ := spliced_of_trapped h
    obtain ⟨hmemory, hstack, hflag⟩ := m.graft_keeps source destination op
    refine ⟨hmemory, hstack, hflag, fun hop hc => ⟨?_, ?_⟩⟩
    · obtain ⟨i, hi⟩ := Machine.graft_spliced hc hop source destination
      exact ⟨source, destination, i, hoffers, hi⟩
    · obtain ⟨dop, -, hz⟩ :=
        Machine.hazard_of_execute_graft hc hop hsuits (congrArg Prod.fst htrap)
      exact hz.exists_site
  · have hrecord : r.Records m .nop (.ok m.active.current, _, m) :=
      .recorded (offers_of_no_operands rfl r (.relative .zero) (.relative .zero))
        (Machine.splice_eq m _ _ .nop)
    rcases he : m.execute with ⟨trap | made, n⟩
    · obtain ⟨-, rfl⟩ := Machine.execute_eq_error_iff.1 he
      exact (RecordsAndSteps.trapped hrecord he).recordAndStep_eq
    · exact (RecordsAndSteps.stepped hrecord he).recordAndStep_eq

/-- A recorder that was dragged from the pointer below the last row to a cell beside it. -/
def edgeDrag : Recorder :=
  { source := some (.absolute ⟨3, 0⟩), destination := some (.absolute ⟨4, 0⟩) }

/-- A division of pointers is rejected, and the picks stay. A fetch through the pointer is recorded,
and its step is refused: the picks are used up, and the node stands while cells, frames and flag are
as before. -/
theorem edgeDrag_all_or_nothing :
    edgeDrag.Records edgePointers (.data (.arithmetic .divide))
        (.error (.rejected (.expectedData ⟨3, 0⟩)), edgeDrag, edgePointers) ∧
      ∃ n, edgeDrag.recordAndStep edgePointers (.data .read) =
          (.error (.trapped (.addressOutOfRange ⟨3, 0⟩)), {}, n) ∧
        n.memory = edgePointers.memory ∧ n.stack = edgePointers.stack ∧
        n.currentInstruction? =
          some (.data .read (.absolute ⟨3, 0⟩) (.absolute ⟨4, 0⟩) ⟨1⟩) ∧
        ∃ source destination i, edgeDrag.Offers (.data .read) source destination ∧
          Machine.Spliced edgePointers n source destination (.data .read) i := by
  obtain ⟨hrecord, -⟩ :=
    recording_all_or_nothing edgeDrag edgePointers (.data (.arithmetic .divide))
  obtain ⟨-, -, htrapped, -⟩ := recording_all_or_nothing edgeDrag edgePointers (.data .read)
  have htrap : edgeDrag.recordAndStep edgePointers (.data .read) =
      (.error (.trapped (.addressOutOfRange ⟨3, 0⟩)), {}, _) := rfl
  obtain ⟨hmemory, hstack, -, hnode⟩ := htrapped _ _ _ htrap
  refine ⟨(hrecord _).1 rfl, _, htrap, hmemory, hstack, rfl, ?_⟩
  exact (hnode (by decide) rfl).1

end Recorder

end GridMachine
