import GridMachine.Recorder.Basic
import GridMachine.Proofs.Closure
import GridMachine.Proofs.Vetting
import GridMachine.Proofs.Bracketing
import GridMachine.Proofs.Replay
import GridMachine.Proofs.Provenance
import GridMachine.Proofs.Isolation
import GridMachine.Proofs.Relocation
import GridMachine.Proofs.Driving
import GridMachine.Proofs.Resolution
import GridMachine.Proofs.Effect
import GridMachine.Proofs.Splicing
import GridMachine.Proofs.Indirection
import GridMachine.Proofs.Aliasing
import GridMachine.Proofs.Diagnosis
import GridMachine.Proofs.Transfer
import GridMachine.Proofs.Picking
import GridMachine.Proofs.Recording
import GridMachine.Proofs.Dragging
import GridMachine.Proofs.Highlighting
import GridMachine.Proofs.Dangling
import GridMachine.Proofs.Capture
import GridMachine.Proofs.Session
import GridMachine.Proofs.Shifting
import GridMachine.Proofs.Remainder
import GridMachine.Proofs.Spelling
import GridMachine.Proofs.Rebasing
import GridMachine.Proofs.History
