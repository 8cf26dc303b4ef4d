import GridMachine.Number.Exact
import GridMachine.Text.Quoted

/-! The operations of the machine and their mnemonics. An operation either moves data, compares
two numbers to choose a branch, or moves control between frames. A mnemonic is read in any mix of
upper and lower case, in ASCII letters only, and nothing may stand around it. -/

namespace GridMachine

/-- The arithmetic operations, applied to the destination (left) and the source (right). -/
inductive Arithmetic where
  | add
  | subtract
  | multiply
  | divide
  | modulo
deriving DecidableEq

namespace Arithmetic

/-- The value of `left op right`; none where the operation would divide by zero. Division rounds its
quotient toward zero, and the modulus is the remainder by the divisor rounded down. -/
def apply (op : Arithmetic) (left right : Float) : Option Float :=
  match op with
  | add => some (left + right)
  | subtract => some (left - right)
  | multiply => some (left * right)
  | divide =>
    if (Exact.ofFloat right).isZero then none
    else some (Exact.ofFloat (left / right)).trunc.toFloat
  | modulo =>
    let divisor := (Exact.ofFloat right).floor
    if divisor.isZero then none
    else some ((Exact.ofFloat left).rem divisor).toFloat

end Arithmetic

/-- The operations that act on cells and go on to one next instruction. -/
inductive DataOp where
  /-- Store a pointer to the source. -/
  | addressOf
  /-- Move the pointer at the destination along its row. -/
  | shift
  /-- Fetch through the pointer at the source. -/
  | read
  /-- Store through the pointer at the destination. -/
  | write
  | move
  | arithmetic (op : Arithmetic)
deriving DecidableEq

inductive Comparison where
  | equal
  | lessThan
deriving DecidableEq

namespace Comparison

/-- Whether the test holds, by the comparison of doubles: nothing is equal to or below a NaN, and
the two zeros are equal. -/
def holds (test : Comparison) (left right : Float) : Bool :=
  match test with
  | equal => left == right
  | lessThan => decide (left < right)

end Comparison

inductive Operation where
  | nop
  | data (op : DataOp)
  | branch (test : Comparison)
  | call
  | jump
  | ret
deriving DecidableEq

/-- The error of reading a mnemonic: no operation is written like this. -/
structure UnknownMnemonic where
  text : String
deriving DecidableEq

def UnknownMnemonic.message (e : UnknownMnemonic) : String :=
  "unknown operation mnemonic: " ++ Text.quoted e.text

namespace Operation

/-- Every operation once, in the order in which a catalogue lists them. -/
def all : List Operation :=
  [.nop, .data .addressOf, .data .shift, .data .read, .data .write, .data .move,
   .data (.arithmetic .add), .data (.arithmetic .subtract), .data (.arithmetic .multiply),
   .data (.arithmetic .divide), .data (.arithmetic .modulo), .branch .equal, .branch .lessThan,
   .call, .jump, .ret]

theorem mem_all (op : Operation) : op ∈ all := by
  cases op with
  | data d =>
    cases d with
    | arithmetic a => cases a <;> decide
    | _ => decide
  | branch t => cases t <;> decide
  | _ => decide

/-- The short name of an operation, in upper-case letters. -/
def mnemonic : Operation → String
  | nop => "NOP"
  | data .addressOf => "PTR"
  | data .shift => "INC"
  | data .read => "RD"
  | data .write => "WR"
  | data .move => "MOV"
  | data (.arithmetic .add) => "ADD"
  | data (.arithmetic .subtract) => "SUB"
  | data (.arithmetic .multiply) => "MUL"
  | data (.arithmetic .divide) => "DIV"
  | data (.arithmetic .modulo) => "MOD"
  | branch .equal => "BEQ"
  | branch .lessThan => "BLT"
  | call => "BL"
  | jump => "B"
  | ret => "RET"

/-- The operation that the text names, the case of ASCII letters apart. -/
def parse (text : String) : Except UnknownMnemonic Operation :=
  match all.find? (fun op => op.mnemonic == text.toUpper) with
  | some op => .ok op
  | none => .error ⟨text⟩

def dataOp? : Operation → Option DataOp
  | data op => some op
  | _ => none

def comparison? : Operation → Option Comparison
  | branch test => some test
  | _ => none

end Operation

def DataOp.isArithmetic : DataOp → Bool
  | .arithmetic _ => true
  | _ => false

end GridMachine
