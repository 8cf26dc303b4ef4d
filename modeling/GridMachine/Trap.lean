import GridMachine.Program

/-! The reasons for which a step is refused while the machine runs. A trap names the coordinate
that a reader should look at: the cell with the wrong contents, or the operand that leads off the
grid. -/

namespace GridMachine

inductive Trap where
  | notAnAddress (site : Coord)
  | emptyCell (site : Coord)
  | notData (site : Coord)
  /-- The divisor in the cell counts as zero. -/
  | divisionByZero (site : Coord)
  /-- The address found or computed at `site` leads off the grid. -/
  | addressOutOfRange (site : Coord)
  /-- The number of columns in the cell is infinite or no number. -/
  | nonFiniteShift (site : Coord)
  | returnFromRoot
  /-- The program has no node of that name. -/
  | unknownInstruction (id : NodeId)
deriving DecidableEq

def Trap.message : Trap → String
  | notAnAddress site => "cell at " ++ site.text ++ " does not hold an address"
  | emptyCell site => "cell at " ++ site.text ++ " is empty"
  | notData site => "cell at " ++ site.text ++ " does not hold data"
  | divisionByZero site => "division by zero at " ++ site.text
  | addressOutOfRange site => "address computed from " ++ site.text ++ " is out of range"
  | nonFiniteShift site => "shift amount at " ++ site.text ++ " is not finite"
  | returnFromRoot => "RET with only the root context"
  | unknownInstruction id => "unknown instruction " ++ id.text

end GridMachine
