import GridMachine.Text.ExtendingMark
import GridMachine.Text.Unprintable

/-! Quoted text, as messages show it: between double quotes, with a letter behind a backslash for
the common control characters, and with the code point of every other character that would not be
seen or would attach to its neighbour. -/

namespace GridMachine.Text

/-- The letter that stands behind a backslash for the character, if it has one. -/
def escapeLetter? : Char → Option Char
  | '\x00' => some '0'
  | '\t' => some 't'
  | '\r' => some 'r'
  | '\n' => some 'n'
  | '\\' => some '\\'
  | '"' => some '"'
  | _ => none

/-- Whether the code point of the character lies in one of the closed ranges. -/
def inRanges (ranges : List (Nat × Nat)) (c : Char) : Bool :=
  ranges.any fun r => r.1 ≤ c.toNat && c.toNat ≤ r.2

/-- Whether the character is shown by its code point. Printable ASCII never is. -/
def hidden (c : Char) : Bool :=
  if 0x20 ≤ c.toNat ∧ c.toNat ≤ 0x7E then false
  else inRanges extendingMark c || inRanges unprintable c

/-- The code point in lower-case hexadecimal, with no leading zeros. -/
def codePoint (c : Char) : List Char := Nat.toDigits 16 c.toNat

/-- The characters that show `c` between quotes. -/
def escape (c : Char) : List Char :=
  match escapeLetter? c with
  | some letter => ['\\', letter]
  | none => if hidden c then ['\\', 'u', '\x7b'] ++ codePoint c ++ ['\x7d'] else [c]

/-- The text between double quotes, every character shown. -/
def quoted (s : String) : String :=
  String.ofList ('"' :: s.toList.flatMap escape ++ ['"'])

end GridMachine.Text
