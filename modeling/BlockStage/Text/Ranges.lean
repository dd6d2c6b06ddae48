import BlockStage.Text.Digit

/-!
# Ranges of code points

The longer tables of character classes are texts, in which each character is a digit. A number ends with a
digit below 44, and the digits before that one are higher. A range of codes is given by two numbers: the
gap before it, and how far its last code is from its first.
-/

namespace BlockStage.Text

def joinLines (s : String) : String := String.ofList (s.toList.filter (· != '\n'))

/-- The digits are the characters from `#` to `z`, but for the backslash. -/
def digitOf (c : Char) : Nat := c.toNat - if c.toNat < 92 then 35 else 36

/-- The numbers of a table. -/
def readNumbers : Nat → List Char → List Nat
  | _, [] => []
  | n, c :: rest =>
    let d := digitOf c
    if d < 44 then (n * 44 + d) :: readNumbers 0 rest else readNumbers (n * 43 + (d - 44)) rest

def tableNumbers (s : String) : List Nat := readNumbers 0 (joinLines s).toList

def readRangesFrom (next : Nat) : List Nat → List (Nat × Nat)
  | gap :: length :: rest =>
    let last := next + gap + length
    (next + gap, last) :: readRangesFrom (last + 1) rest
  | _ => []

/-- The ranges of a table. -/
def readRanges (s : String) : List (Nat × Nat) := readRangesFrom 0 (tableNumbers s)

end BlockStage.Text
