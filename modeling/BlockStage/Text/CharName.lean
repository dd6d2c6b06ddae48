import BlockStage.Text.Lower

/-!
# Characters by name

A quoted text can refer to some characters by name.
-/

namespace BlockStage.Text

def namedMarks : List (String × Char) := [
  ("SPACE", ' '), ("COPYRIGHT SIGN", '©'), ("DEGREE SIGN", '°'), ("EN DASH", '–'), ("EM DASH", '—'), ("BULLET", '•'),
  ("HORIZONTAL ELLIPSIS", '…'), ("EURO SIGN", '€')]

def digitNames : List String := ["ZERO", "ONE", "TWO", "THREE", "FOUR", "FIVE", "SIX", "SEVEN", "EIGHT", "NINE"]

/-- The character of a name, in which small letters count as capitals. -/
def charNamed? (name : List Char) : Option Char :=
  let name := String.ofList (name.map Char.toUpper)
  match name.splitOn " " with
  | ["LATIN", size, "LETTER", letter] => do
    let [c] := letter.toList | none
    if !c.isUpper then none
    if size == "CAPITAL" then some c else if size == "SMALL" then some c.toLower else none
  | ["DIGIT", digit] => (digitNames.findIdx? (· == digit)).map fun n => Char.ofNat (48 + n)
  | _ => namedMarks.lookup name

end BlockStage.Text
