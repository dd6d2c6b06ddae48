import BlockStage.Text.Lower

/-!
# Searching and cutting texts

Where a text occurs within another, and the pieces into which it falls.
-/

namespace BlockStage.Text

def isSpace (c : Char) : Bool := isBlank c || (0x1C ≤ c.toNat && c.toNat ≤ 0x1F)

/-! ## Occurrences -/

/-- `str.find` -/
def find? (needle : List Char) : List Char → Option Nat
  | [] => if needle.isEmpty then some 0 else none
  | c :: rest =>
    if needle.isPrefixOf (c :: rest) then some 0 else (find? needle rest).map (· + 1)

/-- The text before and after an occurrence. -/
def cut? (needle hay : List Char) : Option (List Char × List Char) :=
  (find? needle hay).map fun i => (hay.take i, hay.drop (i + needle.length))

/-! ## Pieces -/

/-- `str.split` at a separator. -/
def splitOn (sep : List Char) : Nat → List Char → List (List Char)
  | 0, cs => [cs]
  | n + 1, cs =>
    match cut? sep cs with
    | none => [cs]
    | some (piece, rest) => piece :: splitOn sep n rest

/-- `str.split` at white space, with `n` cuts at most. What is left keeps its white space. -/
def words : Nat → List Char → List (List Char)
  | 0, cs =>
    let cs := cs.dropWhile isSpace
    if cs.isEmpty then [] else [cs]
  | n + 1, cs =>
    let cs := cs.dropWhile isSpace
    if cs.isEmpty then []
    else cs.takeWhile (!isSpace ·) :: words n (cs.dropWhile (!isSpace ·))

/-! ## Ends -/

def trimStart (p : Char → Bool) (cs : List Char) : List Char := cs.dropWhile p

def trimEnd (p : Char → Bool) (cs : List Char) : List Char := (cs.reverse.dropWhile p).reverse

/-- `str.strip` -/
def trim (p : Char → Bool) (cs : List Char) : List Char := trimEnd p (trimStart p cs)

end BlockStage.Text
