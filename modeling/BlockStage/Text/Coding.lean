import BlockStage.Fault

/-!
# Codings

Texts as bytes and back. What a coding cannot write or read is mended in the way that a name says,
which is only looked up then.
-/

namespace BlockStage.Text

/-- A coding of texts. -/
inductive Coding where
  /-- Sequences of one to four bytes. -/
  | utf8
  /-- Units of two bytes, the lower one first. -/
  | utf16
  /-- Single bytes for the characters below a code. -/
  | bytesBelow (code : Nat)
  deriving DecidableEq, Repr

def codingNames : List (String × Coding) :=
  groups.flatMap fun (coding, names) => (names.splitOn " ").map (·, coding)
where
  groups := [
    (Coding.utf8, "utf_8 utf8 u8 utf"), (.utf16, "utf_16_le utf_16le"), (.bytesBelow 128, "ascii us_ascii"),
    (.bytesBelow 256, "latin_1 latin1 latin l1 iso_8859_1 iso8859_1")]

/-- The coding with a name; case and the marks between words do not matter. -/
def Coding.ofName? (name : String) : Except Fault Coding :=
  let plain := String.ofList (name.toList.map fun c =>
    if c = '-' || c = ' ' then '_' else c.toLower)
  (codingNames.lookup plain).elim (.error .unknownCoding) .ok

/-! ## Mending -/

/-- What becomes of a character that cannot be written. -/
inductive Mending where
  | strict
  | ignore
  | replace
  | escape
  deriving DecidableEq, Repr

def Mending.ofName? (name : String) : Except Fault Mending :=
  match name with
  | "strict" | "surrogatepass" | "surrogateescape" => .ok .strict
  | "ignore" => .ok .ignore
  | "replace" => .ok .replace
  | "backslashreplace" => .ok .escape
  | _ => .error .unknownCoding

def hexText (width n : Nat) : List Char :=
  let digits := Nat.toDigits 16 n
  List.replicate (width - digits.length) '0' ++ digits

def escapedCode (n : Nat) : List Char :=
  if n < 256 then '\\' :: 'x' :: hexText 2 n
  else if n < 65536 then '\\' :: 'u' :: hexText 4 n
  else '\\' :: 'U' :: hexText 8 n

def mendedChar? (mending : String) (c : Char) : Except Fault (List Char) := do
  match ← Mending.ofName? mending with
  | .strict => throw .unwritable
  | .ignore => return []
  | .replace => return ['?']
  | .escape => return escapedCode c.toNat

def mendedBytes? (mending : String) (codes : List Nat) : Except Fault (List Char) := do
  match ← Mending.ofName? mending with
  | .strict => throw .unreadable
  | .ignore => return []
  | .replace => return [Char.ofNat 0xfffd]
  | .escape => return codes.flatMap escapedCode

/-! ## Writing -/

/-- The units of two bytes of a character. -/
def pairUnits (c : Char) : List Nat :=
  let n := c.toNat
  if n < 0x10000 then [n] else [0xd800 + (n - 0x10000) / 1024, 0xdc00 + (n - 0x10000) % 1024]

/-- `str.encode` -/
def Coding.encode? (coding : Coding) (mending s : String) : Except Fault (List Nat) :=
  match coding with
  | .utf8 => .ok (s.toUTF8.data.toList.map UInt8.toNat)
  | .utf16 => .ok ((s.toList.flatMap pairUnits).flatMap fun n => [n % 256, n / 256])
  | .bytesBelow limit => do
    let parts ← s.toList.mapM fun c =>
      if c.toNat < limit then .ok [c.toNat]
      else (mendedChar? mending c).map fun cs => cs.map Char.toNat
    return parts.flatten

/-! ## Reading -/

/-- A character or the bytes that are none, and the rest. -/
abbrev Found := Except (List Nat) Char × List Nat

/-- How many bytes follow the first, and the codes that the second may have. -/
def sequenceShape? (first : Nat) : Option (Nat × Nat × Nat) :=
  if 0xc2 ≤ first && first ≤ 0xdf then some (1, 0x80, 0xbf)
  else if first = 0xe0 then some (2, 0xa0, 0xbf)
  else if first = 0xed then some (2, 0x80, 0x9f)
  else if 0xe1 ≤ first && first ≤ 0xef then some (2, 0x80, 0xbf)
  else if first = 0xf0 then some (3, 0x90, 0xbf)
  else if 0xf1 ≤ first && first ≤ 0xf3 then some (3, 0x80, 0xbf)
  else if first = 0xf4 then some (3, 0x80, 0x8f)
  else none

/-- Reads the bytes after the first one, given those that were read, what they stand for, and the codes that the
next may have. -/
def restOfSequence : Nat → List Nat → Nat → Nat × Nat → List Nat → Found
  | 0, _, n, _, rest => (.ok (Char.ofNat n), rest)
  | _ + 1, taken, _, _, [] => (.error taken, [])
  | k + 1, taken, n, (low, high), c :: rest =>
    if low ≤ c && c ≤ high then
      restOfSequence k (taken ++ [c]) (64 * n + (c - 0x80)) (0x80, 0xbf) rest
    else (.error taken, c :: rest)

def takeSequence (first : Nat) (rest : List Nat) : Found :=
  if first < 0x80 then (.ok (Char.ofNat first), rest)
  else
    match sequenceShape? first with
    | none => (.error [first], rest)
    | some (k, bounds) => restOfSequence k [first] (first % Nat.pow 2 (6 - k)) bounds rest

/-- The text that bytes stand for; `n` bounds the steps. -/
def readAll? (take : Nat → List Nat → Found) (mending : String) :
    Nat → List Nat → Except Fault (List Char)
  | _, [] => .ok []
  | 0, _ => .ok []
  | n + 1, c :: rest => do
    let (found, left) := take c rest
    let cs ← match found with
      | .ok c => pure [c]
      | .error codes => mendedBytes? mending codes
    return cs ++ (← readAll? take mending n left)

/-- `bytes.decode` -/
def Coding.decode? (coding : Coding) (mending : String) (codes : List Nat) : Except Fault String :=
  let read (take : Nat → List Nat → Found) : Except Fault String :=
    (readAll? take mending codes.length codes).map String.ofList
  match coding with
  | .utf8 => read takeSequence
  | .utf16 => .error .unreadable
  | .bytesBelow limit =>
    read (fun c rest => (if c < limit then .ok (Char.ofNat c) else .error [c], rest))

end BlockStage.Text
