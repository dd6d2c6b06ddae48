import BlockStage.Expression.Call
import BlockStage.Text.Coding

/-!
# Functions of texts

The case of a text, its pieces, and the text without white space at its ends.
-/

namespace BlockStage.Expression.Method.Text

open BlockStage.Text

def needChars (d : Datum) : Except Fault (List Char) := (d.needText).map String.toList

def texts (pieces : List (List Char)) : Datum := .list (pieces.map Datum.chars)

/-! ## Pieces -/

def needSeparator (d : Datum) : Except Fault (List Char) := do
  let sep ← needChars d
  if sep.isEmpty then throw .badValue
  return sep

/-- How many cuts are made in a text; no more than its length if their number is negative. -/
def cuts (cs : List Char) (limit : Int) : Nat := if limit < 0 then cs.length else limit.toNat

/-- `str.split` -/
def pieces? (cs : List Char) (a : Args) : Except Fault Datum := do
  let found ← a.bind? 0 0 ["sep", "maxsplit"]
  let limit ← (found[1]?.join.getD (Datum.int (-1))).count?
  match found.head?.join.getD .null with
  | .one .null => return texts (words (cuts cs limit) cs)
  | d => return texts (splitOn (← needSeparator d) (cuts cs limit) cs)

/-- `str.join` -/
def joined? (s : String) (a : Args) : Except Fault Datum := do
  let items ← (← a.one?).elements?
  return .text (s.intercalate (← items.mapM Datum.needText))

/-! ## Trimming and coding -/

/-- `str.strip` -/
def trimmed? (cs : List Char) (a : Args) : Except Fault Datum := do
  match ← a.optional? with
  | none | some (.one .null) => return .chars (trim isSpace cs)
  | some d =>
    let set ← needChars d
    return .chars (trim set.contains cs)

def coding? (a : Args) : Except Fault (Coding × String) := do
  let found ← a.bind? 0 0 ["encoding", "errors"]
  let name ← (found.head?.join.getD (Datum.text "utf-8")).needText
  let mending ← (found[1]?.join.getD (Datum.text "strict")).needText
  return (← Coding.ofName? name, mending)

/-- `str.encode` -/
def encoded? (s : String) (a : Args) : Except Fault Datum := do
  let (coding, mending) ← coding? a
  return .bytes (← coding.encode? mending s)

/-! ## All functions -/

def names : List String := ["encode", "format", "join", "lower", "split", "strip", "upper"]

/-- Calls a method of a text. -/
def call? (s name : String) (a : Args) : Except Fault Datum := do
  let cs := s.toList
  match name with
  | "lower" | "upper" =>
    a.none?
    return .text (if name == "lower" then lower s else upper s)
  | "split" => pieces? cs a
  | "join" => joined? s a
  | "strip" => trimmed? cs a
  | "encode" => encoded? s a
  | _ => throw .missingMember

end BlockStage.Expression.Method.Text
