import BlockStage.Value.Basic

/-!
# Reading JSON

Names keep the order of their first appearance and the last value of a repeated name counts. The
readers return what they have not used; nesting is bounded by the length of the text.
-/

namespace BlockStage.Json

def isSpace (c : Char) : Bool := c == ' ' || c == '\t' || c == '\n' || c == '\r'

def skipSpace (cs : List Char) : List Char := cs.dropWhile isSpace

def unit? : List Char → Option (Nat × List Char)
  | a :: b :: c :: d :: rest => do
    let a ← Text.hexValue? a
    let b ← Text.hexValue? b
    let c ← Text.hexValue? c
    let d ← Text.hexValue? d
    some (((a * 16 + b) * 16 + c) * 16 + d, rest)
  | _ => none

def escapedUnit? (cs : List Char) : Option (Char × List Char) := do
  let (high, rest) ← unit? cs
  if 0xD800 ≤ high ∧ high < 0xDC00 then
    match rest with
    | '\\' :: 'u' :: more =>
      let (low, after) ← unit? more
      if 0xDC00 ≤ low ∧ low < 0xE000 then
        some (Char.ofNat (0x10000 + (high - 0xD800) * 0x400 + (low - 0xDC00)), after)
      else some (Char.ofNat high, rest)
    | _ => some (Char.ofNat high, rest)
  else some (Char.ofNat high, rest)

def escape? : Char → Option Char
  | '"' => some '"'
  | '\\' => some '\\'
  | '/' => some '/'
  | 'b' => some '\x08'
  | 'f' => some '\x0c'
  | 'n' => some '\n'
  | 'r' => some '\r'
  | 't' => some '\t'
  | _ => none

/-- The rest of a text after its opening quote; `done` holds the characters read, last one
first. -/
def text? : Nat → List Char → List Char → Except Fault (String × List Char)
  | 0, _, _ => .error .badJson
  | _, [], _ => .error .badJson
  | _, '"' :: rest, done => .ok (String.ofList done.reverse, rest)
  | n + 1, '\\' :: 'u' :: rest, done =>
    match escapedUnit? rest with
    | some (c, after) => text? n after (c :: done)
    | none => .error .badJson
  | n + 1, '\\' :: c :: rest, done =>
    match escape? c with
    | some e => text? n rest (e :: done)
    | none => .error .badJson
  | n + 1, c :: rest, done =>
    if c.toNat < 32 || c = '\\' then .error .badJson else text? n rest (c :: done)

def digits (cs : List Char) : List Char × List Char :=
  (cs.takeWhile Reading.isAsciiDigit, cs.dropWhile Reading.isAsciiDigit)

def fraction (cs : List Char) : List Char × List Char :=
  match cs with
  | '.' :: rest =>
    let (ds, after) := digits rest
    if ds.isEmpty then ([], cs) else ('.' :: ds, after)
  | _ => ([], cs)

def exponent (cs : List Char) : List Char × List Char :=
  match cs with
  | mark :: rest =>
    if mark = 'e' || mark = 'E' then
      let (sign, body) := match rest with
        | '+' :: more => (['+'], more)
        | '-' :: more => (['-'], more)
        | more => ([], more)
      let (ds, after) := digits body
      if ds.isEmpty then ([], cs) else (mark :: sign ++ ds, after)
    else ([], cs)
  | [] => ([], cs)

/-- A number: digits without a leading zero, a fraction and an exponent. Without the last two it is
an integer, which may be too long. -/
def number? (cs : List Char) : Except Fault (Value × List Char) :=
  let (sign, body) := match cs with
    | '-' :: rest => (['-'], rest)
    | _ => ([], cs)
  let (whole, rest) := match body with
    | '0' :: rest => (['0'], rest)
    | _ => digits body
  if whole.isEmpty then .error .badJson
  else
    let (frac, afterFrac) := fraction rest
    let (exp, after) := exponent afterFrac
    let written := String.ofList (sign ++ whole ++ frac ++ exp)
    if frac.isEmpty && exp.isEmpty then
      match Reading.int? written with
      | some n => .ok (Value.int n, after)
      | none => .error .badValue
    else
      match Reading.float? written with
      | some x => .ok (Value.float x, after)
      | none => .error .badJson

def words : List (String × Value) := [
  ("null", .null), ("true", .bool true), ("false", .bool false),
  ("NaN", Value.float Binary.notANumber), ("Infinity", Value.float Binary.infinity),
  ("-Infinity", Value.float (Binary.ofMagnitude true Binary.infinityBits))]

def word? (cs : List Char) : Option (Value × List Char) :=
  words.findSome? fun (w, v) =>
    if w.toList.isPrefixOf cs then some (v, cs.drop w.length) else none

mutual

def value? : Nat → List Char → Except Fault (Value × List Char)
  | 0, _ => .error .badJson
  | n + 1, cs =>
    match cs with
    | '"' :: rest => (text? n rest []).map fun (s, after) => (.text s, after)
    | '[' :: rest =>
      match skipSpace rest with
      | ']' :: after => .ok (.list [], after)
      | more => items? n more []
    | '\x7b' :: rest =>
      match skipSpace rest with
      | '\x7d' :: after => .ok (.record [], after)
      | more => fields? n more []
    | _ =>
      match word? cs with
      | some r => .ok r
      | none => number? cs

def items? : Nat → List Char → List Value → Except Fault (Value × List Char)
  | 0, _, _ => .error .badJson
  | n + 1, cs, done => do
    let (v, after) ← value? n cs
    match skipSpace after with
    | ',' :: rest => items? n (skipSpace rest) (v :: done)
    | ']' :: rest => .ok (.list (v :: done).reverse, rest)
    | _ => .error .badJson

def fields? : Nat → List Char → List (String × Value) → Except Fault (Value × List Char)
  | 0, _, _ => .error .badJson
  | n + 1, cs, done =>
    match cs with
    | '"' :: rest => do
      let (key, after) ← text? n rest []
      match skipSpace after with
      | ':' :: more => do
        let (v, after) ← value? n (skipSpace more)
        match skipSpace after with
        | ',' :: rest => fields? n (skipSpace rest) ((key, v) :: done)
        | '\x7d' :: rest => .ok (.record (Table.ofPairs ((key, v) :: done).reverse), rest)
        | _ => .error .badJson
      | _ => .error .badJson
    | _ => .error .badJson

end

def parse? (s : String) : Except Fault Value := do
  let cs := skipSpace s.toList
  let (v, rest) ← value? (2 * cs.length + 2) cs
  if (skipSpace rest).isEmpty then .ok v else .error .badJson

end BlockStage.Json
