import BlockStage.Expression.Conversion
import BlockStage.Json

/-!
# Values as JSON texts

A value is written on one line.
-/

namespace BlockStage.Expression.Module.Json

open Eval

def unitEscape (n : Nat) : List Char := '\\' :: 'u' :: Text.hexText 4 n

/-- A character of a quoted text. -/
def character (asciiOnly : Bool) (c : Char) : List Char :=
  match c with
  | '"' | '\\' => ['\\', c]
  | '\n' => ['\\', 'n']
  | '\r' => ['\\', 'r']
  | '\t' => ['\\', 't']
  | '\x0c' => ['\\', 'f']
  | '\x08' => ['\\', 'b']
  | c =>
    if c.toNat < 32 then unitEscape c.toNat
    else if c.toNat < 128 || !asciiOnly then [c]
    else (Text.pairUnits c).flatMap unitEscape

def quotedText (asciiOnly : Bool) (s : String) : String :=
  String.ofList ('"' :: s.toList.flatMap (character asciiOnly) ++ ['"'])

def floatText (x : Float) : String :=
  if x.isFinite then BlockStage.floatText x
  else if x.isNaN then "NaN"
  else if x < 0 then "-Infinity"
  else "Infinity"

/-- A value without parts. -/
def plain? (asciiOnly : Bool) (d : Datum) : Except Fault (Option String) :=
  match d with
  | .one .null => .ok (some "null")
  | .one (.bool b) => .ok (some (if b then "true" else "false"))
  | .one (.num (.int n)) => (intText? n).map some
  | .one (.num (.float x)) => .ok (some (floatText x))
  | .one (.text s) => .ok (some (quotedText asciiOnly s))
  | _ => .ok none

/-- The name of a field. -/
def key? (asciiOnly : Bool) (d : Datum) : Except Fault String :=
  match d with
  | .one (.text s) => .ok s
  | d => do
    let some s ← plain? asciiOnly d | throw .wrongKind
    return s

/-- Writes a value; the second argument bounds the nesting. -/
def write (asciiOnly : Bool) : Nat → Datum → Eval String
  | 0, _ => throw .badValue
  | n + 1, d => do
    let d ← open? d
    if let some s ← plain? asciiOnly d then return s
    match d with
    | .row .list items | .row .tuple items => return Datum.enclosed "[" "]" (← items.mapM (write asciiOnly n))
    | .record fields =>
      return Datum.enclosed "\x7b" "\x7d" (← fields.mapM fun (k, v) => do
        let k ← key? asciiOnly k
        return quotedText asciiOnly k ++ ": " ++ (← write asciiOnly n v))
    | _ => throw .wrongKind

def depthLimit : Nat := 1000

/-- `json.dumps` -/
def call (name : String) (a : Args) : Eval Datum := do
  match name, a.placed with
  | "dumps", [d] =>
    a.onlyNamed ["ensure_ascii"]
    let asciiOnly ← holds ((a.named.lookup "ensure_ascii").getD (.bool true))
    return .text (← write asciiOnly depthLimit d)
  | _, _ => throw .wrongKind

end BlockStage.Expression.Module.Json
