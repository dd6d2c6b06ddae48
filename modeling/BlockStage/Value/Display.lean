import BlockStage.Text.Printable
import BlockStage.Value.Basic

/-!
# Values as text

A text shows as itself, and inside a list or a record it is quoted.
-/

namespace BlockStage

namespace Text

/-- A number in hexadecimal digits. -/
def hex (width n : Nat) : List Char :=
  let cs := Nat.toDigits 16 n
  List.replicate (width - cs.length) '0' ++ cs

/-- A character of a quoted text. -/
def quoteChar (quote c : Char) : List Char :=
  if c = quote || c = '\\' then ['\\', c]
  else if c = '\n' then ['\\', 'n']
  else if c = '\r' then ['\\', 'r']
  else if c = '\t' then ['\\', 't']
  else if isPrintable c then [c]
  else if c.toNat < 0x100 then ['\\', 'x'] ++ hex 2 c.toNat
  else if c.toNat < 0x10000 then ['\\', 'u'] ++ hex 4 c.toNat
  else ['\\', 'U'] ++ hex 8 c.toNat

/-- `repr` of a text. Quotes are single unless the text holds single quotes and no double ones. -/
def quoted (s : String) : String :=
  let cs := s.toList
  let quote := if cs.contains '\'' && !cs.contains '"' then '"' else '\''
  String.ofList (quote :: cs.flatMap (quoteChar quote) ++ [quote])

end Text

namespace Value

mutual

/-- `repr(v)` -/
def quoted? : Value → Except Fault String
  | .null => .ok "None"
  | .bool b => .ok (if b then "True" else "False")
  | .num n => n.text?
  | .text s => .ok (Text.quoted s)
  | .list items => do
    let parts ← quotedItems? items
    .ok ("[" ++ ", ".intercalate parts ++ "]")
  | .record fields => do
    let parts ← quotedFields? fields
    .ok ("\x7b" ++ ", ".intercalate parts ++ "\x7d")
  | .place x y => do
    let a ← display? x
    let b ← display? y
    .ok ("POSITION(" ++ a ++ "," ++ b ++ ")")
  | .object _ shown _ => .ok shown
  | .shared | .absent => .ok ""

/-- `str(v)` -/
def display? : Value → Except Fault String
  | .text s => .ok s
  | .null => .ok "None"
  | .bool b => .ok (if b then "True" else "False")
  | .num n => n.text?
  | .list items => do
    let parts ← quotedItems? items
    .ok ("[" ++ ", ".intercalate parts ++ "]")
  | .record fields => do
    let parts ← quotedFields? fields
    .ok ("\x7b" ++ ", ".intercalate parts ++ "\x7d")
  | .place x y => do
    let a ← display? x
    let b ← display? y
    .ok ("POSITION(" ++ a ++ "," ++ b ++ ")")
  | .object _ shown _ => .ok shown
  | .shared | .absent => .ok ""

def quotedItems? : List Value → Except Fault (List String)
  | [] => .ok []
  | v :: rest => do
    let a ← quoted? v
    let more ← quotedItems? rest
    .ok (a :: more)

def quotedFields? : List (String × Value) → Except Fault (List String)
  | [] => .ok []
  | (k, v) :: rest => do
    let a ← quoted? v
    let more ← quotedFields? rest
    .ok ((Text.quoted k ++ ": " ++ a) :: more)

end

end Value

end BlockStage
