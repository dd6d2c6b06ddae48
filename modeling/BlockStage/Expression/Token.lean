import BlockStage.Text.CharName
import BlockStage.Text.Plain
import BlockStage.Text.Word
import BlockStage.Value.Basic

/-!
# Tokens

Inside brackets the ends of lines separate tokens; outside they are tokens. Whatever is no token ends the
reading, and so does a line of an expression that starts with blanks.
-/

namespace BlockStage.Expression

/-- A piece of a template. -/
inductive Piece where
  | literal (s : String)
  /-- A place that takes the value of an expression: how that is written, the text that goes before the
  value, and how the value is converted and laid out. -/
  | field (source : List Char) (echo : String) (conversion : Option Char)
      (spec : Option (List Piece))
  deriving Inhabited

/-- A token. -/
inductive Token where
  | word (s : String)
  | keyword (s : String)
  | datum (v : Value)
  | imaginary (x : Float)
  | text (s : String)
  | bytes (codes : List Nat)
  | template (pieces : List Piece)
  | mark (s : String)
  | lineEnd
  deriving Inhabited

/-- Why the reading ended. -/
inductive Ending where
  | finished
  | indented
  | broken
  deriving DecidableEq, Repr

/-- Tokens, and why they end. -/
structure Tokens where
  tokens : List Token
  ending : Ending

def Tokens.push (t : Token) (ts : Tokens) : Tokens := { ts with tokens := t :: ts.tokens }

/-! ## Words -/

/-- The words of some lines, which have a blank between any two. -/
def listed (lines : List String) : List String :=
  lines.flatMap fun s => (s.toList.splitOn ' ').map String.ofList

def constants : List (String × Value) :=
  [("None", .null), ("True", .bool true), ("False", .bool false)]

def keywords : List String := listed [
  "and as assert async await break class continue def del elif else except finally for from global if",
  "import in is lambda nonlocal not or pass raise return try while with yield"]

/-- Whether a character belongs to the word or the number before it. -/
def continues (c : Char) : Bool := c.isAlphanum || c == '_' || 128 ≤ c.toNat

/-- The token that a word is. One with letters of another style is the plain word. -/
def wordToken? (cs : List Char) : Option Token :=
  let s := String.ofList cs
  if !Text.isWord cs then none
  else if cs.any fun c => 128 ≤ c.toNat then some (.word (String.ofList (cs.flatMap Text.plain)))
  else
    match constants.lookup s with
    | some v => some (.datum v)
    | none => some (if keywords.contains s then .keyword s else .word s)

/-! ## Numbers -/

/-- The digits at the front without the single underscores between them, and the rest. -/
def digits? (isDigit : Char → Bool) : List Char → Option (List Char × List Char)
  | '_' :: c :: rest =>
    if isDigit c then (digits? isDigit rest).map fun (ds, after) => (c :: ds, after) else none
  | c :: rest =>
    if isDigit c then (digits? isDigit rest).map fun (ds, after) => (c :: ds, after)
    else if c = '_' then none
    else some ([], c :: rest)
  | [] => some ([], [])

/-- The base of `0x`, `0o` or `0b`. -/
def base? : Char → Option Nat
  | 'x' | 'X' => some 16
  | 'o' | 'O' => some 8
  | 'b' | 'B' => some 2
  | _ => none

def isDigitOf (base : Nat) (c : Char) : Bool :=
  (Text.hexValue? c).any (· < base)

def valueIn (base : Nat) (cs : List Char) : Nat :=
  cs.foldl (fun n c => n * base + (Text.hexValue? c).getD 0) 0

def gluedWords : List String := ["and", "else", "for", "if", "in", "is", "not", "or"]

/-- What may follow a number. -/
def endsNumber (cs : List Char) : Bool :=
  match cs with
  | [] => true
  | c :: _ => !continues c || gluedWords.any fun w => w.toList.isPrefixOf cs

/-- An exponent, and the rest. A mark without digits that starts a keyword is no exponent. -/
def exponentPart? (cs : List Char) : Option (List Char × List Char) :=
  match cs with
  | mark :: rest =>
    if mark = 'e' || mark = 'E' then
      let sign := (rest.take 1).filter fun c => c = '+' || c = '-'
      let body := rest.drop sign.length
      if body.head?.any Reading.isAsciiDigit then
        (digits? Reading.isAsciiDigit body).map fun (ds, after) => ('e' :: sign ++ ds, after)
      else if sign.isEmpty && endsNumber cs then some ([], cs)
      else none
    else some ([], cs)
  | [] => some ([], [])

/-- A point with digits, and the rest. -/
def fractionPart? (cs : List Char) : Option (List Char × List Char) :=
  match cs with
  | '.' :: rest =>
    if rest.head?.any Reading.isAsciiDigit then
      (digits? Reading.isAsciiDigit rest).map fun (ds, after) => ('.' :: ds, after)
    else some (['.'], rest)
  | _ => some ([], cs)

def wholeToken? (ds : List Char) : Option Token :=
  if ds.head? = some '0' && ds.any (· != '0') || digitLimit < ds.length then none
  else some (.datum (Value.int (Reading.digitsValue ds)))

def decimalToken? (cs : List Char) : Option (Token × List Char) := do
  let (whole, rest) ← digits? Reading.isAsciiDigit cs
  let (fraction, rest) ← fractionPart? rest
  let (exponent, rest) ← exponentPart? rest
  let written := String.ofList (whole ++ fraction ++ exponent)
  let (t, rest) ← match rest with
    | 'j' :: after | 'J' :: after =>
      (Reading.float? written).map fun x => (.imaginary x, after)
    | rest =>
      if fraction.isEmpty && exponent.isEmpty then (wholeToken? whole).map (·, rest)
      else (Reading.float? written).map fun x => (.datum (Value.float x), rest)
  if endsNumber rest then some (t, rest) else none

/-- A number. -/
def numberToken? (cs : List Char) : Option (Token × List Char) :=
  match cs with
  | '0' :: letter :: body =>
    match base? letter with
    | some base => do
      let (ds, rest) ← digits? (isDigitOf base) body
      if ds.isEmpty || !endsNumber rest then none
      else some (.datum (Value.int (valueIn base ds)), rest)
    | none => decimalToken? cs
  | _ => decimalToken? cs

/-! ## Quotes and escapes -/

/-- The characters up to the closing quote, and the rest. Only a text in tripled quotes goes beyond its line. -/
def untilQuote? (quote : Char) (tripled : Bool) : List Char → Option (List Char × List Char)
  | '\\' :: c :: rest =>
    (untilQuote? quote tripled rest).map fun (s, after) => ('\\' :: c :: s, after)
  | c :: rest =>
    if c = quote && !tripled then some ([], rest)
    else if c = quote && [quote, quote].isPrefixOf rest then some ([], rest.drop 2)
    else if c = '\n' && !tripled then none
    else (untilQuote? quote tripled rest).map fun (s, after) => (c :: s, after)
  | [] => none

/-- A number of hexadecimal digits. -/
def hexDigits? : Nat → Nat → List Char → Option (Nat × List Char)
  | 0, n, cs => some (n, cs)
  | count + 1, n, c :: rest => (Text.hexValue? c).bind fun d => hexDigits? count (n * 16 + d) rest
  | _, _, [] => none

def octalDigits : Nat → Nat → List Char → Nat × List Char
  | count + 1, n, c :: rest =>
    if isDigitOf 8 c then octalDigits count (n * 8 + (c.toNat - 48)) rest else (n, c :: rest)
  | _, n, cs => (n, cs)

/-- What a letter after a backslash stands for. -/
def escape? : Char → Option Char
  | '\\' => some '\\'
  | '\'' => some '\''
  | '"' => some '"'
  | 'a' => some '\x07'
  | 'b' => some '\x08'
  | 'f' => some '\x0c'
  | 'n' => some '\n'
  | 'r' => some '\r'
  | 't' => some '\t'
  | 'v' => some '\x0b'
  | _ => none

/-- How many digits a code has. -/
def codeWidth? : Char → Option Nat
  | 'x' => some 2
  | 'u' => some 4
  | 'U' => some 8
  | _ => none

def braced? (cs : List Char) : Option (List Char × List Char) :=
  match cs with
  | '\x7b' :: rest =>
    let name := rest.takeWhile (· != '\x7d')
    if name.length < rest.length then some (name, rest.drop (name.length + 1)) else none
  | _ => none

/-- Replaces escapes, given what one stands for with what follows, and what is left then. -/
def unescapeBy? (escaped : Char → List Char → Option (List Char × List Char)) :
    Nat → List Char → Option (List Char)
  | _, [] => some []
  | 0, _ => none
  | n + 1, '\\' :: c :: rest => do
    let (cs, after) ← escaped c rest
    (unescapeBy? escaped n after).map (cs ++ ·)
  | n + 1, c :: rest => (unescapeBy? escaped n rest).map (c :: ·)

def coded? (width : Nat) (rest : List Char) : Option (List Char × List Char) := do
  let (code, after) ← hexDigits? width 0 rest
  if 0x110000 ≤ code then none else some ([Char.ofNat code], after)

/-- The escapes that texts and bytes have in common. A backslash before the end of a line joins the lines. -/
def commonEscape (c : Char) (rest : List Char) : List Char × List Char :=
  match escape? c with
  | some e => ([e], rest)
  | none =>
    if c = '\n' then ([], rest)
    else if isDigitOf 8 c then
      let (code, after) := octalDigits 3 0 (c :: rest)
      ([Char.ofNat code], after)
    else (['\\', c], rest)

/-- The text without its escapes. -/
def unescape? : Nat → List Char → Option (List Char) :=
  unescapeBy? fun c rest =>
    match codeWidth? c with
    | some width => coded? width rest
    | none =>
      if c = 'N' then do
        let (name, after) ← braced? rest
        return ([← Text.charNamed? name], after)
      else some (commonEscape c rest)

/-- The bytes without escapes. -/
def unescapeBytes? (n : Nat) (cs : List Char) : Option (List Nat) :=
  (unescapeBy? (fun c rest => if c = 'x' then coded? 2 rest else some (commonEscape c rest)) n cs).map
    fun cs => cs.map (·.toNat % 256)

/-! ## Templates -/

/-- The characters of a template up to the next field. A doubled brace stands for one, but not within a layout. -/
def literalRun? (raw : Bool) (level : Nat) : Nat → List Char → Option (List Char × List Char)
  | 0, _ => none
  | _, [] => some ([], [])
  | n + 1, c :: rest =>
    let keep (taken after : List Char) : Option (List Char × List Char) :=
      (literalRun? raw level n after).map fun (cs, after) => (taken ++ cs, after)
    if c = '\x7b' || c = '\x7d' then
      if level = 0 && rest.head? = some c then keep [c] rest.tail
      else if level = 0 && c = '\x7d' then none
      else some ([], c :: rest)
    else if c = '\\' && !raw then
      match rest with
      | 'N' :: '\x7b' :: more =>
        let name := more.takeWhile (· != '\x7d')
        keep ('\\' :: 'N' :: '\x7b' :: more.take (name.length + 1)) (more.drop (name.length + 1))
      | d :: more => if d = '\x7b' || d = '\x7d' then keep ['\\'] rest else keep ['\\', d] more
      | [] => some (['\\'], [])
    else keep [c] rest

def opening? : Char → Option Char
  | ')' => some '('
  | ']' => some '['
  | '\x7d' => some '\x7b'
  | _ => none

def endsField (c : Char) : Bool := c == '!' || c == ':' || c == '\x7d' || c == '='

/-- The expression of a field, and the rest; given the quote that is open, whether it is tripled, and the
brackets that are open. -/
def fieldSource? : Nat → Option (Char × Bool) → List Char → List Char →
    Option (List Char × List Char)
  | 0, _, _, _ => none
  | _, _, _, [] => none
  | n + 1, quote, opened, c :: rest =>
    let keep (count : Nat) (quote : Option (Char × Bool)) (opened : List Char) :
        Option (List Char × List Char) :=
      (fieldSource? n quote opened (rest.drop (count - 1))).map fun (cs, after) =>
        ((c :: rest).take count ++ cs, after)
    let tripled := [c, c].isPrefixOf rest
    if c = '\\' then none
    else
      match quote with
      | some (q, true) => if c = q && tripled then keep 3 none opened else keep 1 quote opened
      | some (q, false) => keep 1 (if c = q then none else quote) opened
      | none =>
        if c = '"' || c = '\'' then
          if tripled then keep 3 (some (c, true)) opened else keep 1 (some (c, false)) opened
        else if c = '(' || c = '[' || c = '\x7b' then keep 1 none (c :: opened)
        else if c = '#' then none
        else if opened.isEmpty && "!=<>".toList.contains c && rest.head? = some '=' then
          keep 2 none opened
        else if opened.isEmpty && endsField c then some ([], c :: rest)
        else
          match opening? c with
          | some o => if opened.head? = some o then keep 1 none opened.tail else none
          | none => keep 1 none opened

def isFieldBlank (c : Char) : Bool :=
  c == ' ' || c == '\t' || c == '\n' || c == '\r' || c == '\x0c' || c == '\x0b'

def echoSign (cs : List Char) : List Char × List Char :=
  match cs with
  | '=' :: rest => ('=' :: rest.takeWhile isFieldBlank, rest.dropWhile isFieldBlank)
  | cs => ([], cs)

/-- A conversion `!s`, `!r` or `!a`. -/
def conversion? (cs : List Char) : Option (Option Char × List Char) :=
  match cs with
  | '!' :: c :: rest => if c = 's' || c = 'r' || c = 'a' then some (some c, rest) else none
  | '!' :: [] => none
  | cs => some (none, cs)

mutual

/-- The pieces of a template. -/
def pieces? (raw : Bool) (level : Nat) : Nat → List Char → Option (List Piece × List Char)
  | 0, _ => none
  | n + 1, cs => do
    let (literal, rest) ← literalRun? raw level (cs.length + 1) cs
    let literal ← if raw then some literal else unescape? literal.length literal
    let front := if literal.isEmpty then [] else [Piece.literal (String.ofList literal)]
    match rest with
    | '\x7b' :: rest =>
      let (field, rest) ← field? raw level n rest
      (pieces? raw level n rest).map fun (more, rest) => (front ++ field :: more, rest)
    | rest => some (front, rest)

/-- A field of a template. -/
def field? (raw : Bool) (level : Nat) : Nat → List Char → Option (Piece × List Char)
  | 0, _ => none
  | n + 1, cs => do
    if 2 ≤ level then none
    let (source, rest) ← fieldSource? (cs.length + 1) none [] cs
    let (sign, rest) := echoSign rest
    let (conversion, rest) ← conversion? rest
    let (spec, rest) ← match rest with
      | ':' :: rest => (pieces? raw (level + 1) n rest).map fun (spec, rest) => (some spec, rest)
      | rest => some (none, rest)
    let echo := if sign.isEmpty then "" else String.ofList (source ++ sign)
    match rest with
    | '\x7d' :: rest => some (.field source echo conversion spec, rest)
    | _ => none

end

/-! ## Quoted texts -/

def quoteLetters : List String := ["", "u", "r", "b", "br", "rb", "f", "fr", "rf"]

/-- A quoted text. In one with `r` backslashes stand for themselves, one with `b` holds bytes, and one with `f`
is a template. -/
def quotedToken? (letters : List Char) (cs : List Char) : Option (Token × List Char) :=
  match cs with
  | [] => none
  | quote :: rest => do
    let tripled := [quote, quote].isPrefixOf rest
    let (body, after) ← untilQuote? quote tripled (if tripled then rest.drop 2 else rest)
    let raw := letters.contains 'r'
    if letters.contains 'b' then
      if body.any fun c => 128 ≤ c.toNat then none
      else if raw then some (.bytes (body.map Char.toNat), after)
      else (unescapeBytes? body.length body).map fun codes => (.bytes codes, after)
    else if letters.contains 'f' then
      (pieces? raw 0 (2 * body.length + 2) body).map fun (pieces, _) => (.template pieces, after)
    else
      let plain ← if raw then some body else unescape? body.length body
      some (.text (String.ofList plain), after)

/-! ## Marks -/

def marks : List String := [
  "**=", "//=", "<<=", ">>=", "...", "!=", "->", ":=", "**", "//", "<<", ">>", "<=", ">=", "==", "<>",
  "+=", "-=", "*=", "/=", "%=", "@=", "&=", "|=", "^=", "(", ")", "[", "]", "\x7b", "\x7d", ",", ":",
  ".", ";", "=", "+", "-", "*", "/", "%", "@", "&", "|", "^", "~", "<", ">"]

/-- A mark. -/
def markToken? (cs : List Char) : Option (Token × List Char) :=
  (marks.find? fun m => m.toList.isPrefixOf cs).map fun m => (.mark m, cs.drop m.length)

def isQuote (c : Char) : Bool := c == '"' || c == '\''

/-- The token at the front. -/
def token? (cs : List Char) : Option (Token × List Char) :=
  match cs with
  | [] => none
  | c :: rest =>
    if isQuote c then quotedToken? [] cs
    else if c.isDigit || c = '.' && rest.head?.any Char.isDigit then numberToken? cs
    else if continues c then
      let w := cs.takeWhile continues
      let after := cs.dropWhile continues
      let letters := w.map Char.toLower
      if after.head?.any isQuote && quoteLetters.contains (String.ofList letters) then
        quotedToken? letters after
      else (wordToken? w).map (·, after)
    else markToken? cs

/-! ## Brackets and lines -/

def closing? : String → Option String
  | "(" => some ")"
  | "[" => some "]"
  | "\x7b" => some "\x7d"
  | _ => none

def isClosing (s : String) : Bool := s == ")" || s == "]" || s == "\x7d"

def nestingLimit : Nat := 200

/-- The brackets that are open after a token. -/
def nest? (awaited : List String) : Token → Option (List String)
  | .mark s =>
    match closing? s with
    | some close => if awaited.length < nestingLimit then some (close :: awaited) else none
    | none =>
      if isClosing s then if awaited.head? = some s then some awaited.tail else none
      else some awaited
  | _ => some awaited

/-- The column at which a line starts, and the line from there on. A tab goes to the next multiple of eight, and
a backslash at the end of the line holds the column. -/
def margin? : Nat → Nat → List Char → Option (Nat × List Char)
  | col, held, ' ' :: rest => margin? (col + 1) held rest
  | col, held, '\t' :: rest => margin? ((col / 8 + 1) * 8) held rest
  | _, held, '\x0c' :: rest => margin? 0 held rest
  | col, held, '\\' :: '\n' :: rest =>
    if rest.isEmpty then none else margin? col (if held = 0 then col else held) rest
  | col, held, cs =>
    if cs.head? = some '\\' then none else some (if held = 0 then col else held, cs)

def isBlank (c : Char) : Bool := c == ' ' || c == '\t' || c == '\x0c'

/-- The tokens of some characters with brackets open; the first argument bounds the steps. -/
def scan : Nat → List String → Bool → List Char → Tokens
  | 0, _, _, _ => ⟨[], .broken⟩
  | n + 1, awaited, true, cs =>
    match margin? 0 0 cs with
    | none => ⟨[], .broken⟩
    | some (col, line) =>
      if line.head? = some '#' || line.head? = some '\n' then
        match line.dropWhile (· != '\n') with
        | [] => ⟨[], .finished⟩
        | _ :: rest => scan n awaited true rest
      else if 0 < col then ⟨[], .indented⟩
      else scan n awaited false line
  | _ + 1, awaited, false, [] => ⟨[], if awaited.isEmpty then .finished else .broken⟩
  | n + 1, awaited, false, '\n' :: rest =>
    if awaited.isEmpty then (scan n awaited true rest).push .lineEnd else scan n awaited false rest
  | n + 1, awaited, false, '\\' :: '\n' :: rest =>
    if rest.isEmpty then ⟨[], .broken⟩ else scan n awaited false rest
  | n + 1, awaited, false, c :: rest =>
    if isBlank c then scan n awaited false rest
    else if c = '#' then scan n awaited false (rest.dropWhile (· != '\n'))
    else
      match token? (c :: rest) with
      | none => ⟨[], .broken⟩
      | some (t, after) =>
        match nest? awaited t with
        | none => ⟨[], .broken⟩
        | some awaited => (scan n awaited false after).push t

/-- All ends of lines as one. -/
def unifyLines : List Char → List Char
  | '\r' :: '\n' :: rest => '\n' :: unifyLines rest
  | c :: rest => (if c = '\r' then '\n' else c) :: unifyLines rest
  | [] => []

def Tokens.ofChars (cs : List Char) : Tokens :=
  let cs := unifyLines cs
  if cs.contains '\x00' then ⟨[], .broken⟩ else scan (2 * cs.length + 2) [] true cs

/-- The tokens of an expression. -/
def Tokens.ofText (s : String) : Tokens :=
  ofChars (s.toList.dropWhile fun c => c == ' ' || c == '\t')

/-- The tokens of statements. -/
def Tokens.ofProgram (s : String) : Tokens :=
  ofChars (s.toList.reverse.dropWhile fun c => c == ' ' || c == '\t').reverse

end BlockStage.Expression
