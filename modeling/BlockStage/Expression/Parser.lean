import BlockStage.Expression.Basic

/-!
# Reading expressions

Each function hands back the tokens that are left.
-/

namespace BlockStage.Expression

/-! ## Operators -/

/-- How tightly operators bind. -/
def notPower : Nat := 3

def relationPower : Nat := 4

def spreadPower : Nat := 5

def signPower : Nat := 11

/-- The power of an operator, and that with which its right operand is read. -/
def power? : String → Option (Nat × Nat)
  | "|" => some (5, 6)
  | "^" => some (6, 7)
  | "&" => some (7, 8)
  | "<<" | ">>" => some (8, 9)
  | "+" | "-" => some (9, 10)
  | "*" | "/" | "//" | "%" | "@" => some (10, 11)
  | "**" => some (12, 11)
  | _ => none

/-- A comparison by its mark. -/
def relation? : String → Option Relation
  | "==" => some .eq
  | "!=" => some .ne
  | "<" => some .lt
  | "<=" => some .le
  | ">" => some .gt
  | ">=" => some .ge
  | _ => none

def takeRelation? : List Token → Option (Relation × List Token)
  | .mark s :: rest => (relation? s).map (·, rest)
  | .keyword "in" :: rest => some (.within, rest)
  | .keyword "not" :: .keyword "in" :: rest => some (.notWithin, rest)
  | .keyword "is" :: .keyword "not" :: rest => some (.notIdentical, rest)
  | .keyword "is" :: rest => some (.identical, rest)
  | _ => none

/-! ## Tokens -/

/-- Takes a mark. -/
def expect? (s : String) : List Token → Option (List Token)
  | .mark t :: rest => if t = s then some rest else none
  | _ => none

def startsWith (s : String) (ts : List Token) : Bool := (expect? s ts).isSome

/-- Takes a keyword. -/
def expectWord? (s : String) : List Token → Option (List Token)
  | .keyword t :: rest => if t = s then some rest else none
  | _ => none

def startsWalk (ts : List Token) : Bool := (expectWord? "for" ts).isSome

/-- A name before `:=`. -/
def takeBinding? : List Token → Option (String × List Token)
  | .word s :: .mark ":=" :: rest => some (s, rest)
  | _ => none

/-- The names that tokens give values. -/
def boundNames : List Token → List String
  | .word s :: .mark ":=" :: rest => s :: boundNames rest
  | _ :: rest => boundNames rest
  | [] => []

/-- Whether a function hands out items. -/
def handsOut (ts : List Token) : Bool := ts.any (· matches .keyword "yield")

def readTokens (ts rest : List Token) : List Token := ts.take (ts.length - rest.length)

def isSpread (e : Expr) : Bool := e matches .spread _

def isQuoted (t : Token) : Bool := t matches .text _ | .template _ | .bytes _

def isBytes (t : Token) : Bool := t matches .bytes _

def isTemplate (t : Token) : Bool := t matches .template _

def isLineEnd (t : Token) : Bool := t matches .lineEnd

mutual

/-- An expression as a target. -/
def Expr.target? : Expr → Option Target
  | .name s => some (.name s)
  | .part e index => some (.part e index)
  | .member e s => some (.member e s)
  | .row .list items | .row .tuple items => (Expr.targets? items).map .several
  | _ => none

def Expr.targets? : List Expr → Option (List Target)
  | [] => some []
  | e :: rest => do
    let t ← Expr.target? e
    return t :: (← Expr.targets? rest)

end

/-- What is made of something that was read. -/
def reads {α β : Type} (f : α → β) (found : Option (α × List Token)) : Option (β × List Token) :=
  found.map fun (a, ts) => (f a, ts)

/-! ## Parameters of functions -/

/-- No two parameters have one name, and of those that get their arguments by place none without a default
stands after one with a default. -/
def fitTogether (parameters : List Parameter) : Bool :=
  let names := parameters.map Parameter.name
  let byPlace := parameters.filter fun p => p.kind = .plain
  let later := byPlace.dropWhile fun p => p.default.isNone
  decide names.Nodup && later.all fun p => p.default.isSome

/-! ## Expressions

The first argument of each function bounds the steps. -/

mutual

/-- An expression of a power at least. -/
def expr? : Nat → Nat → List Token → Option (Expr × List Token)
  | 0, _, _ => none
  | n + 1, p, ts =>
    match expectWord? "lambda" ts with
    | some ts => if p = 0 then function? n ts else none
    | none => do
      let (e, ts) ← operand? n p ts
      operators? n p e ts

/-- An expression, or `name := value`. -/
def named? : Nat → List Token → Option (Expr × List Token)
  | 0, _ => none
  | n + 1, ts =>
    match takeBinding? ts with
    | some (s, ts) => reads (.bound s) (expr? n 0 ts)
    | none => expr? n 0 ts

/-- An operand, with what stands before it. -/
def operand? : Nat → Nat → List Token → Option (Expr × List Token)
  | 0, _, _ => none
  | n + 1, p, .keyword "not" :: ts =>
    if p ≤ notPower then reads .negation (expr? n notPower ts) else none
  | n + 1, _, .mark s :: ts =>
    if s = "+" || s = "-" || s = "~" then
      reads (.signed s) (expr? n signPower ts)
    else do
      let (e, ts) ← bracketed? n s ts
      trailers? n e ts
  | n + 1, _, ts => do
    let (e, ts) ← atom? n ts
    trailers? n e ts

/-- The operators after an operand. -/
def operators? : Nat → Nat → Expr → List Token → Option (Expr × List Token)
  | 0, _, _, _ => none
  | n + 1, p, e, ts =>
    match takeRelation? ts with
    | some _ =>
      if p ≤ relationPower then do
        let (rest, ts) ← relations? n ts
        operators? n p (.comparison e rest) ts
      else some (e, ts)
    | none =>
      match ts with
      | .keyword "if" :: rest =>
        if p = 0 then do
          let (condition, rest) ← expr? n 1 rest
          let rest ← expectWord? "else" rest
          reads (.choice condition e) (expr? n 0 rest)
        else some (e, ts)
      | .keyword "or" :: rest =>
        if p ≤ 1 then do
          let (b, rest) ← expr? n 2 rest
          operators? n p (.disjunction e b) rest
        else some (e, ts)
      | .keyword "and" :: rest =>
        if p ≤ 2 then do
          let (b, rest) ← expr? n 3 rest
          operators? n p (.conjunction e b) rest
        else some (e, ts)
      | .mark s :: rest =>
        match power? s with
        | some (left, right) =>
          if p ≤ left then do
            let (b, rest) ← expr? n right rest
            operators? n p (.binary s e b) rest
          else some (e, ts)
        | none => some (e, ts)
      | ts => some (e, ts)

/-- A chain of comparisons. -/
def relations? : Nat → List Token → Option (List (Relation × Expr) × List Token)
  | 0, _ => none
  | n + 1, ts =>
    match takeRelation? ts with
    | none => some ([], ts)
    | some (r, ts) => do
      let (e, ts) ← expr? n (relationPower + 1) ts
      reads ((r, e) :: ·) (relations? n ts)

/-- What stands in brackets. -/
def bracketed? : Nat → String → List Token → Option (Expr × List Token)
  | 0, _, _ => none
  | n + 1, "[", ts =>
    match expect? "]" ts with
    | some ts => some (.row .list [], ts)
    | none => do
      let (e, rest) ← item? n ts
      if startsWalk rest then
        let (clauses, rest) ← walk? n "]" e ts rest
        return (.gathered (some .list) e clauses, rest)
      else (more? n "]" e rest).map fun (items, _, ts) => (.row .list items, ts)
  | n + 1, "(", .keyword "yield" :: ts => do
    let (e, ts) ← given? n ts
    (expect? ")" ts).map (e, ·)
  | n + 1, "(", ts =>
    match expect? ")" ts with
    | some ts => some (.row .tuple [], ts)
    | none => do
      let (e, rest) ← item? n ts
      if startsWalk rest then
        let (clauses, rest) ← walk? n ")" e ts rest
        return (.gathered none e clauses, rest)
      else
        let (items, comma, ts) ← more? n ")" e rest
        if comma then some (.row .tuple items, ts)
        else if isSpread e then none
        else some (e, ts)
  | n + 1, "\x7b", ts =>
    match expect? "\x7d" ts with
    | some ts => some (.record [], ts)
    | none =>
      if startsWith "**" ts then do
        let (field, ts) ← recordField? n ts
        reads .record (moreFields? n field ts)
      else do
        let (e, rest) ← item? n ts
        if startsWith ":" rest && (takeBinding? ts).isNone && !isSpread e then
          let (value, rest) ← expr? n 0 (rest.drop 1)
          if startsWalk rest then
            let (clauses, rest) ← walk? n "\x7d" value ts rest
            return (.gatheredRecord e value clauses, rest)
          else reads .record (moreFields? n (.pair e value) rest)
        else none
  | _ + 1, "...", ts => some (.datum (.object "ellipsis" "Ellipsis" 0), ts)
  | _, _, _ => none

def given? : Nat → List Token → Option (Expr × List Token)
  | 0, _ => none
  | n + 1, ts =>
    match ts with
    | [] | .lineEnd :: _ | .mark ")" :: _ | .mark ";" :: _ | .mark "=" :: _ => some (.given none, ts)
    | ts => reads (.given ∘ some) (exprs? n ts)

/-- Expressions with commas between them. -/
def exprs? : Nat → List Token → Option (Expr × List Token)
  | 0, _ => none
  | n + 1, ts => do
    let (items, comma, ts) ← exprList? n ts
    match items, comma with
    | [.spread _], false => none
    | [e], false => some (e, ts)
    | items, _ => some (.row .tuple items, ts)

def exprList? : Nat → List Token → Option (List Expr × Bool × List Token)
  | 0, _ => none
  | n + 1, ts => do
    let (e, ts) ← item? n ts
    match expect? "," ts with
    | none => some ([e], false, ts)
    | some ts =>
      match ts with
      | [] | .lineEnd :: _ | .mark ")" :: _ | .mark ";" :: _ | .mark "=" :: _ | .mark ":" :: _ =>
        some ([e], true, ts)
      | ts => (exprList? n ts).map fun (items, _, ts) => (e :: items, true, ts)

/-- A name, a literal or brackets. -/
def atom? : Nat → List Token → Option (Expr × List Token)
  | 0, _ => none
  | _ + 1, .word s :: ts => some (.name s, ts)
  | _ + 1, .datum v :: ts => some (.datum v, ts)
  | _ + 1, .imaginary x :: ts => some (.imaginary x, ts)
  | n + 1, ts =>
    let quoted := ts.takeWhile isQuoted
    let rest := ts.dropWhile isQuoted
    if quoted.isEmpty then none
    else if quoted.all isBytes then
      some (.bytes (quoted.flatMap fun t =>
        match t with
        | .bytes codes => codes
        | _ => []), rest)
    else if quoted.any isBytes then none
    else if quoted.any isTemplate then do
      let parts ← quoted.mapM fun t =>
        match t with
        | .template pieces => parts? n pieces
        | .text s => some [.literal s]
        | _ => none
      return (.template parts.flatten, rest)
    else
      some (.datum (.text (String.join (quoted.map fun t =>
        match t with
        | .text s => s
        | _ => ""))), rest)

/-- The pieces of a template. -/
def parts? : Nat → List Piece → Option (List Part)
  | 0, _ => none
  | _ + 1, [] => some []
  | n + 1, .literal s :: rest => (parts? n rest).map (.literal s :: ·)
  | n + 1, .field source echo conversion spec :: rest => do
    if source.all isFieldBlank then none
    let ts := Tokens.ofText (String.ofList ('(' :: source ++ [')']))
    if ts.ending ≠ .finished then none
    let (e, left) ← expr? n 0 ts.tokens
    if !left.all isLineEnd then none
    let spec ← match spec with
      | none => some none
      | some pieces => (parts? n pieces).map some
    (parts? n rest).map (.field e echo conversion spec :: ·)

def item? : Nat → List Token → Option (Expr × List Token)
  | 0, _ => none
  | n + 1, ts =>
    match expect? "*" ts with
    | some ts => reads .spread (expr? n spreadPower ts)
    | none => named? n ts

def more? : Nat → String → Expr → List Token → Option (List Expr × Bool × List Token)
  | 0, _, _, _ => none
  | n + 1, close, e, ts =>
    match expect? "," ts with
    | none => (expect? close ts).map fun ts => ([e], false, ts)
    | some ts =>
      match expect? close ts with
      | some ts => some ([e], true, ts)
      | none => do
        let (next, ts) ← item? n ts
        (more? n close next ts).map fun (items, _, ts) => (e :: items, true, ts)

/-- The clauses of a walk up to the closing bracket, given what it gathers, the tokens from that on and those
from the clauses on. A name of the walk cannot be given to another value. -/
def walk? : Nat → String → Expr → List Token → List Token → Option (List Clause × List Token)
  | 0, _, _, _, _ => none
  | n + 1, close, e, start, ts => do
    if isSpread e then none
    let (clauses, rest) ← clauses? n ts
    let names := Clause.names clauses
    if (boundNames (readTokens start rest)).any names.contains then none
    (expect? close rest).map (clauses, ·)

/-- The clauses of a walk. No name can be given to a value in what it goes through. -/
def clauses? : Nat → List Token → Option (List Clause × List Token)
  | 0, _ => none
  | n + 1, ts =>
    match expectWord? "for" ts, expectWord? "if" ts with
    | some ts, _ => do
      let (target, ts) ← targets? n ts
      let ts ← expectWord? "in" ts
      let (source, rest) ← expr? n 1 ts
      if !(boundNames (readTokens ts rest)).isEmpty then none
      reads (.each target source :: ·) (clauses? n rest)
    | none, some ts => do
      let (condition, ts) ← expr? n 1 ts
      reads (.only condition :: ·) (clauses? n ts)
    | none, none => some ([], ts)

/-- Targets with commas between them. -/
def targets? : Nat → List Token → Option (Target × List Token)
  | 0, _ => none
  | n + 1, ts => do
    let (targets, comma, ts) ← targetList? n ts
    match targets, comma with
    | [], _ => none
    | [t], false => some (t, ts)
    | targets, _ => some (.several targets, ts)

def targetList? : Nat → List Token → Option (List Target × Bool × List Token)
  | 0, _ => none
  | n + 1, ts =>
    match target? n ts with
    | none => some ([], true, ts)
    | some (t, ts) =>
      match expect? "," ts with
      | none => some ([t], false, ts)
      | some ts => (targetList? n ts).map fun (targets, _, ts) => (t :: targets, true, ts)

def target? : Nat → List Token → Option (Target × List Token)
  | 0, _ => none
  | n + 1, .word s :: ts => do
    let (e, ts) ← trailers? n (.name s) ts
    (e.target?).map (·, ts)
  | _ + 1, .mark "(" :: .mark ")" :: ts => some (.several [], ts)
  | n + 1, .mark "(" :: ts => do
    let (t, ts) ← targets? n ts
    (expect? ")" ts).map (t, ·)
  | n + 1, .mark "[" :: ts => do
    let (targets, _, ts) ← targetList? n ts
    (expect? "]" ts).map (.several targets, ·)
  | _, _ => none

def recordField? : Nat → List Token → Option (Field × List Token)
  | 0, _ => none
  | n + 1, ts =>
    match expect? "**" ts with
    | some ts => reads .spread (expr? n spreadPower ts)
    | none => do
      let (key, ts) ← expr? n 0 ts
      let ts ← expect? ":" ts
      reads (.pair key) (expr? n 0 ts)

def moreFields? : Nat → Field → List Token → Option (List Field × List Token)
  | 0, _, _ => none
  | n + 1, field, ts =>
    match expect? "," ts with
    | none => (expect? "\x7d" ts).map ([field], ·)
    | some ts =>
      if startsWith "\x7d" ts then some ([field], ts.drop 1)
      else do
        let (next, ts) ← recordField? n ts
        reads (field :: ·) (moreFields? n next ts)

/-- Calls, indices and members. -/
def trailers? : Nat → Expr → List Token → Option (Expr × List Token)
  | 0, _, _ => none
  | n + 1, e, .mark s :: ts =>
    match s, ts with
    | ".", .word name :: ts => trailers? n (.member e name) ts
    | ".", _ => none
    | "(", ts => do
      let (args, ts) ← call? n ts
      trailers? n (.call e args) ts
    | "[", ts => do
      let (index, ts) ← index? n ts
      trailers? n (.part e index) ts
    | _, ts => some (e, .mark s :: ts)
  | _ + 1, e, ts => some (e, ts)

def call? : Nat → List Token → Option (List Argument × List Token)
  | 0, _ => none
  | n + 1, ts => (arguments? n true false false ts).filter fun (args, _) =>
    (args.filterMap fun a => if let .named s _ := a then some s else none).Nodup

/-- The arguments of a call. What a walk gives can only be the only one. After a named one none stands by its
place alone, and after the fields of a record no items of a value either. -/
def arguments? : Nat → Bool → Bool → Bool → List Token → Option (List Argument × List Token)
  | 0, _, _, _, _ => none
  | n + 1, first, named, spread, ts =>
    match expect? ")" ts with
    | some ts => some ([], ts)
    | none =>
      match ts with
      | .word s :: .mark "=" :: ts => do
        let (e, ts) ← expr? n 0 ts
        moreArguments? n (.named s e) true spread ts
      | .mark "**" :: ts => do
        let (e, ts) ← expr? n 0 ts
        moreArguments? n (.spreadNamed e) true true ts
      | .mark "*" :: ts => do
        if spread then none
        let (e, ts) ← expr? n 0 ts
        moreArguments? n (.spread e) named spread ts
      | ts => do
        if named then none
        let (e, rest) ← named? n ts
        if startsWalk rest then
          if !first then none
          let (clauses, rest) ← walk? n ")" e ts rest
          return ([.placed (.gathered none e clauses)], rest)
        else moreArguments? n (.placed e) named spread rest

def moreArguments? : Nat → Argument → Bool → Bool → List Token →
    Option (List Argument × List Token)
  | 0, _, _, _, _ => none
  | n + 1, a, named, spread, ts =>
    match expect? "," ts with
    | some ts => reads (a :: ·) (arguments? n false named spread ts)
    | none => (expect? ")" ts).map ([a], ·)

/-- What stands in an index. -/
def index? : Nat → List Token → Option (Expr × List Token)
  | 0, _ => none
  | n + 1, ts => do
    let (items, comma, ts) ← indexItems? n ts
    match items, comma with
    | [], _ => none
    | [.spread e], false => some (.row .tuple [.spread e], ts)
    | [e], false => some (e, ts)
    | items, _ => some (.row .tuple items, ts)

def indexItems? : Nat → List Token → Option (List Expr × Bool × List Token)
  | 0, _ => none
  | n + 1, ts =>
    match expect? "]" ts with
    | some ts => some ([], false, ts)
    | none => do
      let (e, ts) ← indexItem? n ts
      match expect? "," ts with
      | some ts => (indexItems? n ts).map fun (items, _, ts) => (e :: items, true, ts)
      | none => (expect? "]" ts).map fun ts => ([e], false, ts)

def indexItem? : Nat → List Token → Option (Expr × List Token)
  | 0, _ => none
  | n + 1, ts => do
    let (first, rest) ← if startsWith ":" ts then some (.datum .null, ts) else item? n ts
    match expect? ":" rest with
    | none => some (first, rest)
    | some rest =>
      if isSpread first || (takeBinding? ts).isSome then none
      let (last, rest) ← bound? n rest
      match expect? ":" rest with
      | none => some (.range first last (.datum .null), rest)
      | some rest => reads (.range first last) (bound? n rest)

def bound? : Nat → List Token → Option (Expr × List Token)
  | 0, _ => none
  | n + 1, ts =>
    if startsWith ":" ts || startsWith "," ts || startsWith "]" ts then some (.datum .null, ts)
    else expr? n 0 ts

/-- A `lambda`. -/
def function? : Nat → List Token → Option (Expr × List Token)
  | 0, _ => none
  | n + 1, ts => do
    let (parameters, ts) ← parameters? n .plain ts
    if !fitTogether parameters then none
    (expr? n 0 ts).map fun (body, rest) =>
      (.function parameters (handsOut (readTokens ts rest)) body, rest)

/-- The parameters of a function up to the colon. After a star they get their arguments by name only. -/
def parameters? : Nat → ParameterKind → List Token → Option (List Parameter × List Token)
  | 0, _, _ => none
  | n + 1, kind, ts =>
    match ts with
    | .mark ":" :: ts => some ([], ts)
    | .mark "**" :: .word s :: .mark "," :: .mark ":" :: ts
    | .mark "**" :: .word s :: .mark ":" :: ts => some ([.mk s .namedRest none], ts)
    | .mark "*" :: .word s :: ts =>
      if kind = .named then none
      else reads (.mk s .rest none :: ·) (afterParameter? n .named ts)
    | .mark "*" :: .mark "," :: ts =>
      if kind = .named || startsWith ":" ts || startsWith "**" ts then none
      else parameters? n .named ts
    | .word s :: .mark "=" :: ts => do
      let (default, ts) ← expr? n 0 ts
      reads (.mk s kind (some default) :: ·) (afterParameter? n kind ts)
    | .word s :: ts => reads (.mk s kind none :: ·) (afterParameter? n kind ts)
    | _ => none

def afterParameter? : Nat → ParameterKind → List Token → Option (List Parameter × List Token)
  | 0, _, _ => none
  | n + 1, kind, ts =>
    match expect? "," ts with
    | some ts => parameters? n kind ts
    | none => (expect? ":" ts).map ([], ·)

end

/-- The expressions of a line. -/
def line? : Nat → List Token → Option (List Expr × Bool × List Token)
  | 0, _ => none
  | n + 1, ts => do
    let (e, ts) ← expr? n 0 ts
    match expect? "," ts with
    | none => some ([e], false, ts)
    | some ts =>
      match ts with
      | [] | .lineEnd :: _ => some ([e], true, ts)
      | ts => (line? n ts).map fun (items, _, ts) => (e :: items, true, ts)

/-- The expression that tokens stand for; several with commas between them are a row. -/
def ofTokens? (n : Nat) (ts : List Token) : Option Expr := do
  let (items, comma, rest) ← line? n ts
  if !rest.all isLineEnd then none
  else
    match items, comma with
    | [e], false => some e
    | items, _ => some (.row .tuple items)

def enoughSteps (s : String) : Nat := 20 * s.length + 20

/-- Reads an expression. A line that starts with blanks is told apart if all before it can be read. -/
def parse? (s : String) : Except Fault Expr :=
  let ts := Tokens.ofText s
  match ts.ending, ofTokens? (enoughSteps s) ts.tokens with
  | .finished, some e => .ok e
  | .indented, some _ => .error .badIndent
  | .indented, none => .error (if ts.tokens.isEmpty then .badIndent else .badLiteral)
  | _, _ => .error .badLiteral

end BlockStage.Expression
