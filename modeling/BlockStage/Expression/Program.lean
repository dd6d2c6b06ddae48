import BlockStage.Expression.Parser

/-!
# Reading statements

Expressions and assignments, one on a line or several with semicolons between them.
-/

namespace BlockStage.Expression

def assigned? (n : Nat) : List Token → Option (Expr × List Token)
  | .keyword "yield" :: ts => given? n ts
  | ts => exprs? n ts

/-- The value after some targets. -/
def assignment? : Nat → List Target → List Token → Option (Statement × List Token)
  | 0, _, _ => none
  | n + 1, targets, ts => do
    let (e, rest) ← assigned? n ts
    let some rest := expect? "=" rest | some (.assign targets e, rest)
    assignment? n (targets ++ [← e.target?]) rest

/-- An expression or an assignment. -/
def statement? (n : Nat) (ts : List Token) : Option (Statement × List Token) := do
  let (e, rest) ← exprs? n ts
  match rest with
  | .mark "=" :: rest => assignment? n [← e.target?] rest
  | rest => some (.expr e, rest)

def statements? : Nat → List Token → Option (List Statement)
  | 0, _ => none
  | _ + 1, [] => some []
  | n + 1, .lineEnd :: ts => statements? n ts
  | n + 1, ts => do
    let (s, rest) ← statement? n ts
    match rest with
    | [] => some [s]
    | .mark ";" :: rest | .lineEnd :: rest => (statements? n rest).map (s :: ·)
    | _ => none

/-- Reads a text of statements. -/
def program? (s : String) : Except Fault (List Statement) :=
  let ts := Tokens.ofProgram s
  match ts.ending, statements? (enoughSteps s) ts.tokens with
  | .finished, some body => .ok body
  | .indented, _ => .error .badIndent
  | _, _ => .error .badLiteral

end BlockStage.Expression
