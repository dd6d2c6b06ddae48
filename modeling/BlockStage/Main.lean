import BlockStage.Stage.Session

/-!
# The command line

Reads a project from standard input, runs the scripts of its green flag, shows one round, and prints
the log.
-/

namespace BlockStage.CommandLine

def describe (f : Fault) : String := f.message?.getD (Expression.failureName f)

/-- The log of a project. -/
def report (description : String) : Except Fault (List String) :=
  match Session.play {} (.holding (Json.parse? description) false) [] with
  | .ok answers =>
    .ok (answers.flatMap fun a => (a.log.toList.map (LogLine.text describe)))
  | .error (f, _) => .error f

end BlockStage.CommandLine

open BlockStage in
def main : IO UInt32 := do
  let description ← (← IO.getStdin).readToEnd
  match CommandLine.report description with
  | .ok lines =>
    for line in lines do
      IO.println line
    return 0
  | .error f =>
    IO.eprintln (CommandLine.describe f)
    return 1
