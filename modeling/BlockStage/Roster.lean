import BlockStage.Canvas

/-!
# The roster of threads

A thread may be on the roster several times.
-/

namespace BlockStage

/-- A `ThreadManager`: the threads that the end of the program waits for. -/
structure Roster where
  threads : List Nat := []
  deriving DecidableEq, Repr, Inhabited

namespace Roster

/-- `ThreadManager.add_thread` -/
def add (r : Roster) (thread : Nat) : Roster := ⟨r.threads ++ [thread]⟩

/-- `ThreadManager.remove_thread` -/
def remove (r : Roster) (thread : Nat) : Roster := ⟨r.threads.erase thread⟩

def timeout : Float := 0.5

/-- `ThreadManager.stop_all_threads`: joins the threads that are alive. -/
def stopAll (r : Roster) (alive : Nat → Bool) : List Call × Roster :=
  ((r.threads.filter alive).map fun t => .join t timeout, {})

end Roster

end BlockStage
