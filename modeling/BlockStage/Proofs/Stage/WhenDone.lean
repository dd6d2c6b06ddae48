import BlockStage.Proofs.Clone.Scripts
import BlockStage.Proofs.Script.Chain
import BlockStage.Proofs.Stage.Course

/-!
# Once a program is to end

A program that is to end stays so, and no block is entered any more. `Session.done_is_final` says so of
everything that a session does to a project whose prototypes are written in literals. What a project writes
itself into its prototypes can take the end back: `revived_goes_on`.
-/

namespace BlockStage

open Run

variable {loose : Prop} {w w' : World}

/-! ## Changes -/

namespace World

theorem Goes.done (h : w.Goes loose w') (done : w.done = true) : w'.done = true := by
  cases h with
  | aside h => exact h.done done
  | enter _ _ _ | turn _ _ | clone _ | data _ _ _ _ | write _ _ _ => exact done

theorem Goes.adds (h : w.Goes loose w') (done : w.done = true) : w.Adds w' := by
  cases h with
  | aside h => exact h.adds
  | enter running _ _ => cases running.symm.trans done
  | turn _ _ | clone _ | data _ _ _ _ | write _ _ _ => exact .of_log rfl

theorem Path.ended (h : w.Path loose w') (done : w.done = true) : w'.done = true ∧ w.Adds w' := by
  induction h with
  | refl => exact ⟨done, .of_log rfl⟩
  | tail _ goes ih => exact ⟨goes.done ih.1, ih.2.trans (goes.adds ih.1)⟩

end World

namespace Session

theorem Course.done (h : Course loose w w') (done : w.done = true) : w'.done = true := by
  induction h with
  | refl => exact done
  | tail _ change ih =>
    cases change with
    | goes goes => exact goes.done ih
    | cleared => exact ih

/-! ## Scripts that are started then -/

theorem player_ended (depth me : Nat) (flag : Value) (next : Bool) (done : w.done = true) :
    ((player (depth + 1)).run me flag next).play w = (.ok .null, w) :=
  runWith_idle (player depth) me next (.inl done)

/-- A script that has waited only takes its limits, and so does one without a block. -/
theorem runThread_idle (t : Thread) (h : w.done = true ∨ t.flag.isNull = true) :
    runThread t w = { w with ticks := w.host.ticks, fuel := w.host.fuel, current := 0 } := by
  rw [runThread_eq, runBlock_play, runWith_idle (w := w.refuel t.id) _ _ _ h]
  rfl

/-! ## Answers -/

/-- An answer of a program that is to end, in which no block was entered. -/
def Still (a : Answer) : Prop := a.world.done = true ∧ ∀ line ∈ a.log, line.isEntry = false

theorem still_close (orderly : w.Orderly loose) (done : w.done = true) (clear : w.log = #[])
    (path : w.Path loose w') (reply : Reply) : Still (close reply w').1 := by
  have closed := (close_path (path.orderly orderly) reply).1
  have whole : w.Path loose (close reply w').1.world := path.trans closed
  obtain ⟨done', new, log, others⟩ := whole.ended done
  refine ⟨done', fun line mem => others line ?_⟩
  have mem : line ∈ (close reply w').1.world.log.toList := Array.mem_toList_iff.2 mem
  rw [log, clear] at mem
  exact mem

theorem Gives.still {answers : List Answer} (h : Gives loose w answers) (orderly : w.Orderly loose)
    (done : w.done = true) (clear : w.log = #[]) : ∀ a ∈ answers, Still a := by
  induction h with
  | nil => exact fun _ mem => absurd mem List.not_mem_nil
  | cons path reply _ ih =>
    have closed := close_path (path.orderly orderly) reply
    intro a mem
    rcases List.mem_cons.1 mem with rfl | mem
    · exact still_close orderly done clear path reply
    · have ended : (close reply _).1.world.done = true := (closed.1.ended (path.ended done).1).1
      refine ih closed.2 ?_ ?_ a mem <;> rw [close_eq]
      exact ended

/-- After an answer of a program that is to end, all are such that no block was entered. -/
theorem Gives.pairwise {answers : List Answer} (h : Gives loose w answers) (orderly : w.Orderly loose) :
    answers.Pairwise fun a b => a.world.done = true → Still b := by
  induction h with
  | nil => exact .nil
  | cons path reply later ih =>
    have closed := (close_path (path.orderly orderly) reply).2
    exact .cons (fun b mem done => later.still closed done rfl b mem) (ih closed)

/-! ## Whole sessions -/

/-- A project whose prototypes are written in literals, once it is loaded. Once the program is to end, it stays
so; no change enters a block; and a script that is run then leaves the world as it is. In the answers of a
session no block is entered after one in which the program was to end. -/
theorem done_is_final {archive : Archive} {host : Host} {w0 : World}
    (loads : archive.Loads host w0) (literal : w0.Literal)
    (distinct : ∀ s ∈ w0.sprites, s.fields.keys.Nodup) :
    (∀ w, Course True w0 w → ∀ w', Does w w' → w.Path True w') ∧ (∀ w, Course True w0 w → w.done = true →
      (∀ w', Course True w w' → w'.done = true) ∧ (∀ w', w.Path True w' → w.Adds w') ∧
      (∀ depth me flag next, ((player (depth + 1)).run me flag next).play w = (.ok .null, w)) ∧
      ∀ t, runThread t w = { w with ticks := w.host.ticks, fuel := w.host.fuel, current := 0 }) ∧
    ∀ steps answers, (∀ step ∈ steps, step.Scripted) → play host archive steps = .ok answers →
      answers.Pairwise fun a b => a.world.done = true →
        b.world.done = true ∧ ∀ line ∈ b.log, line.isEntry = false := by
  have orderly : w0.Orderly True := Load.orderly_project loads distinct literal fun h => absurd trivial h
  refine ⟨fun w course w' does => does.path (course.orderly orderly), fun w _ done => ?_, ?_⟩
  · exact ⟨fun _ course => course.done done, fun _ path => (path.ended done).2,
      fun depth me flag next => player_ended depth me flag next done, fun t => runThread_idle t (.inl done)⟩
  · intro steps answers scripted played
    exact (gives_play loads orderly scripted played).pairwise orderly

end Session

/-! ## A call with an argument that ends the program -/

/-- A custom block whose call runs a block that ends the program, to take its argument. The names of its
parameters are written as some text. -/
def endingCall (names : String) : Table Block := [
  ("d", .plain "procedures_definition" [("custom_block", .list [Value.int 1, .text "p"])] (.text "x")),
  ("p", ⟨(Block.plain "procedures_prototype" []).fields ++ [("mutation", .record [
    ("proccode", .text "f %s"), ("argumentids", .text "[\"A\"]"), ("argumentnames", .text names)])]⟩),
  ("c", ⟨(Block.plain "procedures_call" [("A", .list [Value.int 1, .text "s"])] (.text "y")).fields ++ [
    ("mutation", .record [("proccode", .text "f %s")])]⟩),
  ("s", .plain "control_stop" []),
  ("x", .plain "looks_show" []),
  ("y", .plain "looks_hide" [])]

theorem endingCall_literal {names : String} (h : Expression.LiteralText names) :
    (Archive.ofBlocks (endingCall names)).world.Literal := by
  intro k id o _ _ b v hb hv
  obtain _ | k := k
  · have mem : (id, b) ∈ endingCall names := Table.mem_of_get? hb
    obtain ⟨⟩ | ⟨_, ⟨⟩ | ⟨_, ⟨⟩ | ⟨_, ⟨⟩ | ⟨_, ⟨⟩ | ⟨_, ⟨⟩ | ⟨_, ⟨⟩⟩⟩⟩⟩⟩⟩ := mem
    all_goals cases hv
    · exact customBlock_mutation h
    · exact ⟨nofun, nofun⟩
  · cases hb

/-- With names that are literal, the program ends in the midst of the call. -/
theorem done_is_final_endingCall : let w0 := (Archive.ofBlocks (endingCall "[\"n\"]")).world
    let w := ((runBlock 0 (.text "c")).play w0).2
    (w0.Literal ∧ (∀ s ∈ w0.sprites, s.fields.keys.Nodup) ∧ w.done = true) ∧
      w0.Path True w ∧ (∀ w', w.Path True w' → w.Adds w') ∧
      runThread ⟨1, 0, .text "y"⟩ w = { w with ticks := w.host.ticks, fuel := w.host.fuel, current := 0 } := by
  intro w0 w
  have literal : w0.Literal := endingCall_literal customBlock_names
  have distinct : ∀ s ∈ w0.sprites, s.fields.keys.Nodup := by decide +kernel
  have done : w.done = true := by decide +kernel
  have loads : (Load.project (.ofBlocks (endingCall "[\"n\"]"))).play (World.empty {}) = (.ok (), w0) :=
    Prod.ext rfl rfl
  obtain ⟨paths, ended, -⟩ := Session.done_is_final loads literal distinct
  have path := paths w0 .refl w (.ran 0 (.text "c") true)
  obtain ⟨-, quiet, -, threads⟩ := ended w (.of_path path) done
  exact ⟨⟨literal, distinct, done⟩, path, quiet, threads _⟩

/-- Names that are read by taking the end back let the script go on. -/
theorem revived_goes_on : let w0 := (Archive.ofBlocks (endingCall "globals().update(done=False)")).world
    let w := ((runBlock 0 (.text "c")).play w0).2
    ((runBlock 0 (.text "s")).play w0).2.done = true ∧ w.done = false ∧
      w.log.toList.filter LogLine.isEntry = [.entered "Cat" "procedures_call",
        .entered "Cat" "control_stop", .entered "Cat" "looks_hide"] := by
  decide +kernel

end BlockStage
