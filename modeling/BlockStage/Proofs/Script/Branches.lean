import BlockStage.Proofs.Run.Step

/-!
# Choosing between two branches

A slot hands over the id of the block in it, which is not run, and the block compares that id with the text
`True`. So the second branch is run whatever the condition would have answered, unless its id happens to be
that text: `ifElse_run`.
-/

namespace BlockStage

open Run

/-- A block that chooses between the scripts `s` and `t` by the condition `c`, which are handed over
to it. -/
structure Block.Chooses (b : Block) (c s t : Value) : Prop where
  opcode : b.opcode? = .ok (.text "control_if_else")
  gives : ∃ fields, b.Gives [("CONDITION", c), ("SUBSTACK", s), ("SUBSTACK2", t)] fields

/-- The script that is run for the id of a condition. -/
def chosen (c s t : Value) : Value := if c.isText "True" then s else t

theorem ifThenElse_perform (p : Player) {me : Nat} {flag c s t : Value} {b : Block} {w : World}
    (hnull : flag.isNull = false) (hb : w.block? me flag = .ok b) (choice : b.Chooses c s t) :
    ((Control.ifThenElse.act me flag).perform p).play w =
      (do
        let _ ← p.run me (chosen c s t) true
        return Value.null).play w := by
  obtain ⟨fields, gives⟩ := choice.gives
  obtain ⟨args, taken, found, -⟩ := Arguments.eval_given hnull hb gives (by simp)
  have condition : args.need "CONDITION" = .ok c := by
    rw [Arguments.need, found ("CONDITION", c) (by simp)]
  have yes : args.need "SUBSTACK" = .ok s := by
    rw [Arguments.need, found ("SUBSTACK", s) (by simp)]
  have no : args.need "SUBSTACK2" = .ok t := by
    rw [Arguments.need, found ("SUBSTACK2", t) (by simp)]
  unfold Control.act
  rw [Act.play_bind_ok (taken p), condition]
  rw [Act.lift_ok_bind, chosen]
  by_cases h : c.isText "True"
  · rw [if_pos h, if_pos h, yes, Act.lift_ok_bind]
    rw [Act.perform_bind, Control.branch_perform, bind_assoc]
    rfl
  · rw [if_neg h, if_neg h, no, Act.lift_ok_bind]
    rw [Act.perform_bind, Control.branch_perform, bind_assoc]
    rfl

/-- A choice between two branches runs nothing of its condition: it runs its first branch if the id of the
condition is the text `True`, and its second one otherwise. A fault of the branch is the block's own. -/
theorem ifElse_run {w : World} {me : Nat} {flag c s t : Value} {name : String} {b : Block}
    (h : w.Meets me flag name b) (choice : b.Chooses c s t)
    (free : (w.sprite me).hides "control_if_else" = false) (depth : Nat) :
    ((player (depth + 1)).run me flag false).play w =
      (do
        enterBlock name "control_if_else"
        contain flag (do
          let _ ← (player depth).run me (chosen c s t) true
          return Value.null)).play w := by
  have member : Member.ofName? (w.sprite me) "control_if_else" =
      some (.block (.control .ifThenElse)) := Member.ofName?_of_free free (by decide)
  rw [show (player (depth + 1)).run = runWith (player depth) from rfl,
    runWith_block _ h choice.opcode member]
  refine play_bind_congr rfl fun _ w' entered => contain_play_congr ?_
  rw [enterBlock_play] at entered
  obtain rfl : w.enter name "control_if_else" = w' := congrArg Prod.snd entered
  exact ifThenElse_perform _ h.flag_ne_null h.found choice

/-! ## A condition that answers `True` -/

/-- Shows the sprite if two equal texts are equal, and hides it otherwise. -/
def showIfEqual : Block :=
  .plain "control_if_else" [
    ("CONDITION", .slot "c"), ("SUBSTACK", .slot "s"), ("SUBSTACK2", .slot "t")]

def showIfEqualStage : World := .ofBlocks [
  ("e", showIfEqual),
  ("c", .plain "operator_equals" [("OPERAND1", .literal "a"), ("OPERAND2", .literal "a")]),
  ("s", .plain "looks_show" []),
  ("t", .plain "looks_hide" [])]

/-- The condition answers `True`, but the choice enters its second branch, and never the
condition. -/
theorem ifElse_hides_on_true :
    ((runBlock 0 (.text "c")).play showIfEqualStage).1 = .ok (Value.truth true) ∧
      ((runBlock 0 (.text "e")).play showIfEqualStage).2.log.toList =
        [.entered "Cat" "control_if_else", .entered "Cat" "looks_hide"] :=
  ⟨rfl, rfl⟩

/-- The hypotheses of `ifElse_run` are those of that sprite. -/
theorem ifElse_run_showIfEqual : (showIfEqualStage.Meets 0 (.text "e") "Cat" showIfEqual ∧
      showIfEqual.Chooses (.text "c") (.text "s") (.text "t") ∧
      (showIfEqualStage.sprite 0).hides "control_if_else" = false) ∧
    ((player 9).run 0 (.text "e") false).play showIfEqualStage =
      (do
        enterBlock "Cat" "control_if_else"
        contain (.text "e") (do
          let _ ← (player 8).run 0 (chosen (.text "c") (.text "s") (.text "t")) true
          return Value.null)).play showIfEqualStage := by
  have meets : showIfEqualStage.Meets 0 (.text "e") "Cat" showIfEqual := ⟨rfl, rfl, rfl⟩
  have chooses : showIfEqual.Chooses (.text "c") (.text "s") (.text "t") :=
    ⟨rfl, [], Block.plain_gives
      (.cons (Input.gives_slot _ _) (.cons (Input.gives_slot _ _) (.cons (Input.gives_slot _ _) .nil)))⟩
  exact ⟨⟨meets, chooses, rfl⟩, ifElse_run meets chooses rfl 8⟩

end BlockStage
