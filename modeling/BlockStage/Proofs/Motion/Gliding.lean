import BlockStage.Proofs.Custom.Bound
import BlockStage.Proofs.Run.Step

/-!
# Going and gliding

A sprite can go to another one, or glide there. Both blocks are handed a place by a menu. The one takes its
two coordinates, but the other asks for its parts by number, which a place does not have. So it fails before
the first step: `Motion.glide_ends_where_it_began`.
-/

namespace BlockStage

open Run World

theorem Arguments.ofInputs_append (me : Nat) (first second : List (String × Value)) (args : Arguments) :
    ofInputs me (first ++ second) args = ofInputs me first args >>= ofInputs me second := by
  induction first generalizing args with
  | nil => rfl
  | cons p rest ih =>
    rw [List.cons_append, ofInputs, ofInputs, bind_assoc]
    refine bind_congr fun input => ?_
    rw [bind_assoc]
    refine bind_congr fun value => ?_
    cases value <;> exact ih _

/-- What is taken under a name stays when inputs of other names are taken. -/
theorem Arguments.get?_ofInputs {p : Player} {me : Nat} {key : String} {inputs : List (String × Value)}
    {args args' : Arguments} {w w' : World} (others : ∀ q ∈ inputs, q.1 ≠ key ∧ Text.upper q.1 ≠ key)
    (taken : ((ofInputs me inputs args).perform p).play w = (.ok args', w')) :
    Table.get? args' key = Table.get? args key := by
  induction inputs generalizing args w with
  | nil => cases taken; rfl
  | cons q rest ih =>
    obtain ⟨other, more⟩ := List.forall_mem_cons.1 others
    cases read : Input.ofValue? q.2 with
    | error f =>
      rw [ofInputs, read] at taken
      cases taken
    | ok input =>
      rw [ofInputs, read, Act.lift_ok_bind, Act.perform_bind] at taken
      obtain ⟨value, w1, -, taken⟩ := play_bind_eq_ok taken
      cases value with
      | none => exact ih more taken
      | some v =>
        have another : input.key q.1 ≠ key := by
          cases input with
          | branch _ => exact other.1
          | _ => exact other.2
        rw [ih more taken, Table.get?_put_of_ne _ _ another]

namespace Motion

variable {w w' w'' w1 : World} {me : Nat} {flag x y : Value} {name opcode opcode' menu title : String} {b : Block}
  {args args' : Arguments}

/-- A block of a sprite is a menu of places, and the sprite that it names has its place. -/
structure Menu (w : World) (me : Nat) (name menu opcode title : String) (x y : Value) : Prop where
  block : ∃ b, w.Begins me (.text menu) name opcode (.motion .goToMenu) b ∧
    b.Holds [] [("TO", .text title)] ∧ b.next = .null
  named : ∃ i, w.named? (.text title) = .ok (some i) ∧ placeOf (w.sprite i) = .ok (.place x y)
  usual : title ≠ "_random_" ∧ title ≠ "_mouse_"

theorem Menu.answers (h : Menu w me name menu opcode title x y) (depth : Nat) :
    ((player (depth + 1)).run me (.text menu) true).play w = (.ok (.place x y), w.enter name opcode) := by
  obtain ⟨b, enters, holds, last⟩ := h.block
  obtain ⟨i, named, placed⟩ := h.named
  have answered : ((target me (.text menu)).perform (player depth)).play (w.enter name opcode) =
      (.ok (.place x y), w.enter name opcode) := by
    have taken := Arguments.eval_play (w := w.enter name opcode) (player depth) rfl enters.found holds
    have need : Arguments.need [("TO", .text title)] "TO" = .ok (.text title) := rfl
    have found := (World.named?_congr w (w.enter name opcode) rfl (fun _ => rfl) _).trans named
    have there : placeOf ((w.enter name opcode).sprite i) = .ok (.place x y) := placed
    rw [target, Act.play_bind_ok taken, need, Act.lift_ok_bind,
      if_neg (by simpa [Value.isText] using h.usual.1), if_neg (by simpa [Value.isText] using h.usual.2),
      Act.play_look_bind, found, Act.lift_ok_bind]
    dsimp only
    rw [there]
    rfl
  exact (runWith_answer (player depth) true enters.toMeets enters.coded last enters.knows answered).trans
    (play_bind_ok (enterBlock_fuelled enters.fuelled) _)

/-- A block with such a menu among its inputs is handed the place of the sprite that the menu names. -/
theorem Menu.taken (h : Menu w' me name menu opcode title x y) (depth : Nat) {before after : List (String × Value)}
    (found : w.block? me flag = .ok b) (hnull : flag.isNull = false)
    (holds : b.Holds (before ++ ("TO", .list [Value.int 1, .text menu]) :: after) [])
    (first : ((Arguments.ofInputs me before []).perform (player (depth + 1))).play w = (.ok args, w'))
    (others : ∀ q ∈ after, Text.upper q.1 ≠ "TO")
    (last : ((Arguments.ofInputs me after (Table.put args "TO" (.place x y))).perform (player (depth + 1))).play
      (w'.enter name opcode) = (.ok args', w'')) :
    ((Arguments.eval me flag).perform (player (depth + 1))).play w = (.ok args', w'') ∧
      args'.need "TO" = .ok (.place x y) := by
  have upper : Text.upper "TO" = "TO" := by decide +kernel
  have other : ∀ q ∈ after, q.1 ≠ "TO" ∧ Text.upper q.1 ≠ "TO" := fun q mem =>
    ⟨fun same => others q mem (by rw [same, upper]), others q mem⟩
  refine ⟨?_, by rw [Arguments.need, Arguments.get?_ofInputs other last, Table.get?_put_self]⟩
  rw [Arguments.eval_play _ hnull found holds, Arguments.ofInputs_append, Act.play_bind_ok first]
  have read : Input.ofValue? (.list [Value.int 1, .text menu]) = .ok (.reporter (.text menu)) := rfl
  have given : ((Arguments.ofInput me (.reporter (.text menu))).perform (player (depth + 1))).play w' =
      (.ok (some (.place x y)), w'.enter name opcode) := by
    rw [Arguments.ofInput, Act.perform_bind, Act.perform_run, play_bind_ok (h.answers depth)]
    rfl
  rw [Arguments.ofInputs, read, Act.lift_ok_bind, Act.play_bind_ok given]
  exact last

/-- A place has no parts by number, so that gliding to one fails before the first step. -/
theorem glideTo_fails (p : Player) (taken : ((Arguments.eval me flag).perform p).play w = (.ok args, w1))
    (aims : args.need "TO" = .ok (.place x y)) :
    ∃ f : Fault, ((act me flag .glideTo).perform p).play w = (.error (.fault f), w1) := by
  rw [act, Act.play_bind_ok taken, aims]
  cases args.need "SECS" with
  | error f => exact ⟨f, rfl⟩
  | ok secs => exact ⟨.wrongKind, rfl⟩

theorem goTo_play (p : Player) (taken : ((Arguments.eval me flag).perform p).play w = (.ok args, w1))
    (aims : args.need "TO" = .ok (.place x y)) {v : Value} (there : (w1.sprite me).name? = .ok v) :
    ∃ w2, ((act me flag .goTo).perform p).play w = (.ok .null, w2) ∧ placeOf (w2.sprite me) = .ok (.place x y) := by
  have named : Table.get? (w1.sprite me).fields "name" = some v := by
    rw [Sprite.name?, Sprite.get?] at there
    split at there <;> cases there
    assumption
  have across : ∀ t : Table Value, Table.get? (Table.put (Table.put t "x" x) "y" y) "x" = some x := fun t => by
    rw [Table.get?_put_of_ne _ _ (by decide), Table.get?_put_self]
  refine ⟨w1.updateSprite me fun s => (s.set .x x).set .y y, ?_, ?_⟩
  · rw [act, Act.play_bind_ok taken, aims, Act.lift_ok_bind]
    exact congrArg (Except.ok _, ·) (w1.updateSprite_updateSprite me _ _)
  · rw [sprite_updateSprite_self named]
    simp only [placeOf, Sprite.attribute?, Sprite.get?, Sprite.set, Sprite.put, Attribute.key, across,
      Table.get?_put_self]
    rfl

/-- Whatever inputs the block has before and after the menu, the time among them, gliding to a sprite that the menu
names leaves the sprite where it was when they were taken. Going to the same sprite brings it there. So gliding ends
where going would only if the sprite was there already. -/
theorem glide_ends_where_it_began (depth : Nat) {gliding going : Value} {glide go : Block} {menu' : String}
    {before after : List (String × Value)}
    (glides : w.Begins me gliding name "motion_glideto" (.motion .glideTo) glide)
    (slow : glide.Holds (before ++ ("TO", .list [Value.int 1, .text menu]) :: after) [])
    (first : ((Arguments.ofInputs me before []).perform (player (depth + 1))).play
      (w.enter name "motion_glideto") = (.ok args, w'))
    (aims : Menu w' me name menu opcode title x y) (others : ∀ q ∈ after, Text.upper q.1 ≠ "TO")
    (last : ((Arguments.ofInputs me after (Table.put args "TO" (.place x y))).perform (player (depth + 1))).play
      (w'.enter name opcode) = (.ok args', w'')) (goes : w.Begins me going name "motion_goto" (.motion .goTo) go)
    (direct : go.Holds [("TO", .list [Value.int 1, .text menu'])] [])
    (aims' : Menu (w.enter name "motion_goto") me name menu' opcode' title x y) :
    ∃ w1 w2, (runWith (player (depth + 1)) me gliding false).play w = (.ok .null, w1) ∧ w1.sprites = w''.sprites ∧
      (runWith (player (depth + 1)) me going false).play w = (.ok .null, w2) ∧
      placeOf (w2.sprite me) = .ok (.place x y) ∧
      (placeOf (w1.sprite me) = placeOf (w2.sprite me) ↔ placeOf (w''.sprite me) = .ok (.place x y)) := by
  obtain ⟨taken, aimed⟩ := aims.taken depth (w := w.enter name "motion_glideto") glides.found glides.flag_ne_null
    slow first others last
  have alone : ((Arguments.ofInputs me [] []).perform (player (depth + 1))).play (w.enter name "motion_goto") =
      (.ok [], w.enter name "motion_goto") := rfl
  have lone : ∀ q ∈ ([] : List (String × Value)), Text.upper q.1 ≠ "TO" := by simp
  obtain ⟨taken', aimed'⟩ :=
    aims'.taken depth (w := w.enter name "motion_goto") goes.found goes.flag_ne_null direct alone lone rfl
  obtain ⟨f, failed⟩ := glideTo_fails (player (depth + 1)) taken aimed
  obtain ⟨v, named, -⟩ := World.displayed_of_named goes.named
  obtain ⟨w2, went, placed⟩ := goTo_play (player (depth + 1)) taken' aimed' named
  exact ⟨_, w2, (glides.run _).trans (contain_fault failed), rfl, (goes.run _).trans (contain_ok went), placed,
    by rw [placed]; rfl⟩

/-- Two sprites, and blocks with which the first glides and goes to the second. -/
def catAway : World :=
  let menu (opcode : String) : Block := ⟨[("opcode", .text opcode), ("inputs", .record []),
    ("fields", .record [("TO", .list [.text "Dog", .null])])]⟩
  let w := World.ofBlocks [
    ("g", .plain "motion_glideto" [("TO", .list [Value.int 1, .text "m"]), ("SECS", .literal "1")]),
    ("h", .plain "motion_goto" [("TO", .list [Value.int 1, .text "n"])]), ("m", menu "motion_glideto_menu"),
    ("n", menu "motion_goto_menu")]
  let w := w.updateSprite 0 fun s => (s.set .x (Value.int 0)).set .y (Value.int 0)
  { w with
    sprites := w.sprites ++ [{ kit := 1, fields := [("name", .text "Dog"), ("x", Value.int 30), ("y", Value.int 40)] }]
    cast := [0, 1] }

theorem glide_ends_where_it_began_catAway : ∃ w1 w2,
    (runWith (player 4) 0 (.text "g") false).play catAway = (.ok .null, w1) ∧ w1.sprites = catAway.sprites ∧
    (runWith (player 4) 0 (.text "h") false).play catAway = (.ok .null, w2) ∧
    placeOf (w2.sprite 0) = .ok (.place (Value.int 30) (Value.int 40)) := by
  have aims : Menu (catAway.enter "Cat" "motion_glideto") 0 "Cat" "m" "motion_glideto_menu" "Dog"
      (Value.int 30) (Value.int 40) :=
    ⟨⟨_, ⟨⟨rfl, rfl, rfl⟩, rfl, rfl, by decide⟩, ⟨rfl, _, rfl, rfl⟩, rfl⟩, ⟨1, rfl, rfl⟩, by decide⟩
  have aims' : Menu (catAway.enter "Cat" "motion_goto") 0 "Cat" "n" "motion_goto_menu" "Dog"
      (Value.int 30) (Value.int 40) :=
    ⟨⟨_, ⟨⟨rfl, rfl, rfl⟩, rfl, rfl, by decide⟩, ⟨rfl, _, rfl, rfl⟩, rfl⟩, ⟨1, rfl, rfl⟩, by decide⟩
  have glides : catAway.Begins 0 (.text "g") "Cat" "motion_glideto" (.motion .glideTo) _ :=
    ⟨⟨rfl, rfl, rfl⟩, rfl, rfl, by decide⟩
  have goes : catAway.Begins 0 (.text "h") "Cat" "motion_goto" (.motion .goTo) _ :=
    ⟨⟨rfl, rfl, rfl⟩, rfl, rfl, by decide⟩
  have slow : (Block.plain "motion_glideto" [("TO", .list [Value.int 1, .text "m"]), ("SECS", .literal "1")]).Holds
      ([] ++ ("TO", .list [Value.int 1, .text "m"]) :: [("SECS", .literal "1")]) [] := ⟨rfl, [], rfl, rfl⟩
  obtain ⟨w1, w2, glided, still, went, placed, -⟩ := glide_ends_where_it_began 3 glides slow rfl aims
    (List.forall_mem_singleton.2 (by decide +kernel)) rfl goes ⟨rfl, [], rfl, rfl⟩ aims'
  exact ⟨w1, w2, glided, still, went, placed⟩

/-- Gliding leaves the cat where it is, and going brings it to the dog. -/
theorem cat_does_not_glide : placeOf (((runBlock 0 (.text "g") false).play catAway).2.sprite 0) =
      .ok (.place (Value.int 0) (Value.int 0)) ∧
    placeOf (((runBlock 0 (.text "h") false).play catAway).2.sprite 0) =
      .ok (.place (Value.int 30) (Value.int 40)) := ⟨rfl, rfl⟩

end Motion

end BlockStage
