import BlockStage.Proofs.Clone.Life
import BlockStage.Proofs.Data.Store

/-!
# Turning

A block that turns its sprite adds to its direction, and then reduces that of the sprite that was loaded last
(`Course.latest`). So another sprite is left with a sum of any size, and if the last target has no direction
the block is given up: `Session.turns_reduce_last`.
-/

namespace BlockStage

open Run World

variable {v : Value}

variable {w w' : World} {me i : Nat} {flag : Value} {p : Player}

/-! ## The sprite that was loaded last -/

theorem Load.latest_project (archive : Archive) (host : Host) :
    let w := ((project archive).play (World.empty host)).2
    w.latest = w.sprites.length - 1 := by
  refine always_project (J := fun w => w.latest = w.sprites.length - 1) (fun h aside => ?_) ?_ _ rfl
  · rw [aside.latest, aside.sprites, h]
  · intro w given s kit named stage _ _ _ _
    show w.sprites.length = (w.sprites ++ [s]).length - 1
    rw [List.length_append, List.length_singleton, Nat.add_sub_cancel]

theorem World.Path.latest (h : w.Path False w') : w'.latest = w.latest := by
  induction h with
  | refl => rfl
  | tail _ goes ih => exact goes.latest.trans ih

theorem Session.Course.latest (h : Course False w w') : w'.latest = w.latest := by
  induction h with
  | refl => rfl
  | tail _ change ih =>
    cases change with
    | goes goes => exact goes.latest.trans ih
    | cleared => exact ih

/-! ## What a turn comes to -/

def World.direction? (w : World) (i : Nat) : Except Fault Value := (w.sprite i).attribute? .direction

theorem World.get?_of_direction? (h : w.direction? i = .ok v) :
    Table.get? (w.sprite i).fields Attribute.direction.key = some v := Sprite.get?_eq_ok h

/-- The world in which a sprite has another direction. -/
def World.pointed (w : World) (i : Nat) (v : Value) : World := w.updateSprite i (·.set .direction v)

theorem World.direction?_pointed (h : w.direction? i = .ok v) (v' : Value) :
    (w.pointed i v').direction? i = .ok v' := by
  rw [direction?, pointed, sprite_updateSprite_self (get?_of_direction? h)]
  rw [Sprite.attribute?, Sprite.set, Sprite.get?, Sprite.put, Table.get?_put_self]

theorem World.sprite_pointed_of_ne {j : Nat} (w : World) (h : i ≠ j) (v : Value) :
    (w.pointed i v).sprite j = w.sprite j := w.sprite_updateSprite_of_ne h

/-- The direction of a sprite, brought below a full turn. -/
def World.reduced? (w : World) (i : Nat) : Except Fault Value := w.direction? i >>= Motion.reduceTurn

theorem World.reduced?_int {d : Int} (h : w.direction? i = .ok (Value.int d)) :
    w.reduced? i = .ok (Value.int (d % 360)) := by
  rw [reduced?, h]
  show Except.ok (Value.int (d.fmod 360)) = _
  rw [Int.fmod_eq_emod_of_nonneg d (by decide)]

theorem World.direction?_of_reduced? (h : w.reduced? i = .ok v) : ∃ u, w.direction? i = .ok u := by
  rw [reduced?] at h
  rcases hd : w.direction? i with f | u
  · rw [hd] at h
    cases h
  · exact ⟨u, rfl⟩

/-- Reduces the direction of the sprite that was loaded last. -/
def Motion.reduceLast : Run Unit := do
  let w ← get
  let reduced ← w.reduced? w.latest
  modify (·.pointed w.latest reduced)

theorem Motion.reduceLast_ok (h : w.reduced? w.latest = .ok v) :
    reduceLast.play w = (.ok (), w.pointed w.latest v) := by
  rw [reduceLast, play_get_bind, h]
  rfl

theorem Motion.reduceLast_error {f : Fault} (h : w.reduced? w.latest = .error f) :
    reduceLast.play w = (.error (.fault f), w) := by
  rw [reduceLast, play_get_bind, h]
  rfl

theorem Motion.turn_play {op : Number → Number → Except Fault Number} {degrees : Value} {d d' : Int}
    (own : w.direction? me = .ok (Value.int d)) (new : op (.int d) (.int degrees.asInt) = .ok (.int d')) :
    ((turn op me degrees).perform p).play w = reduceLast.play (w.pointed me (Value.int d')) := by
  have changed : Value.arith? op (Value.int d) (Value.int degrees.asInt) = .ok (Value.int d') := by
    show (op (.int d) (.int degrees.asInt)).map Value.num = _
    rw [new]
    rfl
  rw [turn, Act.play_bind_ok (Act.adjust_play p (get?_of_direction? own) changed)]
  simp only [Act.attr, Act.perform_bind, Act.perform_look, Act.perform_lift]
  rw [play_get_bind, bind_assoc, play_get_bind, reduceLast, play_get_bind,
    World.reduced?]
  show (liftM ((w.pointed me (Value.int d')).direction? w.latest) >>= _ : Run Unit).play _ =
    (liftM ((w.pointed me (Value.int d')).direction? w.latest >>= reduceTurn) >>= _ : Run Unit).play _
  rcases (w.pointed me (Value.int d')).direction? w.latest with f | v <;> rfl

/-- How a turn of a sprite ends, with the sum of its direction and the degrees. The direction is the sum, and
that of the last sprite is reduced; or else the block is given up. -/
structure World.Turned (me last : Nat) (flag : Value) (sum : Int) (w w1 : World) : Prop where
  others : ∀ j, j ≠ me → j ≠ last → w1.sprite j = w.sprite j
  own : me = last → w1.direction? me = .ok (Value.int (sum % 360)) ∧ w1.log = w.log
  unreduced : me ≠ last → w1.direction? me = .ok (Value.int sum)
  reduced : me ≠ last → ∀ v, w.reduced? last = .ok v → w1.direction? last = .ok v ∧ w1.log = w.log
  givenUp : me ≠ last → ∀ f, w.reduced? last = .error f →
    w1.sprite last = w.sprite last ∧ w1.log = w.log.push (.blockFailed flag.asText f)

theorem Motion.turned_reduceLast (flag : Value) {sum : Int} (found : w.direction? me = .ok v) :
    ∃ w1, (contain flag (do reduceLast; return .null)).play (w.pointed me (Value.int sum)) = (.ok .null, w1) ∧
      w.Turned me w.latest flag sum w1 := by
  generalize there : w.pointed me (Value.int sum) = turned
  have own : turned.direction? me = .ok (Value.int sum) := there ▸ direction?_pointed found _
  have others : ∀ j, j ≠ me → turned.sprite j = w.sprite j := there ▸ fun j h => sprite_pointed_of_ne _ h.symm _
  have log : turned.log = w.log := there ▸ rfl
  have latest : turned.latest = w.latest := there ▸ rfl
  rw [contain_play]
  by_cases last : me = w.latest
  · have reduced : turned.reduced? turned.latest = .ok (Value.int (sum % 360)) := by
      rw [latest, ← last]
      exact reduced?_int own
    rw [play_bind_ok (reduceLast_ok reduced), latest, ← last]
    refine ⟨_, rfl, fun j other _ => ?_, fun _ => ⟨direction?_pointed own _, log⟩, absurd rfl, absurd rfl, absurd rfl⟩
    exact (sprite_pointed_of_ne _ other.symm _).trans (others j other)
  have reduced : turned.reduced? turned.latest = w.reduced? w.latest := by
    rw [latest, reduced?, reduced?, direction?, direction?, others _ (Ne.symm last)]
  rcases result : w.reduced? w.latest with f | v <;> rw [result] at reduced
  · rw [play_bind_error (reduceLast_error reduced)]
    refine ⟨_, rfl, fun j other _ => others j other, fun same => absurd same last, fun _ => own, fun _ v h => ?_,
      fun _ g h => ?_⟩
    · cases result.symm.trans h
    · cases result.symm.trans h
      exact ⟨others _ (Ne.symm last), congrArg (Array.push · _) log⟩
  · rw [play_bind_ok (reduceLast_ok reduced), latest]
    refine ⟨_, rfl, fun j other notLast => ?_, fun same => absurd same last, fun _ => ?_, fun _ u h => ?_,
      fun _ f h => ?_⟩
    · exact (sprite_pointed_of_ne _ notLast.symm _).trans (others j other)
    · rw [direction?, sprite_pointed_of_ne _ (Ne.symm last)]
      exact own
    · cases result.symm.trans h
      obtain ⟨u, hu⟩ := direction?_of_reduced? reduced
      exact ⟨direction?_pointed (latest ▸ hu) _, log⟩
    · cases result.symm.trans h

/-- A block that turns its sprite by `k` degrees to the right is run. It has taken its arguments in `w'`. -/
def World.TakesTurn (w : World) (p : Player) (me : Nat) (flag : Value) (k : Int) (w' : World) : Prop :=
  ∃ name opcode b, ∃ args : Arguments, ∃ degrees, w.Meets me flag name b ∧ b.opcode? = .ok (.text opcode) ∧
    (w.sprite me).hides opcode = false ∧ 0 < w.fuel ∧
    ((Arguments.eval me flag).perform p).play (w.enter name opcode) = (.ok args, w') ∧
    args.need "DEGREES" = .ok degrees ∧
    (opcode = "motion_turnright" ∧ k = degrees.asInt ∨ opcode = "motion_turnleft" ∧ k = -degrees.asInt)

theorem World.TakesTurn.run {k d : Int} (h : w.TakesTurn p me flag k w')
    (own : w'.direction? me = .ok (Value.int d)) : (runWith p me flag false).play w =
      (contain flag (do Motion.reduceLast; return .null)).play (w'.pointed me (Value.int (d + k))) := by
  obtain ⟨name, opcode, b, args, degrees, meets, hop, free, fuel, taken, need, turns⟩ := h
  have turned : ∀ {op : Number → Number → Except Fault Number},
      op (.int d) (.int degrees.asInt) = .ok (.int (d + k)) →
      ((do
        let args ← Arguments.eval me flag
        Motion.turn op me (← args.need "DEGREES")
        return .null : Act Value).perform p).play (w.enter name opcode) =
          (do Motion.reduceLast; return .null : Run Value).play (w'.pointed me (Value.int (d + k))) := by
    intro op new
    rw [Act.play_bind_ok taken, need, Act.lift_ok_bind, Act.perform_bind, play_bind,
      Motion.turn_play own new, ← play_bind]
    rfl
  have acts : ∃ op : Opcode, Member.ofName? (w.sprite me) opcode = some (.block op) ∧
      ((op.act me flag).perform p).play (w.enter name opcode) =
        (do Motion.reduceLast; return .null : Run Value).play (w'.pointed me (Value.int (d + k))) := by
    rcases turns with ⟨rfl, rfl⟩ | ⟨rfl, rfl⟩
    · exact ⟨.motion .turnRight, (Member.ofName?_of_free free (by decide)).trans rfl, turned rfl⟩
    · exact ⟨.motion .turnLeft, (Member.ofName?_of_free free (by decide)).trans rfl, turned rfl⟩
  obtain ⟨op, member, acted⟩ := acts
  rw [runWith_enters p meets hop member (by omega), contain_play, contain_play, acted]

theorem World.TakesTurn.path {depth : Nat} {k : Int} (orderly : w.Orderly False)
    (h : w.TakesTurn (player depth) me flag k w') : w.Path False w' := by
  obtain ⟨name, opcode, b, args, degrees, meets, -, -, -, taken, -, -⟩ := h
  have entered : w.Goes False (w.enter name opcode) := .enter w meets.running name opcode
  have path : (w.enter name opcode).Path False (((Arguments.eval me flag).perform (player depth)).play _).2 :=
    (((entered.orderly orderly).stays_within (unfolds_player depth) me
      (TakesWithin.of_asked fun _ => .of_asked)).always (w.enter name opcode) .refl).path
  rw [taken] at path
  exact (Relation.ReflTransGen.single entered).trans path

namespace Session

variable {archive : Archive} {host : Host} {w0 : World}

/-- A project whose prototypes are written in literals and whose opcodes name no attributes of all objects, in
any world that a session makes of it. A block that turns a sprite never changes the direction of a third sprite.
That of the sprite loaded last becomes the sum, reduced. Any other sprite is left with the sum as it is; then
the direction of the last sprite is reduced, or the block is given up since that one has none. -/
theorem turns_reduce_last (loads : archive.Loads host w0)
    (distinct : ∀ s ∈ w0.sprites, s.fields.keys.Nodup) (literal : w0.Literal) (named : w0.Named) :
    (∀ steps answers, (∀ step ∈ steps, step.Scripted) → play host archive steps = .ok answers →
      ∀ a ∈ answers, Course False w0 a.world) ∧
    ∀ w, Course False w0 w → (∀ w', Does w w' → Course False w0 w') ∧
      ∀ depth me flag k w' d, w.TakesTurn (player depth) me flag k w' →
        w'.direction? me = .ok (Value.int d) →
        ∃ w1, (runWith (player depth) me flag false).play w = (.ok .null, w1) ∧
          w'.Turned me (w0.sprites.length - 1) flag (d + k) w1 := by
  have orderly : w0.Orderly False := Load.orderly_project loads distinct literal fun _ => named
  have loaded := Load.latest_project archive host
  rw [loads] at loaded
  refine ⟨fun steps answers scripted played => (gives_play loads orderly scripted played).course orderly,
    fun w course => ⟨fun w' does => course.trans (Course.of_path (does.path (course.orderly orderly))), ?_⟩⟩
  intro depth me flag k w' d turns own
  have latest : w'.latest = w0.sprites.length - 1 :=
    (turns.path (course.orderly orderly)).latest.trans (course.latest.trans loaded)
  rw [turns.run own, ← latest]
  exact Motion.turned_reduceLast flag own

/-! ## A compass, and two that point the wrong way -/

/-- A block with the degrees written in it. -/
def turnBlock (opcode text : String) : Table Block := [("t", .plain opcode [("DEGREES", .literal text)])]

theorem takesTurn_literal {name opcode text : String} {b : Block} {k : Int} (meets : w.Meets me flag name b)
    (hb : b = .plain opcode [("DEGREES", .literal text)]) (free : (w.sprite me).hides opcode = false)
    (fuel : 0 < w.fuel) (turns : opcode = "motion_turnright" ∧ k = (Value.text text).asInt ∨
      opcode = "motion_turnleft" ∧ k = -(Value.text text).asInt) :
    w.TakesTurn p me flag k (w.enter name opcode) := by
  have key : Text.upper "DEGREES" = "DEGREES" := by decide +kernel
  have gives : b.Gives [("DEGREES", .text text)] [] :=
    hb ▸ Block.plain_gives (.cons ⟨.constant (.text text), rfl, rfl, key⟩ .nil)
  obtain ⟨args, taken, found, -⟩ := Arguments.eval_given (w := w.enter name opcode) meets.flag_ne_null
    meets.found gives (List.nodup_singleton _)
  refine ⟨name, opcode, b, args, .text text, meets, hb ▸ rfl, free, fuel, taken p, ?_, turns⟩
  rw [Arguments.need, found _ (.head _)]

/-- A cat that turns to the right, and a dog, loaded last, that turns to the left. -/
def compass : Archive := .ofTargets [
  Archive.target "Stage" true [] [] [],
  Archive.target "Cat" false [] [] (turnBlock "motion_turnright" "350") [("direction", Value.int 90)],
  Archive.target "Dog" false [] [] (turnBlock "motion_turnleft" "100") [("direction", Value.int 450)]]

/-- The dog comes to 350 degrees. The cat is left with 440, and the dog is turned in its place. -/
theorem turns_reduce_last_compass : let w0 := compass.world
    ((∀ s ∈ w0.sprites, s.fields.keys.Nodup) ∧ w0.Literal ∧ w0.Named) ∧
      (∃ w1, (runWith (player 9) 2 (.text "t") false).play w0 = (.ok .null, w1) ∧
        w1.direction? 2 = .ok (Value.int 350) ∧ w1.sprite 1 = w0.sprite 1) ∧
      ∃ w1, (runWith (player 9) 1 (.text "t") false).play w0 = (.ok .null, w1) ∧
        w1.direction? 1 = .ok (Value.int 440) ∧ w1.direction? 2 = .ok (Value.int 90) := by
  intro w0
  have loads : compass.Loads {} w0 := Prod.ext rfl rfl
  have distinct : ∀ s ∈ w0.sprites, s.fields.keys.Nodup := by decide +kernel
  have bare : w0.Literal ∧ w0.Named := World.named_of_bare (by decide +kernel)
  obtain ⟨-, turns⟩ := turns_reduce_last loads distinct bare.1 bare.2
  obtain ⟨-, turns⟩ := turns w0 .refl
  have dog : w0.TakesTurn (player 9) 2 (.text "t") (-100) (w0.enter "Dog" "motion_turnleft") :=
    takesTurn_literal ⟨rfl, rfl, rfl⟩ rfl rfl (by decide) (.inr ⟨rfl, by decide⟩)
  have cat : w0.TakesTurn (player 9) 1 (.text "t") 350 (w0.enter "Cat" "motion_turnright") :=
    takesTurn_literal ⟨rfl, rfl, rfl⟩ rfl rfl (by decide) (.inl ⟨rfl, by decide⟩)
  obtain ⟨w1, ran, turned⟩ := turns 9 2 (.text "t") _ _ 450 dog rfl
  obtain ⟨w2, ran', turned'⟩ := turns 9 1 (.text "t") _ _ 90 cat rfl
  refine ⟨⟨distinct, bare⟩, ⟨w1, ran, (turned.own rfl).1, turned.others 1 (by decide) (by decide)⟩,
    w2, ran', turned'.unreduced (by decide), (turned'.reduced (by decide) _ rfl).1⟩

/-- A sprite that turns is left with more than a full turn, another one is turned in its place, and where the
stage is loaded last the block fails. -/
theorem turns_are_not_reduced :
    let cat := Archive.target "Cat" false [] [] (turnBlock "motion_turnright" "350") [("direction", Value.int 90)]
    let dog := Archive.target "Dog" false [] [] [] [("direction", Value.int 450)]
    let stage := Archive.target "Stage" true [] [] []
    let w := ((runBlock 0 (.text "t")).play (Archive.ofTargets [cat, dog]).world).2
    let w' := ((runBlock 0 (.text "t")).play (Archive.ofTargets [cat, stage]).world).2
    (w.direction? 0).map Value.whole? = .ok (some 440) ∧ (w.direction? 1).map Value.whole? = .ok (some 90) ∧
      (w'.direction? 0).map Value.whole? = .ok (some 440) ∧
      w'.log.toList.getLast? = some (.blockFailed "t" .missingMember) := by
  decide +kernel

end Session

end BlockStage
