import BlockStage.Proofs.Custom.Calls

/-!
# Parameters after a call

A call binds its arguments for the script that makes it, and nothing is taken back when it is over. So a
parameter then reads what it read at the end of the body: `argument_after_call`.
-/

namespace BlockStage

open Run World

/-! ## Reading a parameter -/

/-- Block `a` of a sprite reads a parameter, and can be run. -/
structure World.Asks (w : World) (me : Nat) (a : Value) (x : String) : Prop where
  met : ∃ name b, w.Meets me a name b ∧ b.opcode? = .ok (.text "argument_reporter_string_number") ∧
    b.Holds [] [("VALUE", .text x)]
  free : (w.sprite me).hides "argument_reporter_string_number" = false
  fuelled : 0 < w.fuel

/-- A block that reads a parameter answers what the script has bound last to its name, or nothing. -/
theorem runWith_argument (p : Player) {w : World} {me : Nat} {a : Value} {x : String}
    (asks : w.Asks me a x) : ((runWith p me a false).play w).1 =
      .ok (((w.sprite me).argument? w.current (.text x)).toOption.getD .null) := by
  obtain ⟨name, b, meets, hop, holds⟩ := asks.met
  have means : Member.ofName? (w.sprite me) "argument_reporter_string_number" =
      some (.block (.custom .argument)) := by
    rw [Member.ofName?_of_free asks.free (by decide)]
    rfl
  let w1 := w.enter name "argument_reporter_string_number"
  have taken : ((Arguments.eval me a).perform p).play w1 = (.ok [("VALUE", .text x)], w1) := by
    rw [Arguments.eval_play p meets.flag_ne_null (show w1.block? me a = .ok b from meets.found) holds]
    rfl
  have acts : (((Opcode.custom .argument).act me a).perform p).play w1 =
      (((w.sprite me).argument? w.current (.text x)).mapError (.fault ·), w1) := by
    show ((Custom.act me a .argument).perform p).play w1 = _
    unfold Custom.act
    rw [Act.play_bind_ok taken,
      show Arguments.need [("VALUE", .text x)] "VALUE" = .ok (.text x) from rfl, Act.lift_ok_bind,
      Act.play_look_bind, Act.perform_lift]
    show (liftM ((w.sprite me).argument? w.current (.text x)) : Run Value).play w1 = _
    cases (w.sprite me).argument? w.current (.text x) <;> rfl
  rw [runWith_enters p meets hop means asks.fuelled, contain_play, acts]
  cases read : (w.sprite me).argument? w.current (.text x) with
  | ok v => rfl
  | error f => rfl

/-! ## Parameters after a call -/

theorem Custom.leaves_bindings {r : Run Value} {m : Expression.Memory} {w w' : World}
    {e : Except Stop Value} (h : (r >>= fun _ => leave m).play w = (e, w')) :
    w'.sprites = (r.play w).2.sprites ∧ w'.current = (r.play w).2.current := by
  rcases ran : r.play w with ⟨stop | v, w1⟩
  · rw [play_bind_error ran] at h
    cases h
    exact ⟨rfl, rfl⟩
  · rw [play_bind_ok ran] at h
    cases h
    exact ⟨rfl, rfl⟩

/-- There are no frames. The body of a call starts in the world in which the arguments are bound for the script
that calls: every parameter that the call gives reads the value that is given. Once the call has come back,
every name reads what it read at the end of the body, whatever it read before the call. -/
theorem argument_after_call (depth : Nat) {me : Nat} {flag : Value} {code : String} {w w1 : World}
    {args : Arguments} {before : List CustomBlock} {last : CustomBlock}
    (defines : w1.Defines me (before ++ [last]))
    (calls : w.Calls (player (depth + 1)) me flag code args w1) : ∃ w2 n,
      w1.Bound me last.prototype last.ids last.names (Custom.bound last.byId args) w2 ∧
      (∀ thread x, (w2.sprite me).argument? thread (.text x) =
        match (if w1.current = thread then Table.get? (Table.ofPairs (Custom.bound last.byId args)) x
          else none) with
        | some v => .ok v
        | none => (w1.sprite me).argument? thread (.text x)) ∧
      ∀ v w', (runWith (player (depth + 1)) me flag false).play w = (.ok v, w') →
        let w3 := ((Custom.body (player (depth + 1)) me last.definition last.byId args n).play w2).2
        (∀ thread x, (w'.sprite me).argument? thread (.text x) =
          (w3.sprite me).argument? thread (.text x)) ∧
        ∀ p a x, w'.Asks me a x → ((runWith p me a false).play w').1 =
          .ok (((w3.sprite me).argument? w3.current (.text x)).toOption.getD .null) := by
  have hlast : last ∈ before ++ [last] := List.mem_append_right _ (.head _)
  have offers := defines.offers hlast
  obtain ⟨w2, m, n, ⟨bound, -⟩, runs⟩ := runWith_call calls defines.prototype?
    (defines.definition? hlast) offers
  refine ⟨w2, n, bound, bound.argument? offers (Custom.isSimple_bound calls.simple), fun v w' came => ?_⟩
  intro w3
  have left : w'.sprites = w3.sprites ∧ w'.current = w3.current := by
    rw [runs] at came
    rcases contain_eq_ok came with ended | ⟨f, w4, failed, -, -, rfl⟩
    · exact Custom.leaves_bindings ended
    · have same := Custom.leaves_bindings failed
      exact same
  have sprite : w'.sprite me = w3.sprite me := by
    rw [World.sprite, World.sprite, left.1]
  refine ⟨fun thread x => by rw [sprite], fun p a x asks => ?_⟩
  rw [runWith_argument p asks, sprite, left.2]

/-! ## A custom block that calls itself -/

def again : CustomBlock := ⟨"p", "d", "f %s", ["A"], ["n"]⟩

/-- An input that a block fills, in place of an empty text. -/
def Value.filled (id : String) : Value :=
  .list [Value.int 3, .text id, .list [Value.int 10, .text ""]]

/-- Where its argument is one, it calls itself with two; then it says its argument. -/
def callsItself : Table Block :=
  again.blocks "[\"A\"]" "[\"n\"]" (.text "i") ++ [
    ("i", .plain "control_if" [("CONDITION", .slot "e"), ("SUBSTACK", .slot "r")] (.text "t")),
    ("e", .plain "operator_equals" [("OPERAND1", .filled "a"), ("OPERAND2", .literal "1")]),
    ("a", ⟨[("opcode", .text "argument_reporter_string_number"), ("next", .null), ("inputs", .record []),
      ("fields", .record [("VALUE", .list [.text "n", .null])])]⟩),
    ("r", .call again.code [("A", .literal "2")]),
    ("t", .plain "looks_say" [("MESSAGE", .filled "a")]),
    ("c", .call again.code [("A", .literal "1")])]

def inCall : World :=
  (World.ofBlocks callsItself).updateSprite 0 fun s => { s with arguments := [⟨0, .text "n", .text "1"⟩] }

theorem argument_after_call_again : let w1 := inCall.enter "Cat" "procedures_call"
    let args : Arguments := [("A", .text "2")]
    (w1.Defines 0 ([] ++ [again]) ∧ inCall.Calls (player 8) 0 (.text "r") again.code args w1) ∧
    ∃ w2 n, w1.Bound 0 again.prototype again.ids again.names (Custom.bound again.byId args) w2 ∧
      (∀ thread x, (w2.sprite 0).argument? thread (.text x) =
        match (if w1.current = thread then Table.get? (Table.ofPairs (Custom.bound again.byId args)) x
          else none) with
        | some v => .ok v
        | none => (w1.sprite 0).argument? thread (.text x)) ∧
      ∀ v w', (runWith (player 8) 0 (.text "r") false).play inCall = (.ok v, w') →
        let w3 := ((Custom.body (player 8) 0 again.definition again.byId args n).play w2).2
        (∀ thread x, (w'.sprite 0).argument? thread (.text x) =
          (w3.sprite 0).argument? thread (.text x)) ∧
        ∀ p a x, w'.Asks 0 a x → ((runWith p 0 a false).play w').1 =
          .ok (((w3.sprite 0).argument? w3.current (.text x)).toOption.getD .null) := by
  have ids : Expression.Writes "[\"A\"]" ["A"] := rfl
  have names : Expression.Writes "[\"n\"]" ["n"] := rfl
  have defines : (inCall.enter "Cat" "procedures_call").Defines 0 ([] ++ [again]) := {
    blocks := rfl
    bindings := rfl
    plain := List.forall_mem_singleton.2 ⟨⟨"n", rfl⟩, rfl⟩
    distinct := by decide
    prototypes := rfl
    definitions := List.forall_mem_singleton.2 rfl
    declared := List.forall_mem_singleton.2
      ⟨_, _, rfl, rfl, rfl, again.declares rfl ids names (by decide)⟩
    codes := by decide }
  have calls : inCall.Calls (player 8) 0 (.text "r") again.code [("A", .text "2")]
      (inCall.enter "Cat" "procedures_call") := {
    met := ⟨"Cat", _, ⟨rfl, rfl, rfl⟩, rfl, rfl⟩
    free := rfl
    fuelled := by decide
    coded := ⟨_, _, rfl, rfl, rfl⟩
    able := rfl
    simple := List.forall_mem_singleton.2 rfl }
  exact ⟨⟨defines, calls⟩, argument_after_call 7 defines calls⟩

def Run.text? (r : Run Value) (w : World) : Option String :=
  match (r.play w).1 with
  | .ok (.text s) => some s
  | _ => none

/-- The parameter reads one before the custom block calls itself, and two once that call has come back. So
what is said in the end is two. -/
theorem callsItself_reads_two : (runBlock 0 (.text "a") false).text? inCall = some "1" ∧
    (runBlock 0 (.text "a") false).text? ((runBlock 0 (.text "r") false).play inCall).2 = some "2" ∧
    (Table.get? ((((runBlock 0 (.text "c")).play (World.ofBlocks callsItself)).2).sprite 0).fields
      Sprite.wordsKey).map Value.asText = some "2" := by
  decide +kernel

end BlockStage
