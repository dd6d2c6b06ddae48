import BlockStage.Proofs.Run.Acts

/-!
# What blocks do not look at

No block looks at how much fuel is left, but for one that waits. `Act.veil` lets an act look at worlds without
fuel only, and `Opcode.veil_act` says that this changes nothing of what a block does.
-/

namespace BlockStage

namespace World

def withFuel (w : World) (fuel : Int) : World := { w with fuel := fuel }

variable (w : World) (fuel : Int) (i : Nat) (id : Value)

@[simp] theorem withFuel_sprite : (w.withFuel fuel).sprite i = w.sprite i := rfl

@[simp] theorem withFuel_host : (w.withFuel fuel).host = w.host := rfl

@[simp] theorem withFuel_keys : (w.withFuel fuel).keys = w.keys := rfl

@[simp] theorem withFuel_latest : (w.withFuel fuel).latest = w.latest := rfl

@[simp] theorem withFuel_monitors : (w.withFuel fuel).monitors = w.monitors := rfl

@[simp] theorem withFuel_current : (w.withFuel fuel).current = w.current := rfl

@[simp] theorem withFuel_stage? : (w.withFuel fuel).stage? = w.stage? := rfl

@[simp] theorem withFuel_block? : (w.withFuel fuel).block? i id = w.block? i id := rfl

@[simp] theorem withFuel_blocks? : (w.withFuel fuel).blocks? i = w.blocks? i := rfl

@[simp] theorem withFuel_listId? : (w.withFuel fuel).listId? i id = w.listId? i id := rfl

@[simp] theorem withFuel_named? : (w.withFuel fuel).named? id = w.named? id :=
  named?_congr w (w.withFuel fuel) rfl (fun _ => rfl) id

@[simp] theorem withFuel_visible? (part : DataKind) : (w.withFuel fuel).visible? i part id = w.visible? i part id := rfl

@[simp] theorem withFuel_variableValue? : (w.withFuel fuel).variableValue? i id = w.variableValue? i id := rfl

@[simp] theorem withFuel_list? : (w.withFuel fuel).list? i id = w.list? i id := rfl

end World

/-! ## Acts that do not see the fuel -/

namespace Act

variable {α β : Type}

/-- What an act does that sees each world it looks at without its fuel. -/
def veil : Act α → Act α
  | .ask .look k => .ask .look fun w => (k (w.withFuel 0)).veil
  | .ask r k => .ask r fun a => (k a).veil
  | act => act

@[simp] theorem veil_look : Act.look.veil = (World.withFuel · 0) <$> Act.look := rfl

@[simp] theorem veil_bind (act : Act α) (k : α → Act β) :
    (act >>= k).veil = act.veil >>= fun a => (k a).veil := by
  induction act with
  | ask r f ih =>
    cases r with
    | look => exact congrArg (Act.ask .look) (funext fun w : World => ih (w.withFuel 0))
    | _ => exact congrArg _ (funext ih)
  | _ => rfl

@[simp] theorem veil_ret (a : α) : (Act.ret a).veil = .ret a := rfl

@[simp] theorem veil_pure (a : α) : (pure a : Act α).veil = pure a := rfl

@[simp] theorem veil_throw (f : Fault) : (throw f : Act α).veil = throw f := rfl

@[simp] theorem veil_lift (e : Except Fault α) : (liftM e : Act α).veil = liftM e := by
  cases e <;> rfl

@[simp] theorem veil_map (f : α → β) (act : Act α) : (f <$> act).veil = f <$> act.veil := by
  rw [map_eq_pure_bind, veil_bind, map_eq_pure_bind]
  rfl

@[simp] theorem veil_ite (c : Prop) [Decidable c] (d e : Act α) :
    (if c then d else e).veil = if c then d.veil else e.veil := by
  by_cases h : c <;> simp [h]

@[simp] theorem veil_set (i : Nat) (a : Attribute) (v : Value) : (Act.set i a v).veil = Act.set i a v := rfl

@[simp] theorem veil_say (i : Nat) (words : String) : (Act.say i words).veil = Act.say i words := rfl

@[simp] theorem veil_chance : Act.chance.veil = Act.chance := rfl

@[simp] theorem veil_sleep (seconds : Float) : (Act.sleep seconds).veil = Act.sleep seconds := rfl

@[simp] theorem veil_run (i : Nat) (flag : Value) : (Act.run i flag).veil = Act.run i flag := rfl

@[simp] theorem veil_log (line : LogLine) : (Act.log line).veil = Act.log line := rfl

@[simp] theorem veil_record (call : Call) : (Act.record call).veil = Act.record call := rfl

@[simp] theorem veil_ask {r : Request} (other : r ≠ .look) (k : r.Reply → Act α) :
    (Act.ask r k).veil = .ask r fun a => (k a).veil := by
  cases r with
  | look => exact absurd rfl other
  | _ => rfl

@[simp] theorem veil_attr (i : Nat) (a : Attribute) : (Act.attr i a).veil = Act.attr i a := by
  simp [Act.attr]

@[simp] theorem veil_adjust (op : Number → Number → Except Fault Number) (i : Nat) (a : Attribute)
    (amount : Except Fault Value) : (Act.adjust op i a amount).veil = Act.adjust op i a amount := by
  simp [Act.adjust]

@[simp] theorem veil_change (i : Nat) (a : Attribute) (amount : Except Fault Value) :
    (Act.change i a amount).veil = Act.change i a amount :=
  veil_adjust _ i a amount

/-- Where the veil changes nothing, neither does the fuel. -/
theorem veiled_look {k : World → Act α} (h : (Act.ask .look k).veil = .ask .look k) (w : World) :
    (∀ fuel, k (w.withFuel fuel) = k w) ∧ (k w).veil = k w := by
  have seen : ∀ w : World, (k (w.withFuel 0)).veil = k w := congrFun (eq_of_heq (Act.ask.inj h).2)
  have same : ∀ fuel, k (w.withFuel fuel) = k w := fun fuel => (seen (w.withFuel fuel)).symm.trans (seen w)
  exact ⟨same, same 0 ▸ seen w⟩

end Act

/-! ## Blocks -/

section

variable (me : Nat) (flag : Value)

namespace Arguments

theorem veil_ofInputs (raw : List (String × Value)) (args : Arguments) :
    (ofInputs me raw args).veil = ofInputs me raw args := by
  have input : ∀ input, (ofInput me input).veil = ofInput me input := fun input => by
    cases input <;> simp [ofInput]
  induction raw generalizing args with
  | nil => rfl
  | cons p rest ih =>
    simp only [ofInputs, Act.veil_bind, Act.veil_lift, input]
    refine bind_congr fun input => bind_congr fun value => ?_
    cases value <;> exact ih _

@[simp] theorem veil_eval : (eval me flag).veil = eval me flag := by
  simp [eval, veil_ofInputs]

end Arguments

namespace Motion

@[simp] theorem veil_directionTo (x y : Value) : (directionTo me x y).veil = directionTo me x y := by
  simp [directionTo]

theorem veil_glideSteps (secs dx dy : Value) (n : Nat) :
    (glideSteps me secs dx dy n).veil = glideSteps me secs dx dy n := by
  induction n with
  | zero => rfl
  | succ n ih => simp [glideSteps, ih]

theorem veil_act (b : Motion) : (b.act me flag).veil = b.act me flag := by
  cases b with
  | goTo =>
    simp only [act, Act.veil_bind, Arguments.veil_eval, Act.veil_lift]
    refine bind_congr fun args => bind_congr fun place => ?_
    split <;> simp
  | goToMenu =>
    simp only [act, target, Act.veil_bind, Arguments.veil_eval, Act.veil_lift, Act.veil_ite, Act.veil_look,
      bind_map_left, World.withFuel_named?]
    refine bind_congr fun args => bind_congr fun goal => ite_congr rfl (fun _ => by simp) fun _ => ?_
    refine ite_congr rfl (fun _ => by simp [mousePlace]) fun _ => bind_congr fun w => bind_congr fun found => ?_
    split <;> simp
  | pointTowardsMenu =>
    simp only [act, directionFromMenu, Act.veil_bind, Arguments.veil_eval, Act.veil_lift, Act.veil_ite,
      Act.veil_look, bind_map_left, World.withFuel_named?]
    refine bind_congr fun args => bind_congr fun goal => ite_congr rfl (fun _ => ?_) fun _ =>
      ite_congr rfl (fun _ => by simp) fun _ => ?_
    all_goals
      refine bind_congr fun w => bind_congr fun found => ?_
      split <;> simp
  | _ => simp [act, moveBy, turn, glide, veil_glideSteps, setTo, bounce, mirror, overturn, shown]

end Motion

namespace Looks

theorem veil_switchTo (who : Nat) (name : Except Fault Value) :
    (switchTo who name).veil = switchTo who name := by
  simp only [switchTo, Act.veil_bind, Act.veil_look, bind_map_left, Act.veil_lift, World.withFuel_sprite]
  refine bind_congr fun w => bind_congr fun costumes => bind_congr fun items => bind_congr fun found => ?_
  cases found <;> rfl

theorem veil_act (b : Looks) : (b.act me flag).veil = b.act me flag := by
  cases b <;> simp [act, advance, veil_switchTo, numberOrName]

end Looks

theorem Operator.veil_act (op : Operator) : (op.act me flag).veil = op.act me flag := by
  cases h : op.rule? <;> simp [act, drawRandom, h]

namespace Sensing

theorem veil_touches (what : Value) : (touches me what).veil = touches me what := by
  simp only [touches, Act.veil_bind, Act.veil_look, bind_map_left, Act.veil_ite, Act.veil_lift,
    World.withFuel_named?, World.withFuel_sprite]
  refine bind_congr fun w => ite_congr rfl (fun _ => by simp [touchesMouse]) fun _ =>
    ite_congr rfl (fun _ => by simp) fun _ => bind_congr fun found => ?_
  split <;> simp [touchesSprite]

theorem veil_act (b : Sensing) : (b.act me flag).veil = b.act me flag := by
  cases b with
  | keyPressed | username =>
    simp only [act, Act.veil_bind, Arguments.veil_eval, Act.veil_look, bind_map_left, World.withFuel_keys,
      World.withFuel_host]
    refine bind_congr fun args => bind_congr fun w => ?_
    split <;> simp
  | distanceToMenu =>
    simp only [act, Act.veil_bind, Arguments.veil_eval, Act.veil_look, bind_map_left, Act.veil_lift, Act.veil_ite,
      World.withFuel_named?]
    refine bind_congr fun args => bind_congr fun what => bind_congr fun w => ite_congr rfl (fun _ => rfl) fun _ =>
      bind_congr fun found => ?_
    split <;> simp
  | distanceTo =>
    simp only [act, Act.veil_bind, Arguments.veil_eval, Act.veil_lift]
    refine bind_congr fun args => bind_congr fun goal => ?_
    unfold distance
    split <;> simp
  | _ => simp [act, veil_touches]

end Sensing

namespace Data

theorem veil_assign (id value : Value) : (assign me id value).veil = assign me id value := by
  simp only [assign, Act.veil_bind, Act.veil_look, bind_map_left, Act.veil_lift, World.withFuel_visible?]
  refine bind_congr fun w => bind_congr fun found => ?_
  split <;> rfl

theorem veil_findList (name : Value) : (findList me name).veil = findList me name := by
  simp only [findList, Act.veil_bind, Act.veil_look, bind_map_left, Act.veil_ite]
  refine bind_congr fun w => ite_congr rfl (fun _ => rfl) fun _ => ?_
  simp only [World.withFuel_listId?, World.withFuel_stage?, World.withFuel_list?]
  split
  · simp
  · simp only [Act.veil_bind, Act.veil_lift]
    refine bind_congr fun stage => ?_
    split <;> simp

theorem veil_showMonitors (id : Except Fault Value) (visible : Bool) (monitors : List Monitor) (n : Nat) :
    (showMonitors id visible monitors n).veil = showMonitors id visible monitors n := by
  induction monitors generalizing n with
  | nil => rfl
  | cons m rest ih => simp [showMonitors, ih]

theorem veil_onList (args : Arguments) (list : Found) (b : Data) :
    (onList args list b).veil = onList args list b := by
  have store : ∀ items, (store list items).veil = store list items := fun _ => rfl
  cases b with
  | replaceItemOfList =>
    simp only [onList, Act.veil_bind, Act.veil_lift]
    refine bind_congr fun item => ?_
    split <;> simp [store]
  | itemNumberOfList =>
    simp only [onList, Act.veil_bind, Act.veil_lift, Act.veil_ite, Act.veil_pure]
    refine bind_congr fun items => ite_congr rfl (fun _ => rfl) fun _ => bind_congr fun item => ?_
    split <;> rfl
  | _ => simp [onList, store]

theorem veil_act (b : Data) : (b.act me flag).veil = b.act me flag := by
  cases b <;> simp [act, veil_assign, veil_findList, veil_onList, veil_showMonitors]

end Data

namespace Control

theorem veil_rounds (body : Value) (n : Nat) : (rounds me body n).veil = rounds me body n := by
  induction n with
  | zero => rfl
  | succ n ih => simp [rounds, isDeleted, branch, ih]

theorem veil_startScripts (clone : Nat) (blocks : List (String × Block)) :
    (startScripts clone blocks).veil = startScripts clone blocks := by
  induction blocks with
  | nil => rfl
  | cons b rest ih => simp [startScripts, ih]

theorem veil_act {b : Control} (other : b ∉ loops) : (b.act me flag).veil = b.act me flag := by
  cases b with
  | waitUntil | forever => exact absurd (by decide) other
  | _ => simp [act, branch, Act.stop, veil_rounds, veil_startScripts]

end Control

theorem Opcode.veil_act {op : Opcode} (other : op ≠ .custom .call)
    (ends : ∀ c ∈ Control.loops, op ≠ .control c) : (op.act me flag).veil = op.act me flag := by
  cases op with
  | motion b => exact b.veil_act me flag
  | looks b => exact b.veil_act me flag
  | operator b => exact b.veil_act me flag
  | data b => exact b.veil_act me flag
  | control b => exact Control.veil_act me flag fun mem => ends b mem rfl
  | sensing b => exact b.veil_act me flag
  | custom b =>
    cases b with
    | call => exact absurd rfl other
    | argument => simp [act, Custom.act]
  | flagClicked => simp [act]

end

end BlockStage
