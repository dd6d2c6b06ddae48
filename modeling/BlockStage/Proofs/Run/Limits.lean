import BlockStage.Proofs.Run.Play

/-!
# What scripts use up

Whatever a script does, it only adds lines to the log, and it gets no fuel back. Where a script is killed, a
limit was reached. Every request is like this, and so is every script: `advances_player`.
-/

namespace BlockStage

def Limit.Reached (w : World) : Limit → Prop
  | .ticks => w.ticks ≤ 0
  | .fuel => w.fuel < 0

/-- A world and one that may come of it: the log has grown, and the fuel has not. -/
structure World.Before (w w' : World) : Prop where
  log : w.log.toList <+: w'.log.toList
  fuel : w'.fuel ≤ w.fuel
  current : w'.current = w.current := by rfl

/-- Writing to a place is putting something at its root, or nothing. -/
theorem World.write?_of_withRoot? {R : World → World → Prop} (refl : ∀ w, R w w)
    (put : ∀ {w w' root v}, w.withRoot? root v = some w' → R w w') (w : World) (r : Expression.Ref) (v : Value) :
    R w ((w.write? r v).getD w) := by
  cases h : w.write? r v with
  | none => exact refl w
  | some w' =>
    unfold World.write? at h
    split at h
    · exact put h
    · simp only [Option.bind_eq_bind, Option.bind_eq_some_iff] at h
      obtain ⟨_, _, _, _, h⟩ := h
      exact put h

namespace World.Before

variable {w w1 w2 : World}

theorem of_eq (log : w1.log = w.log) (fuel : w1.fuel = w.fuel) (current : w1.current = w.current := by rfl) :
    w.Before w1 :=
  ⟨log ▸ List.prefix_rfl, Int.le_of_eq fuel, current⟩

theorem refl (w : World) : w.Before w := .of_eq rfl rfl

theorem trans (h : w.Before w1) (h' : w1.Before w2) : w.Before w2 where
  log := h.log.trans h'.log
  fuel := Int.le_trans h'.fuel h.fuel
  current := h'.current.trans h.current

theorem pushLog (w : World) (line : LogLine) : w.Before { w with log := w.log.push line } :=
  .mk (by simp) (Int.le_refl _)

theorem record (w : World) (call : Call) : w.Before (w.record call) := by
  obtain ⟨calls, printed, noted⟩ := w.record_eq call
  rw [noted]
  exact .of_eq rfl rfl

theorem withRoot? {root : Expression.Root} {v : Value} (h : w.withRoot? root v = some w1) :
    w.Before w1 := by
  unfold World.withRoot? at h
  split at h
  case h_5 | h_6 | h_7 | h_8 =>
    simp only [Option.bind_eq_bind, Option.bind_eq_some_iff] at h
    obtain ⟨_, _, h⟩ := h
    cases h
    exact .of_eq rfl rfl
  all_goals cases h <;> exact .of_eq rfl rfl

theorem write? (w : World) (r : Expression.Ref) (v : Value) : w.Before ((w.write? r v).getD w) :=
  write?_of_withRoot? .refl .withRoot? w r v

end World.Before

namespace Run

variable {α β : Type}

/-- A run that only adds to the log and gets no fuel back. It is killed at a limit only. -/
structure Advances (r : Run α) : Prop where
  before : ∀ w : World, w.Before (r.play w).2
  killed : ∀ w why, (r.play w).1 = .error (.killed why) → why.Reached (r.play w).2

namespace Advances

theorem of_ok {r : Run α} (h : ∀ w, ∃ a w', r.play w = (.ok a, w') ∧ w.Before w') : r.Advances where
  before w := by
    obtain ⟨a, w', play, before⟩ := h w
    rw [play]
    exact before
  killed w why he := by
    obtain ⟨a, w', play, -⟩ := h w
    rw [play] at he
    cases he

theorem pure (a : α) : (pure a : Run α).Advances := of_ok fun w => ⟨a, w, rfl, .refl w⟩

theorem throw {e : Stop} (h : ∀ why, e ≠ .killed why) : (throw e : Run α).Advances where
  before := .refl
  killed _ why he := absurd (Except.error.inj he) (h why)

theorem get : (get : Run World).Advances := of_ok fun w => ⟨w, w, rfl, .refl w⟩

theorem lift (e : Except Fault α) : (liftM e : Run α).Advances where
  before w := by
    rw [play_lift]
    exact .refl w
  killed w why he := by
    rw [play_lift] at he
    cases e <;> cases he

theorem modify {f : World → World} (h : ∀ w : World, w.Before (f w)) : (modify f : Run Unit).Advances :=
  of_ok fun w => ⟨(), f w, rfl, h w⟩

theorem log (line : LogLine) : (log line).Advances :=
  of_ok fun w => ⟨(), _, rfl, .pushLog w line⟩

theorem bind {r : Run α} {f : α → Run β} (hr : r.Advances) (hf : ∀ a, (f a).Advances) :
    (r >>= f).Advances where
  before w := by
    have first := hr.before w
    rw [play_bind]
    rcases h : r.play w with ⟨e | a, w'⟩ <;> rw [h] at first
    · exact first
    · exact first.trans ((hf a).before w')
  killed w why := by
    have first := hr.killed w why
    rw [play_bind]
    rcases h : r.play w with ⟨e | a, w'⟩ <;> rw [h] at first
    · exact fun he => first (congrArg _ (Except.error.inj he))
    · exact (hf a).killed w' why

theorem attempt {r : Run α} (hr : r.Advances) : (attempt r).Advances where
  before w := attempt_world r w ▸ hr.before w
  killed w why := by
    have first := hr.killed w why
    rw [play_attempt]
    rcases h : r.play w with ⟨(f | _ | _) | _, w'⟩ <;> rw [h] at first
    · exact nofun
    · exact fun he => first (congrArg _ (Except.error.inj he))
    · exact nofun
    · exact nofun

end Advances

/-- Using something up kills the script when none is left. -/
theorem advances_spend {f : World → World} {P : World → Prop} [DecidablePred P] (why : Limit)
    (h : ∀ w : World, w.Before (f w)) (reached : ∀ w, P w → why.Reached w) : (do
      modify f
      if P (← get) then throw (.killed why) : Run Unit).Advances where
  before w := by
    rw [play_modify_bind, play_get_bind]
    split <;> exact h w
  killed w why' := by
    rw [play_modify_bind, play_get_bind]
    split
    · next hP =>
      intro he
      cases he
      exact reached (f w) hP
    · exact nofun

end Run

open Run

/-- Scripts are run in this way. -/
structure Player.Advances (p : Player) : Prop where
  run : ∀ me flag next, (p.run me flag next).Advances
  invoke : ∀ me name args, (p.invoke me name args).Advances

theorem Request.advances_perform {p : Player} (h : p.Advances) (r : Request) :
    (r.perform p).Advances := by
  cases r with
  | look => exact .get
  | log line => exact .log line
  | record call => exact .modify fun w => .record w call
  | print text => exact .modify fun w => by unfold World.print; exact .of_eq rfl rfl
  | write r v => exact .modify fun w => .write? w r v
  | make _ | copy _ | addClone _ | chance =>
    exact .bind .get fun w => .bind (.modify fun _ => .of_eq rfl rfl) fun _ => .pure _
  | resetTimer i =>
    exact .bind .get fun w => .bind (.lift _) fun _ => .modify fun _ => .of_eq rfl rfl
  | sleep seconds =>
    refine .bind .get fun w => .bind (.lift _) fun ms => .bind (.modify fun _ => .of_eq rfl rfl) fun _ => ?_
    exact .modify fun _ => .of_eq rfl rfl
  | tick => exact advances_spend .ticks (fun _ => .of_eq rfl rfl) fun _ h => h
  | run i flag => exact h.run i flag true
  | attempt i flag next => exact .attempt (h.run i flag next)
  | invoke i name args => exact .attempt (h.invoke i name args)
  | setVariable holder id text | setList holder id items =>
    exact .modify fun w => by cases holder <;> exact .of_eq rfl rfl
  | _ => exact .modify fun _ => .of_eq rfl rfl

theorem Act.advances_perform {α : Type} {p : Player} (h : p.Advances) (act : Act α) :
    (act.perform p).Advances := by
  induction act with
  | ret a => exact .pure a
  | fail f => exact .throw nofun
  | endless => exact .throw nofun
  | ask r k ih => exact .bind (r.advances_perform h) ih

theorem advances_enterBlock (sprite opcode : String) : (enterBlock sprite opcode).Advances := by
  refine .bind (.log _) fun _ => advances_spend .fuel (fun w => ?_) fun _ h => h
  exact .mk List.prefix_rfl (Int.sub_le_self w.fuel (by decide))

theorem advances_contain (flag : Value) {block : Run Value} (h : block.Advances) :
    (contain flag block).Advances where
  before w := by
    have first := h.before w
    rw [contain_play]
    rcases hb : block.play w with ⟨((f | _) | _ | _) | _, w'⟩ <;> rw [hb] at first
    · exact first.trans (.pushLog w' (.blockFailed flag.asText f))
    all_goals exact first
  killed w why he := by
    have failed := (contain_eq_error (Prod.ext he rfl)).1
    have reached := h.killed w why
    rw [failed] at reached
    exact reached rfl

theorem advances_actBlock {p : Player} (h : p.Advances) (me : Nat) (flag : Value) (opcode : String) :
    (actBlock p me flag opcode).Advances := by
  refine .bind .get fun w => ?_
  split
  · exact advances_contain flag (Act.advances_perform h _)
  · exact .bind (.log _) fun _ => advances_contain flag (.throw nofun)

theorem advances_walk {enter : Value → Run Value} (h : ∀ flag, (enter flag).Advances) (me n : Nat)
    (flag : Value) : (walk enter me n flag).Advances := by
  induction n generalizing flag with
  | zero =>
    rw [walk]
    split
    · exact .pure _
    · exact .throw nofun
  | succ n ih =>
    rw [walk]
    split
    · exact .pure _
    · refine .bind .get fun w => .bind (.lift _) fun deleted => ?_
      split
      · exact .pure _
      · exact .bind (h flag) fun _ => .bind .get fun w => .bind (.lift _) fun block => ih _

theorem advances_runWith {p : Player} (h : p.Advances) (me : Nat) (flag : Value) (next : Bool) :
    (runWith p me flag next).Advances := by
  refine .bind .get fun w => ?_
  split
  · exact .pure _
  · refine .bind (.lift _) fun v => .bind (.lift _) fun name => .bind (.lift _) fun block => ?_
    refine .bind (.lift _) fun opcode => .bind (.lift _) fun shown => ?_
    refine .bind (advances_enterBlock _ _) fun _ => ?_
    split
    · refine .bind (advances_actBlock h _ _ _) fun result => ?_
      split
      · refine .bind .get fun w => .bind (.lift _) fun block => ?_
        exact .bind (advances_walk (fun flag => h.run me flag false) _ _ _) fun _ => .pure _
      · exact .pure _
    · exact .throw nofun

theorem advances_player (depth : Nat) : (player depth).Advances := by
  induction depth with
  | zero => exact ⟨fun _ _ _ => .throw nofun, fun _ _ _ => .throw nofun⟩
  | succ depth ih =>
    refine ⟨fun me flag next => advances_runWith ih me flag next, fun me name args => ?_⟩
    refine .bind .get fun w => ?_
    split
    · exact Act.advances_perform ih _
    · exact .throw nofun

end BlockStage
