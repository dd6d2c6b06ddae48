import BlockStage.Proofs.Run.Unfolding
import BlockStage.Proofs.Script.Chain

/-!
# Loops that outlast the program

Once the program is to end, no block is entered any more, and a script that is under way comes back by itself.
Two blocks do not: a loop without an end looks only whether its clone is deleted, and a wait looks only at
its condition, which is not run then and so never holds.

`Footing.Returns` says of a run that it comes back, unless one of these blocks was entered. Every script
does, by induction on the depth to which scripts nest: `Footing.returns_player`.
-/

namespace BlockStage

open Act Run

variable {b : Block} {w0 : World}

variable {w w1 w' : World} {me : Nat} {flag : Value}

/-! ## Loops without an end -/

namespace Control

variable {p : Player} {n : Nat}

theorem endlessRounds_ok (h : ((endlessRounds me flag n).perform p).play w = (.ok (), w')) :
    (w'.sprite me).hasMode? .deleted = .ok true := by
  induction n generalizing w with
  | zero => cases h
  | succ n ih =>
    simp only [endlessRounds, isDeleted, Act.perform_bind, Act.perform_look, Act.perform_lift,
      bind_assoc] at h
    rw [play_get_bind] at h
    cases hmode : (w.sprite me).hasMode? .deleted with
    | error f => rw [hmode] at h; cases h
    | ok deleted =>
      rw [hmode, Run.lift_ok_bind] at h
      cases deleted with
      | true =>
        cases h
        exact hmode
      | false =>
        simp only [Bool.false_eq_true, if_false, Act.perform_bind, Act.perform_look,
          Act.perform_lift] at h
        -- The block and its branch are looked up, the branch is run, and the round takes a tick.
        iterate 5 obtain ⟨_, _, -, h⟩ := play_bind_eq_ok h
        exact ih h

theorem endlessRounds_alive {body : Value}
    (alive : (w.sprite me).hasMode? .deleted = .ok false) (hb : w.block? me flag = .ok b)
    (hbody : b.branch? "SUBSTACK" = .ok body) : ((endlessRounds me flag (n + 1)).perform p).play w = (do
      let _ ← p.run me body true
      Request.tick.perform p
      (endlessRounds me flag n).perform p).play w := by
  have ticks : Act.tick.perform p = Request.tick.perform p := bind_pure _
  simp only [endlessRounds, isDeleted, Act.perform_bind, Act.perform_look, Act.perform_lift, bind_assoc]
  rw [play_get_bind, alive, Run.lift_ok_bind]
  simp only [Bool.false_eq_true, if_false, Act.perform_bind, Act.perform_look, Act.perform_lift, ticks,
    branch_perform]
  rw [play_get_bind, hb, Run.lift_ok_bind, hbody, Run.lift_ok_bind]
  simp only [bind_assoc, pure_bind]

/-- Once the program is to end, it goes round until its ticks are used up. -/
theorem endlessRounds_done {body : Value} {depth : Nat} (done : w.done = true)
    (alive : (w.sprite me).hasMode? .deleted = .ok false) (hb : w.block? me flag = .ok b)
    (hbody : b.branch? "SUBSTACK" = .ok body) (room : w.ticks.toNat < n) :
    ((endlessRounds me flag n).perform (player (depth + 1))).play w =
      (.error (.killed .ticks), { w with ticks := min (w.ticks - 1) 0 }) := by
  induction n generalizing w with
  | zero => omega
  | succ n ih =>
    have idle : ((player (depth + 1)).run me body true).play w = (.ok .null, w) :=
      runWith_idle (player depth) me true (.inl done)
    rw [endlessRounds_alive alive hb hbody, play_bind_ok idle]
    by_cases last : w.ticks - 1 ≤ 0
    · have killed : (Request.tick.perform (player (depth + 1))).play w =
          (.error (.killed .ticks), { w with ticks := w.ticks - 1 }) := by
        rw [Request.perform, play_modify_bind, play_get_bind, if_pos last]
        rfl
      rw [play_bind_error killed, Int.min_eq_left last]
    · have ticks : (Request.tick.perform (player (depth + 1))).play w =
          (.ok (), { w with ticks := w.ticks - 1 }) := by
        rw [Request.perform, play_modify_bind, play_get_bind, if_neg last]
        rfl
      rw [play_bind_ok ticks, ih (w := { w with ticks := w.ticks - 1 }) done alive hb
        (show (w.ticks - 1).toNat < n by omega)]
      show (_, { w with ticks := min (w.ticks - 1 - 1) 0 }) = _
      rw [Int.min_eq_right (by omega), Int.min_eq_right (by omega)]

theorem tests_done {depth : Nat} (done : w.done = true) (condition : Value) :
    ((tests me condition n).perform (player (depth + 1))).play w = (.error .endless, w) := by
  induction n with
  | zero => rfl
  | succ n ih =>
    have idle : ((player (depth + 1)).run me condition true).play w = (.ok .null, w) :=
      runWith_idle (player depth) me true (.inl done)
    simp only [tests, Act.perform_bind, Act.perform_run]
    rw [play_bind_ok idle]
    exact ih

end Control

/-! ## Scripts that come back -/

namespace World

/-- A loop without an end, or a wait, was entered since some world. -/
def Looped (w w' : World) : Prop :=
  ∃ lines, w'.log.toList = w.log.toList ++ lines ∧
    ∃ sprite, ∃ b ∈ Control.loops, .entered sprite b.name ∈ lines

theorem Looped.after (h : w1.Looped w') (before : w.Before w1) : w.Looped w' := by
  obtain ⟨lines, log, sprite, b, loop, mem⟩ := h
  obtain ⟨old, hold⟩ := before.log
  refine ⟨old ++ lines, by rw [log, ← hold, List.append_assoc], sprite, b, loop, ?_⟩
  exact List.mem_append_right old mem

theorem Looped.before (h : w.Looped w1) (before : w1.Before w') : w.Looped w' := by
  obtain ⟨lines, log, sprite, b, loop, mem⟩ := h
  obtain ⟨new, hnew⟩ := before.log
  refine ⟨lines ++ new, by rw [← hnew, log, List.append_assoc], sprite, b, loop, ?_⟩
  exact List.mem_append_left new mem

/-- A run that does not come back, although the program is to end, has entered a loop. -/
def Left {α : Type} (w : World) (out : Except Stop α × World) : Prop :=
  ∀ e, out.1 = .error e → (∃ f, e = .fault f) ∨ out.2.done = false ∨ w.Looped out.2

theorem Left.after {α : Type} {out : Except Stop α × World} (h : w1.Left out) (before : w.Before w1) :
    w.Left out := fun e he => (h e he).imp_right (.imp_right (·.after before))

theorem Left.ok {α : Type} (a : α) : w.Left (.ok a, w') := nofun

theorem Left.fault {α : Type} (f : Failure) : w.Left ((.error (.fault f) : Except Stop α), w') :=
  fun _ he => .inl ⟨f, (Except.error.inj he).symm⟩

/-- The blocks that come next from a block on are at an end after `n` of them. -/
def endsWithin (w : World) (me : Nat) : Nat → Value → Bool
  | 0, flag => flag.isNull
  | n + 1, flag => flag.isNull || (w.block? me flag).toOption.any fun b => w.endsWithin me n b.next

theorem endsWithin_mono {n m : Nat} (h : w.endsWithin me n flag = true) (le : n ≤ m) :
    w.endsWithin me m flag = true := by
  induction n generalizing flag m with
  | zero =>
    have hnull : flag.isNull = true := h
    cases m <;> simp [endsWithin, hnull]
  | succ n ih =>
    obtain ⟨m, rfl⟩ : ∃ k, m = k + 1 := ⟨m - 1, by omega⟩
    simp only [endsWithin, Bool.or_eq_true, Option.any_eq_true] at h ⊢
    exact h.imp_right fun ⟨b, found, ends⟩ => ⟨b, found, ih ends (by omega)⟩

theorem mem_of_block? (h : w.block? me flag = .ok b) : ∃ id, (id, b) ∈ w.blocks me := by
  obtain ⟨t, id, blocks, -, found⟩ := World.block?_eq_ok h
  refine ⟨id, ?_⟩
  rw [World.blocks, blocks]
  exact Table.mem_of_get? found

/-- No blocks of a sprite come after one another in a circle. -/
def ChainsEnd (w : World) (me : Nat) : Prop :=
  ∀ p ∈ w.blocks me, w.endsWithin me (w.blocks me).length p.2.next = true

instance (w : World) (me : Nat) : Decidable (w.ChainsEnd me) :=
  inferInstanceAs (Decidable (∀ p ∈ w.blocks me, w.endsWithin me (w.blocks me).length p.2.next = true))

end World

namespace Footing

variable {α β : Type} {c : Footing} {room : Nat} {r : Run α}

/-- A run that comes back once the program is to end, unless a loop without an end or a wait was entered.
There is less fuel than `room`. -/
def Returns (c : Footing) (room : Nat) (r : Run α) : Prop :=
  ∀ w, c.Holds w → w.fuel.toNat < room → w.Left (r.play w)

namespace Returns

theorem pure (a : α) : c.Returns room (pure a : Run α) := fun _ _ _ => .ok a

theorem bind {Q : α → Prop} {k : α → Run β} (hr : c.Returns room r)
    (keeps : ∀ {w w' a}, c.Holds w → r.play w = (.ok a, w') → c.Holds w' ∧ Q a) (advances : r.Advances)
    (hk : ∀ a, Q a → c.Returns room (k a)) : c.Returns room (r >>= k) := by
  intro w hw fuel
  have first := hr w hw fuel
  have before := advances.before w
  rw [play_bind]
  rcases h : r.play w with ⟨e | a, w'⟩ <;> rw [h] at first before
  · exact fun e' he => first e' (congrArg _ (Except.error.inj he))
  · obtain ⟨hw', ha⟩ := keeps hw h
    have less : w'.fuel ≤ w.fuel := before.fuel
    exact (hk a ha w' hw' (by omega)).after before

theorem attempt (h : c.Returns room r) : c.Returns room (attempt r) := by
  intro w hw fuel
  have first := h w hw fuel
  rw [play_attempt]
  rcases hr : r.play w with ⟨(f | why | _) | a, w'⟩ <;> rw [hr] at first
  · exact .ok _
  · exact fun e he => first e (congrArg _ (Except.error.inj he))
  · exact fun e he => first e (congrArg _ (Except.error.inj he))
  · exact .ok _

theorem contain {r : Run Value} (h : c.Returns room r) : c.Returns room (contain flag r) := by
  intro w hw fuel e he
  have first := h w hw fuel
  rw [(contain_eq_error (Prod.ext he rfl)).1] at first
  exact first e rfl

end Returns

/-! ## Acts -/

/-- How scripts are run that come back, as long as there is less fuel than `room`. -/
structure Resumes (c : Footing) (room : Nat) (p : Player) : Prop where
  trusts : c.Trusts p
  advances : p.Advances
  run : ∀ flag next, c.Returns room (p.run c.me flag next)

variable {p : Player} (hp : c.Resumes room p)

include hp

theorem returns_request {r : Request} (h : r.Ordinary ∨ r.Asked c.me) : c.Returns room (r.perform p) := by
  rcases h with ordinary | asked
  · intro w _ _ e he
    obtain ⟨f, hf⟩ := ordinary.mild p w he
    exact .inl ⟨f, hf⟩
  · cases r with
    | run i flag =>
      cases asked
      exact hp.run flag true
    | addClone _ | start _ _ | delete _ | stop => exact fun _ _ _ => .ok _
    | _ => exact asked.elim

theorem keeps_asked {r : Request} (h : r.Ordinary ∨ r.Asked c.me) :
    (r.perform p).Keeps c.Holds (r.Admits c.Holds) :=
  keeps_request hp.trusts (h.imp_right asks_of_asked)

theorem returns_within {Q : α → Prop} {act : Act α} (h : act.Within c.Holds (Request.Asked c.me) Q) :
    c.Returns room (act.perform p) := by
  induction act with
  | ret a => exact .pure a
  | fail f => exact fun _ _ _ => .fault f
  | endless => exact (h.elim id id).elim
  | ask r k ih =>
    exact .bind (returns_request hp h.1) (keeps_asked hp h.1).ok (r.advances_perform hp.advances)
      fun a ha => ih a (h.2 a ha)

theorem left_called {prototype : String} {bodies : Value → Prop} {r : Request}
    (h : (c.Holds w ∧ c.Notes prototype r) ∨ c.Body bodies w r) (fuel : w.fuel.toNat < room) :
    w.Left ((r.perform p).play w) := by
  cases r with
  | attempt i flag next =>
    obtain ⟨hw, rfl, -, rfl⟩ : c.Body bodies w (.attempt i flag next) := h.resolve_left fun h => h.2
    exact (hp.run flag true).attempt w hw fuel
  | look | bind _ _ _ _ | write _ _ => exact .ok _
  | _ => exact (h.elim And.right id).elim

theorem left_calls {prototype : String} {bodies : Value → Prop} {Q : Except Failure α → World → Prop}
    {B : World → Request → Prop} {act : Act α} (h : c.Calls p prototype Q B act w)
    (once : ∀ w r, B w r → c.Body bodies w r) (fuel : w.fuel.toNat < room) :
    w.Left ((act.perform p).play w) := by
  induction act generalizing w B with
  | ret a => exact .ok a
  | fail f => exact .fault f
  | endless => exact h.elim
  | ask r k ih =>
    have first := left_called hp (h.imp And.left fun b => once w r b.1) fuel
    have before := (r.advances_perform hp.advances).before w
    rw [Act.perform, play_bind]
    rcases hr : (r.perform p).play w with ⟨e | a, w'⟩ <;> rw [hr] at first before
    · exact fun e' he => first e' (congrArg _ (Except.error.inj he))
    · have less : w'.fuel ≤ w.fuel := before.fuel
      refine World.Left.after ?_ (show w.Before w' from before)
      rcases h with ⟨-, later⟩ | ⟨-, later⟩
      · exact ih a (later a w' hr) once (by omega)
      · exact ih a (later a w' hr) (fun _ _ never => never.elim) (by omega)

/-! ## Blocks -/

theorem returns_call : c.Returns room ((Custom.call.act c.me flag).perform p) := by
  have within : TakesWithin c.Holds (Request.Asked c.me) c.me flag := .of_asked fun _ h => h
  rw [Custom.perform_call]
  refine .bind (returns_within hp within) (keeps_perform (fun _ => keeps_asked hp) within).ok
    (Act.advances_perform hp.advances _) fun args _ w hw fuel => ?_
  rw [play_get_bind]
  cases called : Custom.callee? w c.me flag with
  | error f =>
    rw [play_bind_error (play_lift (.error f) w)]
    exact .fault f
  | ok callee =>
    rw [Run.lift_ok_bind]
    obtain ⟨-, prototype⟩ := Custom.callee?_eq_ok called
    rw [hw.blocks_eq] at prototype
    exact left_calls hp (calls_enter hp.trusts (hasPrototype hw prototype) args hw)
      (fun _ _ h => h) fuel

theorem returns_opcode {op : Opcode} (other : ∀ b ∈ Control.loops, op ≠ .control b) :
    c.Returns room ((op.act c.me flag).perform p) := by
  by_cases call : op = .custom .call
  · subst call
    exact returns_call hp
  · exact returns_within hp (Opcode.within_act (fun _ h => h) call fun b loop same =>
      absurd same (other b loop))

theorem returns_actBlock {opcode : String} (plain : opcode.toList.take 2 ≠ ['_', '_'])
    (other : ∀ b ∈ Control.loops, opcode ≠ b.name) : c.Returns room (actBlock p c.me flag opcode) := by
  intro w hw fuel
  unfold actBlock
  rw [play_get_bind]
  split
  · next member hm =>
    refine Returns.contain (r := (member.invoke c.me [flag]).perform p) ?_ w hw fuel
    rcases Member.ofName?_plain plain hm with simple | ⟨op, rfl, named⟩
    · exact returns_within hp (Member.within_simple simple _ _ _ _)
    · refine returns_opcode hp fun b loop same => ?_
      subst same
      exact other b loop (Control.eq_name_of_ofName? (Opcode.named_of_ofName? named))
  · have failing : c.Returns room (Run.log (.opcodeMissing opcode) >>= fun _ =>
        contain flag (throw (.fault (.error .unsetLocal)))) := by
      refine .bind (Q := fun _ => True) (fun _ _ _ => .ok ()) (fun hw play => ?_) (.log _) fun _ _ =>
        .contain fun _ _ _ => .fault _
      cases play
      exact ⟨hw.of_sprites rfl rfl, trivial⟩
    exact failing w hw fuel

/-! ## Scripts -/

omit hp in
theorem Holds.next_eq {b' : Block} (hw : c.Holds w) (hw' : c.Holds w') (hb : w.block? c.me flag = .ok b)
    (hb' : w'.block? c.me flag = .ok b') : b'.next = b.next := by
  obtain ⟨id, rfl, ho⟩ := hw.outline_of_block? hb
  obtain ⟨_, same, ho'⟩ := hw'.outline_of_block? hb'
  cases same
  have outline : b'.outline = b.outline := Option.some.inj (ho'.symm.trans ho)
  exact congrArg (fun o : Outline => o.next.getD .null) outline

/-- The blocks that come next are walked through to their end. -/
theorem returns_walk (hw0 : c.Holds w0) {n : Nat} (ends : w0.endsWithin c.me n flag = true) :
    c.Returns room (walk (fun f => p.run c.me f false) c.me n flag) := by
  induction n generalizing flag with
  | zero =>
    rw [walk_end _ _ _ (show flag.isNull = true from ends)]
    exact .pure true
  | succ n ih =>
    cases hnull : flag.isNull with
    | true =>
      rw [walk_end _ _ _ hnull]
      exact .pure true
    | false =>
      intro w hw fuel
      obtain ⟨deleted, hmode⟩ := hw.hasMode? .deleted
      cases deleted with
      | true =>
        rw [walk_deleted n hnull hmode]
        exact .ok false
      | false =>
        simp only [World.endsWithin, hnull, Bool.false_or, Option.any_eq_true] at ends
        obtain ⟨b0, found, ends⟩ := ends
        have hb0 : w0.block? c.me flag = .ok b0 := by
          rcases h : w0.block? c.me flag with f | b <;> rw [h] at found <;> cases found
          rfl
        rw [walk_enter n hnull hmode]
        refine Returns.bind (hp.run flag false) (hp.trusts.run flag false).ok (hp.advances.run _ _ _)
          (fun _ _ w hw fuel => ?_) w hw fuel
        rw [play_get_bind]
        obtain ⟨id, rfl, ho⟩ := hw0.outline_of_block? hb0
        obtain ⟨b, hb⟩ := hw.block?_of_flag (.inr ⟨id, rfl, by rw [ho]; rfl⟩) hnull
        rw [hb, Run.lift_ok_bind, hw0.next_eq hw hb0 hb]
        exact ih ends w hw fuel

omit hp in
theorem Holds.length_blocks (hw : c.Holds w) : (w.blocks c.me).length = c.blocks.length := by
  rw [hw.blocks_eq, ← hw.blocks]
  exact (List.length_map _).symm

theorem returns_goOn (hw0 : c.Holds w0) (ends : w0.ChainsEnd c.me)
    (hflag : Outline.IsFlag c.blocks flag) (hnull : flag.isNull = false) (result : Value) :
    c.Returns room (goOn p c.me flag result) := by
  intro w hw fuel
  obtain ⟨b0, hb0⟩ := hw0.block?_of_flag hflag hnull
  obtain ⟨b, hb⟩ := hw.block?_of_flag hflag hnull
  have ending : w0.endsWithin c.me (w.fuel.toNat + (w.blocks c.me).length + 2) b0.next = true := by
    obtain ⟨id, mem⟩ := World.mem_of_block? hb0
    refine World.endsWithin_mono (ends (id, b0) mem) ?_
    rw [hw.length_blocks, hw0.length_blocks]
    omega
  rw [goOn, play_get_bind, hb, Run.lift_ok_bind, hw0.next_eq hw hb0 hb]
  exact Returns.bind (Q := fun _ => True) (returns_walk hp hw0 ending)
    (fun hw play => ⟨(leads_walk hp.trusts _ (hw0.next hb0)).ok hw play, trivial⟩)
    (advances_walk (fun _ => hp.advances.run _ _ _) _ _ _) (fun _ _ => .pure _) w hw fuel

omit hp in
theorem advances_goOn (h : p.Advances) (flag result : Value) : (goOn p me flag result).Advances :=
  .bind .get fun _ => .bind (.lift _) fun _ =>
    .bind (advances_walk (fun flag => h.run me flag false) _ _ _) fun _ => .pure _

/-- A block that is entered takes one from the fuel, and so there is room for what it runs. -/
theorem returns_runWith (hw0 : c.Holds w0) (ends : w0.ChainsEnd c.me) (next : Bool) :
    c.Returns (room + 1) (runWith p c.me flag next) := by
  intro w hw fuel
  rcases runWith_cases p c.me flag next w with ⟨e, same⟩ | ⟨name, shown, b, running, hb, entered⟩
  · rw [same]
    cases e with
    | ok v => exact .ok v
    | error f => exact .fault f
  have before : w.Before (w.enter name shown) := by
    simpa only [enterBlock_play] using (advances_enterBlock name shown).before w
  by_cases left : w.fuel - 1 < 0
  · have killed : (enterBlock name shown).play w = (.error (.killed .fuel), w.enter name shown) := by
      rw [enterBlock_play, if_pos left]
    have same : (runWith p c.me flag next).play w = (.error (.killed .fuel), w.enter name shown) := by
      rcases entered with ⟨-, acts⟩ | fails
      · rw [acts, play_bind_error killed]
      · rw [fails, play_bind_error killed]
    rw [same]
    exact fun _ _ => .inr (.inl running)
  · have passed : (enterBlock name shown).play w = (.ok (), w.enter name shown) := by
      rw [enterBlock_play, if_neg left]
    rcases entered with ⟨hop, acts⟩ | fails
    · rw [acts, play_bind_ok passed]
      by_cases loop : ∃ b ∈ Control.loops, shown = b.name
      · -- Whatever becomes of a loop, that it was entered is noted.
        obtain ⟨b, loop, rfl⟩ := loop
        have noted : w.Looped (w.enter name b.name) :=
          ⟨[.entered name b.name], by simp [World.enter], name, b, loop, .head _⟩
        have goes : (actBlock p c.me flag b.name >>= fun result =>
            if next then goOn p c.me flag result else return result).Advances := by
          refine .bind (advances_actBlock hp.advances _ _ _) fun result => ?_
          cases next with
          | true => exact advances_goOn hp.advances flag result
          | false => exact .pure result
        exact fun _ _ => .inr (.inr (noted.before (goes.before _)))
      · obtain ⟨id, rfl, ho⟩ := hw.outline_of_block? hb
        obtain ⟨_, hop', plain⟩ := hw.opcode? hb
        cases hop.symm.trans hop'
        have hw1 : c.Holds (w.enter name shown) := hw.of_kept (.enter name shown)
        have less : (w.enter name shown).fuel.toNat < room := by
          show (w.fuel - 1).toNat < room
          omega
        refine World.Left.after ?_ before
        refine Returns.bind (Q := fun _ => True)
          (returns_actBlock hp plain fun b mem same => loop ⟨b, mem, same⟩)
          (fun hw play => ⟨(leads_actBlock hp.trusts plain).ok hw play, trivial⟩)
          (advances_actBlock hp.advances _ _ _) (fun result _ => ?_) _ hw1 less
        cases next with
        | true => exact returns_goOn hp hw0 ends (.inr ⟨id, rfl, by rw [ho]; rfl⟩) rfl result
        | false => exact .pure result
    · rw [fails, play_bind_ok passed]
      exact .fault _

omit hp in
/-- Every script comes back once the program is to end, unless a loop without an end or a wait was
entered. -/
theorem returns_player (hw0 : c.Holds w0) (ends : w0.ChainsEnd c.me) (depth : Nat) (flag : Value)
    (next : Bool) : c.Returns depth ((player depth).run c.me flag next) := by
  induction depth generalizing flag next with
  | zero => exact fun _ _ never => absurd never (Nat.not_lt_zero _)
  | succ depth ih =>
    have resumes : c.Resumes depth (player depth) := {
      trusts := c.trusts_player depth
      advances := advances_player depth
      run := ih }
    exact returns_runWith resumes hw0 ends next

end Footing

/-- Where the program is to end when a run is over, the run has come back by itself, or it has entered a loop
without an end or a wait. A loop without an end comes back only once its clone is deleted. Whenever it begins a
round while the program is to end, it goes on until its ticks are used up, and a wait tests its condition for
ever. -/
theorem World.Runnable.ends_unless_looping {w : World} {me : Nat} (h : w.Runnable me)
    (ends : w.ChainsEnd me) : (∀ flag next, w.HasFlag me flag →
      let out := (runBlock me flag next).play w
      out.2.done = true → (∃ v, out.1 = .ok v) ∨ w.Looped out.2) ∧
    (∀ p flag n w', ((Control.endlessRounds me flag n).perform p).play w = (.ok (), w') →
      (w'.sprite me).hasMode? .deleted = .ok true) ∧
    (w.done = true → ∀ depth,
      (∀ flag b body n, (w.sprite me).hasMode? .deleted = .ok false → w.block? me flag = .ok b →
        b.branch? "SUBSTACK" = .ok body → w.ticks.toNat < n →
          ((Control.endlessRounds me flag n).perform (player (depth + 1))).play w =
            (.error (.killed .ticks), { w with ticks := min (w.ticks - 1) 0 })) ∧
      ∀ condition n,
        ((Control.tests me condition n).perform (player (depth + 1))).play w = (.error .endless, w)) := by
  refine ⟨fun flag next hflag => ?_, fun p flag n w' => Control.endlessRounds_ok, fun done depth => ⟨?_, ?_⟩⟩
  · have never := (runBlock_contained h hflag next).1
    have left : w.Left ((runBlock me flag next).play w) := by
      obtain ⟨c, rfl, hw, -⟩ := h.footing
      rw [runBlock, play_get_bind]
      exact Footing.returns_player hw ends w.depth flag next w hw (by unfold World.depth; omega)
    generalize (runBlock me flag next).play w = out at never left
    obtain ⟨e | v, w'⟩ := out
    · intro _ done
      rcases left e rfl with ⟨f, rfl⟩ | running | looped
      · exact absurd rfl (never f)
      · cases running.symm.trans done
      · exact .inr looped
    · exact fun _ => .inl ⟨v, rfl⟩
  · exact fun flag b body n alive hb hbody room => Control.endlessRounds_done done alive hb hbody room
  · exact fun condition n => Control.tests_done done condition

/-! ## Loops around the end of a program -/

/-- A loop without an end and one with three rounds. The branch of both ends the program. -/
def endingLoops : Table Block := [
  ("f", .plain "control_forever" [("SUBSTACK", .slot "s")]),
  ("r", .plain "control_repeat" [("TIMES", .literal "3"), ("SUBSTACK", .slot "s")] (.text "x")),
  ("s", .plain "control_stop" []),
  ("x", .plain "looks_hide" [])]

/-- A program with these loops, which may be to end. -/
def loopingStage (done : Bool) : World := { World.ofBlocks endingLoops with done := done }

theorem loopingStage_runnable (done : Bool) : (loopingStage done).Runnable 0 :=
  (World.Scripted.of_all ⟨"Cat", rfl⟩ ⟨_, rfl⟩ rfl rfl rfl).runnable rfl

/-- The loop with three rounds comes back. The one without an end does not, if the program is to end when
it begins a round. -/
theorem ends_unless_looping_endingLoops : let out := (runBlock 0 (.text "r")).play (loopingStage false)
    ((loopingStage false).Runnable 0 ∧ (loopingStage false).ChainsEnd 0 ∧
      (loopingStage false).HasFlag 0 (.text "r") ∧ out.2.done = true) ∧ (∃ v, out.1 = .ok v) ∧
      ((loopingStage true).Runnable 0 ∧ (loopingStage true).ChainsEnd 0) ∧
      ((Control.endlessRounds 0 (.text "f") 4).perform (player 1)).play (loopingStage true) =
        (.error (.killed .ticks), { loopingStage true with ticks := 0 }) := by
  have ends : (loopingStage false).ChainsEnd 0 := by decide +kernel
  have ends' : (loopingStage true).ChainsEnd 0 := by decide +kernel
  have found : (loopingStage false).HasFlag 0 (.text "r") := .inr ⟨_, rfl⟩
  obtain ⟨comesBack, -, -⟩ := (loopingStage_runnable false).ends_unless_looping ends
  obtain ⟨-, -, goesOn⟩ := (loopingStage_runnable true).ends_unless_looping ends'
  have done : ((runBlock 0 (.text "r")).play (loopingStage false)).2.done = true := by decide +kernel
  have log : ((runBlock 0 (.text "r")).play (loopingStage false)).2.log.toList =
      [.entered "Cat" "control_repeat", .entered "Cat" "control_stop"] := by
    decide +kernel
  refine ⟨⟨loopingStage_runnable false, ends, found, done⟩, ?_, ⟨loopingStage_runnable true, ends'⟩, ?_⟩
  · refine (comesBack _ true found done).resolve_right ?_
    rintro ⟨lines, same, sprite, b, loop, mem⟩
    have same : _ = lines := log.symm.trans same
    rw [← same] at mem
    obtain ⟨⟩ | ⟨_, ⟨⟩ | ⟨_, ⟨⟩⟩⟩ := loop <;> simp [Control.name] at mem
  · exact (goesOn rfl 0).1 _ _ _ 4 rfl rfl rfl (by decide)

/-- The loop without an end ends the program in its first round, and then goes on. -/
theorem forever_outlasts_stop : let out := (runBlock 0 (.text "f")).play (loopingStage false)
    out.2.done = true ∧ out.1.isOk = false ∧ out.2.ticks = 0 ∧
      out.2.log.toList = [.entered "Cat" "control_forever", .entered "Cat" "control_stop"] := by
  decide +kernel

end BlockStage
