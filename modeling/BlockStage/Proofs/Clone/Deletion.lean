import BlockStage.Proofs.Clone.Phases
import BlockStage.Proofs.Custom.Bound

/-!
# Deleting a clone

Every block that runs others looks whether the clone is deleted before it goes on. So every script of a
clone unwinds (`runs_player`): once the clone has deleted itself, no block is entered any more.
-/

namespace BlockStage

open Run World

variable {s : String} {w : World} {α : Type}

/-- The block deletes its sprite if that is a clone, and changes nothing else. -/
theorem actBlock_deletion (p : Player) {me : Nat} (flag : Value) {clone : Bool}
    (free : (w.sprite me).hides "control_delete_this_clone" = false)
    (mode : (w.sprite me).hasMode? .clone = .ok clone) :
    (actBlock p me flag "control_delete_this_clone").play w =
      (.ok .null, w.updateSprite me World.deleteClone) := by
  have member : Member.ofName? (w.sprite me) "control_delete_this_clone" =
      some (.block (.control .deleteClone)) := Member.ofName?_of_free free (by decide)
  have acts : ((Control.act me flag .deleteClone).perform p).play w =
      (.ok .null, w.updateSprite me World.deleteClone) := by
    rw [Control.act, Act.play_look_bind, mode]
    rfl
  rw [actBlock_member p member, contain_play,
    show Member.invoke me (.block (.control .deleteClone)) [flag] = Control.act me flag .deleteClone
      from rfl, acts]

namespace Footing

variable {c : Footing} {mode : CloneMode} {w0 w w' : World}

/-- Where it is looked whether the clone is deleted, a run takes one way or the other by its phase. -/
theorem Hushed.unless_deleted {p : Player} {k : Bool → Run α} (h : c.Hushed (k true)) :
    c.Hushed ((Control.isDeleted c.me).perform p >>= k) := by
  simp only [Control.isDeleted, Act.perform_bind, Act.perform_look, Act.perform_lift]
  rw [bind_assoc]
  refine .get_bind fun w steady => ?_
  rw [steady.hasMode?]
  exact h

theorem Unwinds.unless_deleted {p : Player} {k : Bool → Run α} (h : c.Unwinds (k false)) :
    c.Unwinds ((Control.isDeleted c.me).perform p >>= k) := by
  simp only [Control.isDeleted, Act.perform_bind, Act.perform_look, Act.perform_lift]
  rw [bind_assoc]
  refine .get_bind fun w steady => ?_
  rw [steady.hasMode?]
  exact h

section

variable {p : Player} {flag : Value} (hp : c.Runs p)

include hp

/-! ## Control blocks -/

theorem unwinds_branch (flag : Value) : c.Unwinds ((Control.branch c.me flag).perform p) := by
  rw [Control.branch_perform]
  exact (hp.unwinds flag true).bind_pure

omit hp in
theorem hushed_rounds (body : Value) (n : Nat) : c.Hushed ((Control.rounds c.me body n).perform p) := by
  cases n with
  | zero => exact fun _ => .pure _
  | succ n =>
    simp only [Control.rounds, Act.perform_bind]
    exact .unless_deleted fun _ => .pure _

theorem unwinds_rounds (body : Value) (n : Nat) : c.Unwinds ((Control.rounds c.me body n).perform p) := by
  induction n with
  | zero => exact .pure _
  | succ n ih =>
    simp only [Control.rounds, Act.perform_bind]
    refine .unless_deleted ?_
    show c.Unwinds ((Control.branch c.me body >>= fun _ => Control.rounds c.me body n).perform p)
    rw [Act.perform_bind]
    exact .bind (unwinds_branch hp body) (fun _ => ih) fun _ => hushed_rounds body n

omit hp in
theorem hushed_endlessRounds (n : Nat) : c.Hushed ((Control.endlessRounds c.me flag n).perform p) := by
  cases n with
  | zero => exact fun _ => .throw _
  | succ n =>
    simp only [Control.endlessRounds, Act.perform_bind]
    exact .unless_deleted fun _ => .pure _

theorem unwinds_endlessRounds (n : Nat) : c.Unwinds ((Control.endlessRounds c.me flag n).perform p) := by
  induction n with
  | zero => exact .throw _
  | succ n ih =>
    simp only [Control.endlessRounds, Act.perform_bind]
    refine .unless_deleted ?_
    show c.Unwinds ((Act.look >>= fun w => liftM (w.block? c.me flag) >>= fun block =>
      liftM (block.branch? "SUBSTACK") >>= fun body => Control.branch c.me body >>= fun _ =>
        Act.tick >>= fun _ => Control.endlessRounds c.me flag n).perform p)
    have ticks : Act.tick.perform p = Request.tick.perform p := bind_pure _
    simp only [Act.perform_bind, Act.perform_look, Act.perform_lift, ticks]
    refine .get_bind fun w _ => .lift_bind fun block _ => .lift_bind fun body _ => ?_
    refine .bind (unwinds_branch hp body) (fun _ => ?_) fun _ w0 => ?_
    · exact .after_spared (spared_request p (r := .tick) trivial (.inr (.inl trivial)) (by simp)) fun _ => ih
    · refine .bind ?_ fun _ => hushed_endlessRounds n w0
      exact hushed_request p (r := .tick) trivial (.inr (.inl trivial)) (by simp) w0

theorem unwinds_control {b : Control} (has : c.HasOpcode flag b.name) (other : b ≠ .deleteClone) :
    c.Unwinds ((b.act c.me flag).perform p) := by
  have takes := spared_within hp (reads_eval : (Arguments.eval c.me flag).Within _ _ (c.Conditions flag))
  have quiet : b.name ∉ drivingOpcodes → c.Unwinds ((b.act c.me flag).perform p) := fun h =>
    Spared.unwinds fun w0 w hw => (spared_within hp (reads_control has h) w0 w hw).1
  have ends : ∀ flag, c.Unwinds ((Control.branch c.me flag >>= fun _ => pure Value.null).perform p) := by
    intro flag
    rw [Act.perform_bind]
    exact (unwinds_branch hp flag).bind_pure
  cases b with
  | deleteClone => exact absurd rfl other
  | waitUntil | wait | stop | createClone | createCloneMenu => exact quiet (by decide)
  | ifThen =>
    simp only [Control.act, Act.perform_bind, Act.perform_lift]
    refine .after takes fun args given => .lift_bind fun condition hcondition => ?_
    have reports := reads_condition given ⟨_, by decide, has⟩ condition hcondition
    rw [Act.perform_run]
    refine .after_spared (hp.spared condition true reports) fun v => ?_
    split
    · rw [Act.perform_bind, Act.perform_lift]
      exact .lift_bind fun flag _ => ends flag
    · exact .pure _
  | ifThenElse =>
    simp only [Control.act, Act.perform_bind, Act.perform_lift]
    refine .after takes fun args _ => .lift_bind fun condition _ => ?_
    split
    · rw [Act.perform_bind, Act.perform_lift]
      exact .lift_bind fun flag _ => ends flag
    · rw [Act.perform_bind, Act.perform_lift]
      exact .lift_bind fun flag _ => ends flag
  | repeatTimes =>
    simp only [Control.act, Act.perform_bind, Act.perform_lift, Act.perform_look]
    refine .after takes fun args _ => .get_bind fun w _ => .lift_bind fun block _ => ?_
    refine .lift_bind fun body _ => ?_
    split
    · exact .pure _
    · rw [Act.perform_bind, Act.perform_lift]
      refine .lift_bind fun times _ => ?_
      rw [Act.perform_bind]
      exact (unwinds_rounds hp body _).bind_pure
  | forever =>
    simp only [Control.act, Act.perform_bind, Act.perform_look]
    refine .get_bind fun w _ => ?_
    exact (unwinds_endlessRounds hp _).bind_pure
  | startAsClone =>
    simp only [Control.act, Act.perform_bind, Act.perform_look, Act.perform_lift]
    refine .get_bind fun w _ => .lift_bind fun block _ => .lift_bind fun next _ => ?_
    exact (unwinds_branch hp next).bind_pure

/-! ## Calls of custom blocks -/

omit hp in
theorem Steady.notes {prototype : String} {r : Request} (h : c.Steady mode w)
    (notes : c.Notes prototype r) :
    c.Steady mode ((r.perform p).play w).2 ∧ w.Adds ((r.perform p).play w).2 := by
  have request : r.Single → r.Tame c.kit → (∀ i, r ≠ .delete i) →
      c.Steady mode ((r.perform p).play w).2 ∧ w.Adds ((r.perform p).play w).2 :=
    fun single tame spares => ⟨h.request p single tame spares, r.adds_perform p tame w⟩
  cases r with
  | look => exact request trivial (.inl trivial) nofun
  | bind _ _ _ _ => exact request trivial (.inr (.inl trivial)) nofun
  | write r v =>
    obtain ⟨rfl, plain⟩ := notes
    exact request trivial (.inr (.inr ⟨prototype, v, rfl, plain⟩)) nofun
  | _ => exact notes.elim

omit hp in
theorem hushed_notes {prototype : String} {Q : Except Failure α → World → Prop} {act : Act α}
    (h : c.Calls p prototype Q (fun _ _ => False) act w) (hw : c.Gone w0 w) :
    c.Gone w0 ((act.perform p).play w).2 := by
  induction act generalizing w with
  | ret a => exact hw
  | fail f => exact hw
  | endless => exact hw
  | ask r k ih =>
    obtain ⟨⟨-, notes⟩, later⟩ := h.resolve_right fun h => h.1
    obtain ⟨steady, adds⟩ := hw.steady.notes (p := p) notes
    have kept := hw.adds steady adds
    rw [Act.perform, play_bind]
    rcases hr : (r.perform p).play w with ⟨e | a, w'⟩ <;> rw [hr] at kept
    · exact kept
    · exact ih a (later a w' hr) kept

theorem unwinds_calls {prototype : String} {bodies : Value → Prop}
    {Q : Except Failure α → World → Prop} {act : Act α} (h : c.Calls p prototype Q (c.Body bodies) act w)
    (hw : c.Alive w0 w) : c.Ends w0 ((act.perform p).play w) := by
  induction act generalizing w with
  | ret a => exact .inl hw
  | fail f => exact .inl hw
  | endless => exact .inl hw
  | ask r k ih =>
    rw [Act.perform, play_bind]
    rcases h with ⟨⟨-, notes⟩, later⟩ | ⟨body, later⟩
    · obtain ⟨steady, adds⟩ := hw.steady.notes (p := p) notes
      have kept := hw.adds steady adds
      rcases hr : (r.perform p).play w with ⟨e | a, w'⟩ <;> rw [hr] at kept
      · exact .inl kept
      · exact ih a (later a w' hr) kept
    · have ends : c.Ends w0 ((r.perform p).play w) := by
        cases r with
        | attempt i flag next =>
          obtain ⟨-, rfl, -, rfl⟩ := body
          exact (hp.unwinds flag true).attempt w0 w hw
        | _ => exact body.elim
      rcases hr : (r.perform p).play w with ⟨e | a, w'⟩ <;> rw [hr] at ends
      · exact ends.error
      · -- After the body only notes are left.
        rcases ends with alive | gone | ⟨never, -⟩
        · exact ih a ((later a w' hr).widen fun _ _ h => h.elim) alive
        · exact .inr (.inl (hushed_notes (later a w' hr) gone))
        · cases never

theorem unwinds_call : c.Unwinds ((Custom.call.act c.me flag).perform p) := by
  rw [Custom.perform_call]
  refine .after (spared_within hp reads_eval) fun args _ => .get_bind fun w steady => ?_
  refine .lift_bind fun callee called w0 w' hw' => ?_
  obtain ⟨-, prototype⟩ := Custom.callee?_eq_ok called
  rw [steady.holds.blocks_eq] at prototype
  exact unwinds_calls hp (calls_enter hp.trusts (hasPrototype steady.holds prototype) args
    hw'.steady.holds) hw'

/-! ## Blocks -/

theorem unwinds_opcode {op : Opcode} (has : c.HasOpcode flag s)
    (hop : Opcode.ofName? s = some op) (other : s ≠ "control_delete_this_clone") :
    c.Unwinds ((op.act c.me flag).perform p) := by
  have quiet : ∀ {act : Act Value}, act.Within c.Sound c.Reads (fun _ => True) →
      c.Unwinds (act.perform p) := fun h =>
    Spared.unwinds fun w0 w hw => (spared_within hp h w0 w hw).1
  have named := Opcode.named_of_ofName? hop
  cases op with
  | control b =>
    obtain rfl := Control.eq_name_of_ofName? named
    exact unwinds_control hp has fun deletes => other (by rw [deletes]; rfl)
  | custom b =>
    cases b with
    | call => exact unwinds_call hp
    | argument => exact quiet (Opcode.within_plain takesReading rfl)
  | _ => exact quiet (Opcode.within_plain takesReading rfl)

/-- What every sprite can do beside its blocks enters none. -/
theorem spared_member {m : Member} {sprite : Sprite} (plain : s.toList.take 2 ≠ ['_', '_'])
    (hm : Member.ofName? sprite s = some m) : c.Spared ((m.invoke c.me [flag]).perform p) ∨
      ∃ op, m = .block op ∧ Opcode.ofName? s = some op := by
  rcases Member.ofName?_plain plain hm with simple | op
  · exact .inl fun w0 w hw => (spared_within hp (Member.within_simple simple _ _ _ _) w0 w hw).1
  · exact .inr op

omit hp in
theorem spared_unknown (s : String) : c.Spared (do
      Run.log (.opcodeMissing s)
      BlockStage.contain flag (throw (.fault (.error .unsetLocal)))) := by
  have fails : c.Spared (BlockStage.contain flag (throw (.fault (.error .unsetLocal)))) :=
    Spared.contain fun _ => .throw _
  intro w0
  refine .bind (fun w hw => ?_) fun _ => fails w0
  exact hw.adds (hw.steady.apart ⟨rfl, rfl, rfl, rfl, rfl⟩) (.push rfl rfl)

theorem unwinds_actBlock (has : c.HasOpcode flag s)
    (plain : s.toList.take 2 ≠ ['_', '_']) (other : s ≠ "control_delete_this_clone") :
    c.Unwinds (actBlock p c.me flag s) := by
  refine .get_bind fun w steady => ?_
  split
  · next member hm =>
    rcases spared_member hp plain hm with spared | ⟨op, rfl, hop⟩
    · exact spared.contain.unwinds
    · exact (unwinds_opcode hp has hop other).contain
  · exact (spared_unknown s).unwinds

theorem spared_actBlock (has : c.HasOpcode flag s)
    (plain : s.toList.take 2 ≠ ['_', '_']) (other : s ∉ drivingOpcodes) :
    c.Spared (actBlock p c.me flag s) := by
  refine fun w0 => .get_bind fun w _ => ?_
  split
  · next member hm =>
    rcases spared_member hp plain hm with spared | ⟨op, rfl, hop⟩
    · exact spared.contain w0
    · refine Spared.contain (fun w0 w hw => ?_) w0
      exact (spared_within hp (reads_opcode has hop other) w0 w hw).1
  · exact spared_unknown s w0

end

/-! ## The deletion -/

theorem Steady.delete (h : c.Steady .clone w) :
    c.Steady .deleted (w.updateSprite c.me World.deleteClone) := by
  have deleted : World.deleteClone (w.sprite c.me) =
      (w.sprite c.me).put CloneMode.key CloneMode.deleted.value := by
    rw [World.deleteClone, h.hasMode?]
    rfl
  have sprite : (w.updateSprite c.me World.deleteClone).sprite c.me =
      (w.sprite c.me).put CloneMode.key CloneMode.deleted.value := by
    rw [sprite_updateSprite_self h.mode, deleted]
  refine ⟨⟨h.holds.delete c.me, h.sound.2⟩, ?_, ?_⟩
  · rw [sprite, Sprite.hides, Table.has, Sprite.put, Table.get?_put_of_ne _ _ (by decide)]
    exact h.free
  · rw [sprite]
    exact Table.get?_put_self _ _ _

variable {p : Player} {flag : Value}

theorem unwinds_deletion (name : String) : c.Unwinds (do
      enterBlock name "control_delete_this_clone"
      actBlock p c.me flag "control_delete_this_clone") := by
  intro w0 w hw
  obtain ⟨new, hnew, none⟩ := hw.log
  have steady : c.Steady .clone (w.enter name "control_delete_this_clone") :=
    hw.steady.apart ⟨rfl, rfl, rfl, rfl, rfl⟩
  have log : (w.enter name "control_delete_this_clone").log.toList =
      w0.log.toList ++ new ++ [.entered name "control_delete_this_clone"] := by
    rw [← hnew]
    exact Array.toList_push
  rw [play_bind, enterBlock_play]
  by_cases fuel : w.fuel - 1 < 0
  · rw [if_pos fuel]
    exact .inr (.inr ⟨rfl, steady, new, name, log, none⟩)
  · rw [if_neg fuel]
    simp only [actBlock_deletion p _ steady.free (steady.hasMode? .clone)]
    exact .inr (.inl ⟨steady.delete, new, name, [], log, none, nofun⟩)

theorem spared_enterBlock (name : String) (other : s ≠ "control_delete_this_clone") :
    c.Spared (enterBlock name s) := by
  intro w0 w hw
  obtain ⟨new, hnew, none⟩ := hw.log
  rw [enterBlock_play]
  refine ⟨hw.steady.apart ⟨rfl, rfl, rfl, rfl, rfl⟩, new ++ [.entered name s], ?_, fun line mem => ?_⟩
  · rw [← List.append_assoc, ← hnew]
    exact Array.toList_push
  · rcases List.mem_append.1 mem with mem | mem
    · exact none line mem
    · cases List.mem_singleton.1 mem
      exact decide_eq_false other

/-! ## Scripts -/

theorem hushed_walk (enter : Value → Run Value) (n : Nat) (flag : Value) :
    c.Hushed (walk enter c.me n flag) := by
  cases n with
  | zero =>
    rw [walk]
    split
    · exact fun _ => .pure _
    · exact fun _ => .throw _
  | succ n =>
    rw [walk]
    split
    · exact fun _ => .pure _
    · refine .get_bind fun w steady => ?_
      rw [steady.hasMode?]
      exact fun _ => .pure _

theorem unwinds_walk {enter : Value → Run Value} (h : ∀ flag, c.Unwinds (enter flag)) (n : Nat)
    (flag : Value) : c.Unwinds (walk enter c.me n flag) := by
  induction n generalizing flag with
  | zero =>
    rw [walk]
    split
    · exact .pure _
    · exact .throw _
  | succ n ih =>
    rw [walk]
    split
    · exact .pure _
    · refine .get_bind fun w steady => ?_
      rw [steady.hasMode?]
      show c.Unwinds (enter flag >>= fun _ => get >>= fun w => liftM (w.block? c.me flag) >>= fun block =>
        walk enter c.me n block.next)
      refine .bind (h flag) (fun _ => .get_bind fun w _ => .lift_bind fun block _ => ih _) fun _ => ?_
      exact .get_bind fun w _ w0 => .bind (.lift _) fun block => hushed_walk enter n _ w0

theorem hushed_goOn (result : Value) : c.Hushed (goOn p c.me flag result) :=
  .get_bind fun _ _ w0 => .bind (.lift _) fun _ => .bind (hushed_walk _ _ _ w0) fun _ => .pure _

theorem unwinds_goOn (hp : c.Runs p) (result : Value) : c.Unwinds (goOn p c.me flag result) := by
  refine .get_bind fun w _ => .lift_bind fun block _ => ?_
  exact (unwinds_walk (fun flag => hp.unwinds flag false) _ _).bind_pure

theorem Holds.hasOpcode (hw : c.Holds w) {b : Block} (hb : w.block? c.me flag = .ok b) :
    ∃ s, b.opcode? = .ok (.text s) ∧ s.toList.take 2 ≠ ['_', '_'] ∧ c.HasOpcode flag s := by
  obtain ⟨s, hs, plain⟩ := hw.opcode? hb
  obtain ⟨id, rfl, outline⟩ := hw.outline_of_block? hb
  exact ⟨s, hs, plain, id, _, rfl, outline, Block.opcode?_eq_ok hs⟩

/-- A script does nothing, or fails before it enters a block, or it enters the block at the flag. -/
theorem runWith_holds (p : Player) (flag : Value) (next : Bool) (hw : c.Holds w) :
    ((runWith p c.me flag next).play w).2 = w ∨
      ∃ b s, w.block? c.me flag = .ok b ∧ c.HasOpcode flag s ∧ s.toList.take 2 ≠ ['_', '_'] ∧
        (runWith p c.me flag next).play w = (do
          enterBlock c.name s
          let result ← actBlock p c.me flag s
          if next then goOn p c.me flag result else return result).play w := by
  by_cases idle : w.done = true ∨ flag.isNull = true
  · rw [runWith_idle p c.me next idle]
    exact .inl rfl
  obtain ⟨running, hnull⟩ := not_idle idle
  cases hb : w.block? c.me flag with
  | error f =>
    rw [runWith_missing p next running hnull hw.name hb]
    exact .inl rfl
  | ok b =>
    obtain ⟨s, hop, plain, has⟩ := hw.hasOpcode hb
    exact .inr ⟨b, s, rfl, has, plain, runWith_play p next (hw.meets running hb) hop⟩

theorem unwinds_runWith (hp : c.Runs p) (flag : Value) (next : Bool) :
    c.Unwinds (runWith p c.me flag next) := by
  have onward : ∀ result, c.Unwinds (if next then goOn p c.me flag result else return result) ∧
      c.Hushed (if next then goOn p c.me flag result else return result) := by
    intro result
    cases next with
    | true => exact ⟨unwinds_goOn hp result, hushed_goOn result⟩
    | false => exact ⟨.pure _, fun _ => .pure _⟩
  intro w0 w hw
  rcases runWith_holds p flag next hw.steady.holds with same | ⟨b, s, -, has, plain, play⟩
  · exact .inl (by rw [same]; exact hw)
  rw [play]
  by_cases deletes : s = "control_delete_this_clone"
  · subst deletes
    rw [← bind_assoc]
    exact Unwinds.bind (unwinds_deletion c.name) (fun v => (onward v).1) (fun v => (onward v).2) w0 w hw
  · refine Unwinds.after_spared (spared_enterBlock c.name deletes) (fun _ => ?_) w0 w hw
    exact .bind (unwinds_actBlock hp has plain deletes) (fun v => (onward v).1) fun v => (onward v).2

theorem spared_runWith (hp : c.Runs p) (next : Bool) (reports : Outline.Reports c.blocks flag) :
    c.Spared (runWith p c.me flag next) := by
  intro w0 w hw
  rcases runWith_holds p flag next hw.steady.holds with same | ⟨b, s, hb, has, plain, play⟩
  · rw [same]
    exact hw
  obtain ⟨id, o, rfl, ho, hs⟩ := id has
  obtain ⟨last, others⟩ := reports id o rfl ho
  have other : s ∉ drivingOpcodes := fun mem => others s mem hs
  have onward : ∀ result, Always (c.Alive w0)
      (if next then goOn p c.me (.text id) result else return result) := by
    intro result
    cases next with
    | false => exact .pure _
    | true =>
      intro w hw
      have isFlag : Outline.IsFlag c.blocks (.text id) := .inr ⟨id, rfl, by rw [ho]; rfl⟩
      obtain ⟨b, hb⟩ := hw.steady.holds.block?_of_flag isFlag rfl
      obtain ⟨_, same, found⟩ := hw.steady.holds.outline_of_block? hb
      cases same
      cases ho.symm.trans found
      show c.Alive w0 ((goOn p c.me (.text id) result).play w).2
      rw [goOn_last p result hb last]
      exact hw
  rw [play]
  refine Run.Always.bind (spared_enterBlock c.name (fun eq => other (by rw [eq]; decide)) w0)
    (fun _ => ?_) w hw
  exact .bind (spared_actBlock hp has plain other w0) onward

/-- Scripts enter a deletion at most once, and nothing after it. -/
theorem runs_player (c : Footing) (depth : Nat) : c.Runs (player depth) := by
  induction depth with
  | zero => exact ⟨c.trusts_player 0, fun _ _ => .throw _, fun _ _ _ _ => .throw _⟩
  | succ depth ih =>
    exact ⟨c.trusts_player (depth + 1), unwinds_runWith ih, fun _ next => spared_runWith ih next⟩

end Footing

/-! ## Runs of a clone -/

theorem World.Wired.footing {c : Footing} (h : w.Wired c.me) (hw : c.Holds w) : c.Wired w := by
  have blocks : w.blocks c.me = (w.kit c.kit).blocks := by
    rw [World.blocks, hw.blocks?]
    rfl
  intro id b hb
  have wired := h id b (blocks ▸ hb)
  rw [blocks, hw.blocks] at wired
  exact wired

theorem World.updateSprite_deleteClone {me : Nat}
    (mode : (w.sprite me).hasMode? .clone = .ok false) : w.updateSprite me World.deleteClone = w := by
  have same : World.deleteClone (w.sprite me) = id (w.sprite me) := by
    rw [World.deleteClone, mode]
    rfl
  have sprites : w.sprites.modify me World.deleteClone = w.sprites.modify me id :=
    modify_congr (d := default) same
  rw [World.updateSprite, sprites, List.modify_id]

/-- A sprite of the project file is not deleted: the block only notes that it is entered, and the script
goes on. -/
theorem runWith_deletion_principal (p : Player) {me : Nat} {flag : Value} {name : String}
    {b : Block} (next : Bool) (free : (w.sprite me).hides "control_delete_this_clone" = false)
    (principal : (w.sprite me).get? CloneMode.key = .ok CloneMode.principal.value)
    (meets : w.Meets me flag name b) (hop : b.opcode? = .ok (.text "control_delete_this_clone")) :
    (runWith p me flag next).play w = (do
      enterBlock name "control_delete_this_clone"
      if next then goOn p me flag .null else return .null).play w := by
  rw [runWith_play p next meets hop]
  refine play_bind_congr rfl fun _ w' entered => ?_
  rw [enterBlock_play] at entered
  obtain rfl : w.enter name "control_delete_this_clone" = w' := congrArg Prod.snd entered
  have mode : ((w.enter name "control_delete_this_clone").sprite me).hasMode? .clone = .ok false := by
    rw [Sprite.hasMode?, show (w.enter name "control_delete_this_clone").sprite me = w.sprite me from rfl,
      principal]
    rfl
  have acted := actBlock_deletion p flag (w := w.enter name "control_delete_this_clone") free mode
  rw [World.updateSprite_deleteClone mode] at acted
  rw [play_bind_ok acted]

/-- What a run of a clone comes to: it enters no deletion, and the clone stays one; or it enters one deletion
and no block after it, and the clone is deleted unless there was no fuel left to enter the block. -/
def World.Unwound (w : World) (me : Nat) (out : Except Stop Value × World) : Prop :=
  ∃ new, out.2.log.toList = w.log.toList ++ new ∧
    (((∀ line ∈ new, line.deletes = false) ∧
        (out.2.sprite me).get? CloneMode.key = .ok CloneMode.clone.value) ∨
      ∃ before name after, new = before ++ .entered name "control_delete_this_clone" :: after ∧
        (∀ line ∈ before, line.deletes = false) ∧ (∀ line ∈ after, line.isEntry = false) ∧
        ((out.2.sprite me).get? CloneMode.key = .ok CloneMode.deleted.value ∨
          (out.1 = .error (.killed .fuel) ∧ after = [])))

/-- Once a clone has deleted itself, its run enters no further block, on whatever level the deletion stood.
A sprite of the project file is not changed by a deletion, and its script goes on. -/
theorem World.Runnable.deletion_unwinds {w : World} {me : Nat} (runnable : w.Runnable me)
    (wired : w.Wired me) (free : (w.sprite me).hides "control_delete_this_clone" = false) :
    ((w.sprite me).get? CloneMode.key = .ok CloneMode.clone.value →
      ∀ flag next, w.Unwound me ((runBlock me flag next).play w)) ∧
    ((w.sprite me).get? CloneMode.key = .ok CloneMode.principal.value → ∀ p flag name b next,
      w.Meets me flag name b → b.opcode? = .ok (.text "control_delete_this_clone") →
        (runWith p me flag next).play w = (do
          enterBlock name "control_delete_this_clone"
          if next then goOn p me flag .null else return .null).play w) := by
  refine ⟨fun clone flag next => ?_, fun principal p flag name b next meets hop =>
    runWith_deletion_principal p next free principal meets hop⟩
  obtain ⟨c, rfl, holds, -⟩ := runnable.footing
  have steady : c.Steady .clone w := ⟨⟨holds, wired.footing holds⟩, free, Sprite.get?_eq_ok clone⟩
  have mode : ∀ {mode : CloneMode} {w' : World}, c.Steady mode w' →
      (w'.sprite c.me).get? CloneMode.key = .ok mode.value := fun h => by rw [Sprite.get?, h.mode]
  rw [runBlock, play_get_bind]
  rcases (c.runs_player w.depth).unwinds flag next w w (.refl steady) with
    ⟨alive, new, hnew, none⟩ | ⟨gone, before, name, after, hlog, none, quiet⟩ |
      ⟨killed, -, before, name, hlog, none⟩
  · exact ⟨new, hnew, .inl ⟨none, mode alive⟩⟩
  · refine ⟨_, by rw [hlog, List.append_assoc], .inr ⟨before, name, after, rfl, none, quiet, ?_⟩⟩
    exact .inl (mode gone)
  · refine ⟨_, by rw [hlog, List.append_assoc], .inr ⟨before, name, [], rfl, none, by simp, ?_⟩⟩
    exact .inr ⟨killed, rfl⟩

/-- A loop with a condition inside, under which a clone deletes itself. -/
def deletingLoop : Table Block := [
  ("r", .plain "control_repeat" [("TIMES", .literal "3"), ("SUBSTACK", .slot "i")] (.text "x")),
  ("i", .plain "control_if" [("CONDITION", .slot "e"), ("SUBSTACK", .slot "k")] (.text "x")),
  ("e", .plain "operator_equals" [("OPERAND1", .literal "a"), ("OPERAND2", .literal "a")]),
  ("k", .plain "control_delete_this_clone" [] (.text "x")),
  ("x", .plain "looks_show" [])]

def deletingClone : World := (World.ofBlocks deletingLoop).addClone 0

theorem deletingClone_blocks {id : String} {b : Block}
    (h : Table.get? (deletingClone.blocks 1) id = some b) : b ∈ deletingLoop.map Prod.snd :=
  List.mem_map.2 ⟨(id, b), Table.mem_of_get? h, rfl⟩

theorem deletingClone_runnable : deletingClone.Runnable 1 :=
  (World.Scripted.of_all ⟨"Cat", rfl⟩ ⟨_, rfl⟩ rfl rfl rfl).runnable rfl

theorem deletingClone_wired : deletingClone.Wired 1 := by
  have reports : Outline.Reports (outlineOf (deletingClone.blocks 1)) (.text "e") := by
    intro id o same found
    cases same
    cases found
    exact ⟨rfl, fun s mem same => absurd (Value.text.inj (Option.some.inj same) ▸ mem) (by decide)⟩
  intro id b hb
  obtain ⟨⟩ | ⟨_, ⟨⟩ | ⟨_, ⟨⟩ | ⟨_, ⟨⟩ | ⟨_, ⟨⟩ | ⟨_, ⟨⟩⟩⟩⟩⟩⟩ := deletingClone_blocks hb
  case tail.head =>
    refine ⟨fun p mem flag read => ?_, fun _ => ⟨fun p mem input read key => ?_, nofun⟩⟩
    · obtain ⟨⟩ | ⟨_, ⟨⟩ | ⟨_, ⟨⟩⟩⟩ := mem <;> cases read
    · obtain ⟨⟩ | ⟨_, ⟨⟩ | ⟨_, ⟨⟩⟩⟩ := mem <;> cases read
      · exact ⟨_, rfl, reports⟩
      · exact absurd key (by decide)
  all_goals
    refine ⟨fun p mem flag read => ?_, fun ⟨s, hs, hop⟩ => ?_⟩
    · obtain ⟨⟩ | ⟨_, ⟨⟩ | ⟨_, ⟨⟩⟩⟩ := mem <;> cases read
    · cases hop
      exact absurd hs (by decide)

/-- The clone deletes itself in the first round, and the block after its deletion is not entered, nor is
any after the condition or the loop. -/
theorem deletion_unwinds_deletingClone : let out := (runBlock 1 (.text "r")).play deletingClone
    deletingClone.Runnable 1 ∧ deletingClone.Wired 1 ∧ deletingClone.Unwound 1 out ∧
      (out.2.sprite 1).hasMode? .deleted = .ok true ∧
      out.2.log.toList = [.entered "Cat" "control_repeat", .entered "Cat" "control_if",
        .entered "Cat" "operator_equals", .entered "Cat" "control_delete_this_clone"] := by
  have unwound := (deletingClone_runnable.deletion_unwinds deletingClone_wired rfl).1 rfl (.text "r") true
  exact ⟨deletingClone_runnable, deletingClone_wired, unwound, by decide +kernel, by decide +kernel⟩

def deletingScript : Table Block := [
  ("k", .plain "control_delete_this_clone" [] (.text "x")),
  ("x", .plain "looks_show" [])]

/-- A clone with an attribute that is called like the block. -/
def hidingClone : World :=
  (World.ofBlocks deletingScript |>.updateSprite 0 fun s =>
    s.put "control_delete_this_clone" (.text "")).addClone 0

/-- A clone that waits until what a reporter names comes to be true, which is its deletion. -/
def waitingClone : World :=
  { (World.ofBlocks [
      ("w", .plain "control_wait_until" [("CONDITION", .list [Value.int 1, .text "j"])]),
      ("j", .plain "operator_join" [("STRING1", .literal "k"), ("STRING2", .literal "")]),
      ("k", .plain "control_delete_this_clone" [])]).addClone 0 with fuel := 4 }

/-- Where the block is hidden, nothing is deleted and the script goes on. A condition that is no slot can be
the deletion itself, which is entered again and again. -/
theorem hidden_and_awaited_deletions_go_on : ((runBlock 1 (.text "k")).play hidingClone).2.log.toList =
      [.entered "Cat" "control_delete_this_clone", .blockFailed "k" .wrongKind,
        .entered "Cat" "looks_show"] ∧
    ((runBlock 1 (.text "w")).play waitingClone).2.log.toList =
      [.entered "Cat" "control_wait_until", .entered "Cat" "operator_join",
        .entered "Cat" "control_delete_this_clone", .entered "Cat" "control_delete_this_clone",
        .entered "Cat" "control_delete_this_clone"] := by
  decide +kernel

end BlockStage
