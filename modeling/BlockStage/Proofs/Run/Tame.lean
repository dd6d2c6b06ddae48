import BlockStage.Proofs.Run.Reach
import BlockStage.Proofs.Script.Containment

/-!
# What scripts on a footing change

The scripts of a sprite with a footing change the world by few kinds of requests, `Request.Tame`. What all
these keep, together with the footing, is kept by every script of the sprite, however it ends:
`Footing.always_player`.
-/

namespace BlockStage

open Run

variable {r : Request}
open Expression (IsPlainMutation)

namespace Request

/-- The requests that change how the program runs: its clones and scripts, and what these have bound. -/
def Runtime : Request → Prop
  | .addClone _ | .start _ _ | .delete _ | .stop | .tick | .remember _ | .bind _ _ _ _ => True
  | _ => False

/-- The requests by which scripts on a footing change the world; they write what the prototypes of a kit
say. -/
def Tame (kit : Nat) (r : Request) : Prop :=
  r.Ordinary ∨ r.Runtime ∨
    ∃ id v, r = .write ⟨.kit kit "blocks", [.name id, .name "mutation"]⟩ v ∧ IsPlainMutation v

end Request

/-- What a request does that changes how the program runs: the program goes on, or a clone is added, deleted
or binds a parameter. -/
inductive World.Manages (w : World) : Request → World → Prop
  | goOn {r : Request} {done : Bool} {ticks : Int} {queue : List Thread} {threads : Nat}
    {memory : Expression.Memory} (ended : w.done = true → done = true)
    (enlists : w.Enlists { w with done, ticks, queue, threads, memory }) :
    Manages w r { w with done, ticks, queue, threads, memory }
  | clone (i : Nat) : Manages w (.addClone i) (w.addClone i)
  | delete (i : Nat) : Manages w (.delete i) (w.updateSprite i World.deleteClone)
  | bind (i script : Nat) (name v : Value) :
    Manages w (.bind i script name v) (w.updateSprite i (·.bind script name v))

theorem Request.Runtime.manages (p : Player) (h : r.Runtime) (w : World) :
    w.Manages r ((r.perform p).play w).2 := by
  cases r with
  | addClone i => exact .clone i
  | delete i => exact .delete i
  | bind i script name v => exact .bind i script name v
  | start i flag => exact .goOn id (.start w i flag)
  | remember _ => exact .goOn id {}
  | stop => exact .goOn (fun _ => rfl) {}
  | tick =>
    rw [perform, play_modify_bind, play_get_bind]
    split <;> exact .goOn id {}
  | _ => exact h.elim

namespace World

variable {w w' : World} {r : Request}

theorem Manages.kits (h : w.Manages r w') : w'.kits = w.kits := by cases h <;> rfl

theorem Alters.adds (h : w.Alters r w') : w.Adds w' := by
  cases h with
  | note adds _ =>
    rcases adds with log | ⟨_, other, log⟩
    · exact .of_log log
    · exact .push log other
  | give _ _ _ _ _ => exact .of_log rfl
  | storeVariable holder _ _ | storeList holder _ _ => exact .of_log (by cases holder <;> rfl)

theorem Manages.adds (h : w.Manages r w') : w.Adds w' := .of_log (by cases h <;> rfl)

theorem Alters.enlists (h : w.Alters r w') : w.Enlists w' := by
  cases h with
  | note _ _ | give _ _ _ _ _ => exact {}
  | storeVariable holder _ _ | storeList holder _ _ => cases holder <;> exact {}

theorem Manages.enlists (h : w.Manages r w') : w.Enlists w' := by
  cases h with
  | goOn _ enlists => exact enlists
  | clone _ | delete _ | bind _ _ _ _ => exact {}

end World

theorem World.written_mutation (w : World) (k : Nat) (id : String) (v : Value) :
    let w' := (w.write? ⟨.kit k "blocks", [.name id, .name "mutation"]⟩ v).getD w
    w' = w ∨ ∃ b, Table.get? (w.kit k).blocks id = some b ∧ w' = w.updateKit k fun kit =>
      { kit with blocks := Table.put (w.kit k).blocks id ⟨Table.put b.fields "mutation" v⟩ } := by
  rw [World.write?_part]
  cases hb : Table.get? (w.kit k).blocks id with
  | none => exact .inl rfl
  | some b =>
    rw [Option.bind_some]
    cases Table.get? b.fields "mutation" with
    | none => exact .inl rfl
    | some old => exact .inr ⟨b, rfl, rfl⟩

/-- Blocks do not note themselves that a block is entered. -/
theorem Request.adds_perform (p : Player) {k : Nat} (h : r.Tame k) (w : World) :
    w.Adds ((r.perform p).play w).2 := by
  rcases h with ordinary | runtime | ⟨id, v, rfl, -⟩
  · exact (ordinary.alters p w).adds
  · exact (runtime.manages p w).adds
  · show w.Adds ((w.write? _ v).getD w)
    rcases w.written_mutation k id v with same | ⟨b, -, same⟩ <;> rw [same] <;> exact .of_log rfl

/-- What every allowed request keeps is kept by an act, however it ends, and the answer is as told. -/
theorem Act.Within.always {α : Type} {p : Player} {I J : World → Prop} {X : Request → Prop}
    {Q : α → Prop} {act : Act α} (h : act.Within I X Q) (stands : ∀ w, J w → I w)
    (answers : ∀ r a, X r → r.Admits I a) (asked : ∀ r, r.Ordinary ∨ X r → (r.perform p).Always J)
    (w : World) (hw : J w) : J ((act.perform p).play w).2 ∧
      ∀ a, ((act.perform p).play w).1 = .ok a → Q a := by
  induction act generalizing w with
  | ret a => exact ⟨hw, fun _ ha => by cases ha; exact h⟩
  | fail f => exact ⟨hw, fun _ ha => by cases ha⟩
  | endless => exact ⟨hw, fun _ ha => by cases ha⟩
  | ask r k ih =>
    have kept := asked r h.1 w hw
    rw [Act.perform, play_bind]
    rcases hr : (r.perform p).play w with ⟨e | a, w'⟩ <;> rw [hr] at kept
    · exact ⟨kept, fun _ ha => by cases ha⟩
    · refine ih a (h.2 a ?_) w' kept
      rcases h.1 with ordinary | allowed
      · cases r with
        | look =>
          cases hr
          exact stands w hw
        | attempt _ _ _ | invoke _ _ _ => exact ordinary.elim
        | _ => trivial
      · exact answers r a allowed

/-- What every request of an act keeps is kept by the act, if none of them runs a script for its fault. -/
theorem Act.Sends.always {α : Type} {p : Player} {J : World → Prop} {P : Request → Prop} {Q : α → Prop}
    {act : Act α} (h : act.Sends (fun _ => True) P Q)
    (answers : ∀ r, P r → ∀ a, r.Admits (fun _ => True) a) (each : ∀ r, P r → (r.perform p).Always J) :
    (act.perform p).Always J := by
  induction act with
  | ret a => exact .pure a
  | fail f => exact .throw _
  | endless => exact .throw _
  | ask r k ih => exact .bind (each r h.1) fun a => ih a (h.2 a (answers r h.1 a))

namespace Footing

variable {c : Footing}

theorem Holds.manages {w w' : World} (hw : c.Holds w) (h : w.Manages r w') : c.Holds w' := by
  cases h with
  | goOn _ _ => exact hw.of_sprites rfl rfl
  | clone i => exact hw.addClone i
  | delete i => exact hw.delete i
  | bind i script name v => exact hw.bind i script name v

theorem stable_holds : World.Stable (Request.Tame c.kit) c.Holds := by
  intro w w' hw move
  cases move with
  | apart h => exact hw.of_sprites h.sprites h.kits
  | @ask r p _ single tame =>
    rcases tame with ordinary | runtime | ⟨id, v, rfl, plain⟩
    · exact hw.of_kept ((ordinary.alters p w).kept c.me)
    · exact hw.manages (runtime.manages p w)
    · show c.Holds ((w.write? (c.site id fun _ => False).mutation v).getD w)
      cases hwrite : w.write? (c.site id fun _ => False).mutation v with
      | none => exact hw
      | some w' => exact hw.write plain hwrite

/-! ## Acts -/

variable {J : World → Prop} {p : Player} {flag : Value} (stable : World.Stable (Request.Tame c.kit) J)
  (stands : ∀ w, J w → c.Holds w) (hp : c.Trusts p) (runs : ∀ flag next, (p.run c.me flag next).Always J)

theorem tame_of_asks (h : r.Ordinary ∨ c.Asks r) (single : r.Single) : r.Tame c.kit := by
  refine h.imp_right fun asks => .inl ?_
  cases r with
  | run i flag => exact single.elim
  | addClone _ | start _ _ | delete _ | stop | tick => trivial
  | _ => exact asks.elim

include stable runs in
theorem always_asked (h : r.Ordinary ∨ c.Asks r) : (r.perform p).Always J := by
  cases r with
  | run i flag =>
    obtain rfl : i = c.me := h.resolve_left id
    exact runs flag true
  | attempt _ _ _ | invoke _ _ _ => exact (h.elim id id).elim
  | _ => exact fun w hw => stable hw (.ask p w trivial (tame_of_asks h trivial))

theorem admits_asked {I : World → Prop} (r : Request) (a : r.Reply) (h : c.Asks r) : r.Admits I a := by
  cases r with
  | run _ _ | addClone _ | start _ _ | delete _ | stop | tick => trivial
  | _ => exact h.elim

include stable runs stands in
theorem always_within {α : Type} {Q : α → Prop} {act : Act α} (h : act.Within c.Holds c.Asks Q) :
    (act.perform p).Always J := fun w hw =>
  (h.always stands admits_asked (fun _ => always_asked stable runs) w hw).1

include stable runs

theorem always_called {prototype : String} {bodies : Value → Prop} {w : World}
    (h : (c.Holds w ∧ c.Notes prototype r) ∨ c.Body bodies w r) (hw : J w) : J ((r.perform p).play w).2 := by
  have tame : r.Single → r.Tame c.kit → J ((r.perform p).play w).2 := fun single tame =>
    stable hw (.ask p w single tame)
  cases r with
  | attempt i flag next =>
    obtain ⟨-, rfl, -, rfl⟩ : c.Body bodies w (.attempt i flag next) := h.resolve_left fun h => h.2
    exact (runs flag true).attempt w hw
  | look => exact tame trivial (.inl trivial)
  | bind _ _ _ _ => exact tame trivial (.inr (.inl trivial))
  | write r v =>
    obtain ⟨-, rfl, plain⟩ := h.resolve_right id
    exact tame trivial (.inr (.inr ⟨prototype, v, rfl, plain⟩))
  | _ => exact (h.elim And.right id).elim

/-! ## Blocks -/

include stands hp

theorem always_call : ((Custom.call.act c.me flag).perform p).Always J := by
  have within : TakesWithin c.Holds c.Asks c.me flag := takesWithin
  rw [Custom.perform_call]
  refine .bind (always_within stable stands runs within) fun args => .get_bind fun w hw => ?_
  refine .lift_bind fun callee called w' hw' => ?_
  obtain ⟨-, prototype⟩ := Custom.callee?_eq_ok called
  rw [(stands w hw).blocks_eq] at prototype
  exact (calls_enter hp (hasPrototype (stands w hw) prototype) args (stands w' hw')).always
    (fun _ _ called hw => always_called stable runs called hw) hw'

theorem always_opcode (op : Opcode) : ((op.act c.me flag).perform p).Always J := by
  by_cases call : op = .custom .call
  · subst call
    exact always_call stable stands hp runs
  · exact always_within stable stands runs (within_opcode call)

theorem always_actBlock {opcode : String} (plain : opcode.toList.take 2 ≠ ['_', '_']) :
    (actBlock p c.me flag opcode).Always J := by
  refine .bind .get fun w => ?_
  split
  · next member hm =>
    refine .contain stable.unlogged flag ?_
    rcases Member.ofName?_plain plain hm with simple | ⟨op, rfl, -⟩
    · exact always_within stable stands runs (Member.within_simple simple _ _ _ _)
    · exact always_opcode stable stands hp runs op
  · exact .bind (.log stable.unlogged _) fun _ => .contain stable.unlogged flag (.throw _)

omit hp runs in
theorem always_player (depth : Nat) (flag : Value) (next : Bool) :
    ((player depth).run c.me flag next).Always J := by
  induction depth generalizing flag next with
  | zero => exact .throw _
  | succ depth ih =>
    refine always_runWith stable.unlogged next (fun flag => ih flag false) fun w b opcode hw hb hop => ?_
    obtain ⟨opcode', hop', plain⟩ := (stands w hw).opcode? hb
    cases hop.symm.trans hop'
    exact always_actBlock stable stands (c.trusts_player depth) ih plain

omit hp runs in
theorem always_runBlock (flag : Value) (next : Bool) : (runBlock c.me flag next).Always J :=
  .bind .get fun _ => always_player stable stands _ flag next

end Footing

end BlockStage
