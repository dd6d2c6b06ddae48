import BlockStage.Proofs.Stage.Course

/-!
# What scripts keep in an orderly world

Beside what blocks do by acting, little happens while scripts run in an orderly world: `World.Idles`. What
such changes keep, and every block other than the call of a custom block, is kept by all scripts and all that
a session does: `World.Upkeep.upholds`.
-/

namespace BlockStage

open Run Act
open Expression (Site IsPlainMutation)

/-! ## Idle changes -/

namespace World

/-- A change that leaves the data as it was and all attributes of the sprites, but for their pictures. -/
structure Idles (w w' : World) : Prop where
  goes : w.Goes False w'
  length : w'.sprites.length = w.sprites.length
  tables : ∀ k part, (w'.kit k).get part = (w.kit k).get part
  attributes : ∀ i key, key ≠ "image" → key ≠ "rect" →
    Table.get? (w'.sprite i).fields key = Table.get? (w.sprite i).fields key
  hosts : w'.hosts = w.hosts

namespace Idles

variable {w w' : World}

theorem of_same (goes : w.Goes False w') (sprites : w'.sprites = w.sprites) (kits : w'.kits = w.kits)
    (hosts : w'.hosts = w.hosts) : w.Idles w' where
  goes := goes
  length := by rw [sprites]
  tables k part := by rw [kit, kit, kits]
  attributes i _ _ _ := by rw [sprite, sprite, sprites]
  hosts := hosts

theorem aside (h : w.Aside w') (hosts : w'.hosts = w.hosts := by rfl) : w.Idles w' :=
  of_same (.aside h) h.sprites h.kits hosts

theorem enter (running : w.done = false) (name opcode : String) : w.Idles (w.enter name opcode) :=
  of_same (.enter w running name opcode) rfl rfl rfl

theorem updateSprite (i : Nat) {f : Sprite → Sprite} (turns : ∀ s : Sprite, s.Turns False (f s))
    (attributes : ∀ s key, key ≠ "image" → key ≠ "rect" →
      Table.get? (f s).fields key = Table.get? s.fields key) : w.Idles (w.updateSprite i f) where
  goes := .turn w i turns
  length := by simp [World.updateSprite]
  tables _ _ := rfl
  attributes j key image rect := by
    rcases w.sprite_updateSprite i j f with same | same <;> rw [same]
    exact attributes _ key image rect
  hosts := rfl

theorem bind (i script : Nat) (name v : Value) : w.Idles (w.updateSprite i (·.bind script name v)) :=
  updateSprite i (fun _ => .rebind _) fun _ _ _ _ => rfl

theorem paint (i : Nat) (image : Surface) (rect : Rect) : w.Idles (w.updateSprite i (·.paint image rect)) :=
  updateSprite i (fun _ => .paint image rect) fun _ _ image rect =>
    (Table.get?_put_of_ne _ _ rect.symm).trans (Table.get?_put_of_ne _ _ image.symm)

theorem written (k : Nat) (id : String) {v : Value} (plain : IsPlainMutation v) :
    w.Idles ((w.write? ⟨.kit k "blocks", [.name id, .name "mutation"]⟩ v).getD w) := by
  have goes : w.Goes False _ := .mutation w k id plain
  rcases w.written_mutation k id v with same | ⟨b, -, same⟩ <;> rw [same] at goes ⊢
  · exact of_same goes rfl rfl rfl
  refine ⟨goes, rfl, fun k' part => ?_, fun _ _ _ _ => rfl, rfl⟩
  by_cases this : k = k'
  · subst this
    rcases w.kit_updateKit k fun kit =>
      { kit with blocks := Table.put (w.kit k).blocks id ⟨Table.put b.fields "mutation" v⟩ } with
      kit | kit <;> rw [kit]
    cases part <;> rfl
  · rw [w.kit_updateKit_of_ne this]

end Idles

/-- An idle change in which no parameter is bound and the same script goes on. -/
structure Rests (w w' : World) : Prop extends w.Idles w' where
  arguments : ∀ i, (w'.sprite i).arguments = (w.sprite i).arguments := by exact fun _ => rfl
  current : w'.current = w.current := by rfl

namespace Rests

theorem record (w : World) (call : Call) : w.Rests (w.record call) := by
  have idles : w.Idles (w.record call) := .aside (.record w call) (w.hosts_records [call])
  obtain ⟨calls, printed, noted⟩ := w.record_eq call
  rw [noted] at idles ⊢
  exact .mk idles

theorem paint (w : World) (i : Nat) (image : Surface) (rect : Rect) :
    w.Rests (w.updateSprite i (·.paint image rect)) := by
  refine .mk (.paint i image rect) fun j => ?_
  rcases w.sprite_updateSprite i j (·.paint image rect) with same | same <;> rw [same]
  rfl

theorem written (w : World) (k : Nat) (id : String) {v : Value} (plain : IsPlainMutation v) :
    w.Rests ((w.write? ⟨.kit k "blocks", [.name id, .name "mutation"]⟩ v).getD w) := by
  have idles : w.Idles _ := .written k id plain
  rcases w.written_mutation k id v with same | ⟨b, -, same⟩ <;> rw [same] at idles ⊢ <;> exact .mk idles

end Rests

end World

open World

variable {H : Nat → Prop} {J : World → Prop} {p : Player} {me : Nat} {flag : Value} {w : World} {r : Request}

/-- How scripts are run such that they keep `J`, in an orderly world. -/
structure Player.Minds (J : World → Prop) (p : Player) : Prop where
  unfolds : p.Unfolds False
  current : ∀ me flag next (w : World), ((p.run me flag next).play w).2.current = w.current
  run : ∀ me flag next, (p.run me flag next).Always J

/-- What idle changes keep, and every block other than the call of a custom block; a call binds parameters
for the script that runs. A monitor uses a block without its id; that is kept by blocks of the sprites in
`H`. -/
structure World.Upkeep (H : Nat → Prop) (J : World → Prop) : Prop where
  orderly : ∀ {w}, J w → w.Orderly False
  hosts : ∀ w, J w → ∀ i ∈ w.hosts, H i
  rests : ∀ {w w' : World}, J w → w.Rests w' → J w'
  binds : ∀ {w : World}, J w → ∀ i name v, J (w.updateSprite i (·.bind w.current name v))
  acts : ∀ {p : Player}, p.Minds J → ∀ {op : Opcode}, op ≠ .custom .call → ∀ me flag,
    flag.isNull = false ∨ H me → ((op.act me flag).perform p).Always J
  assigns : ∀ (p : Player) me id v, ((Data.assign me id v).perform p).Always J

/-! ## The script that runs -/

namespace Expression.Site

variable {c : Site} {H : World → Prop}

/-- While a call makes its notes, no other script runs. -/
theorem Ground.current (h : c.Ground H) (t : Nat) :
    Ground { c with calls := (· = t) } fun w => H w ∧ w.current = t where
  stands hw := ⟨(h.stands hw.1).tables, (h.stands hw.1).kit, (h.stands hw.1).plain⟩
  calls hw := hw.2
  bind hw i script name v := ⟨h.bind hw.1 i script name v, hw.2⟩
  write {w} hw v plain w' written := by
    have before := World.Before.write? w c.mutation v
    rw [show w.write? c.mutation v = some w' from written] at before
    exact ⟨h.write hw.1 plain written, before.current.trans hw.2⟩

theorem Trusts.current (h : c.Trusts H p) (t : Nat)
    (same : ∀ flag (w : World), ((p.run c.me flag true).play w).2.current = w.current) :
    Trusts { c with calls := (· = t) } (fun w => H w ∧ w.current = t) p := fun flag runs => by
  refine ⟨fun {w w' a} hw play => ?_, fun {w w' f} hw play => ?_⟩
  all_goals
    have same := same flag w
    rw [play] at same
  · exact ⟨⟨((h flag runs).ok hw.1 play).1, same.trans hw.2⟩, trivial⟩
  · obtain ⟨kept, mild⟩ := (h flag runs).fault hw.1 play
    exact ⟨⟨kept, same.trans hw.2⟩, mild⟩

end Expression.Site

/-- What is asked for beside the doings of blocks. -/
def Request.Quiet : Request → Prop
  | .look | .record _ | .run _ _ => True
  | .log line => line.isEntry = false
  | _ => False

theorem Arguments.Makes.quiet (h : Arguments.Makes me r) : r.Quiet := by
  cases r <;> simp_all [Arguments.Makes, Request.Quiet]

theorem Request.Quiet.admits (h : r.Quiet) (a : r.Reply) : r.Admits (fun _ => True) a := by
  cases r with
  | attempt _ _ _ | invoke _ _ _ => exact h.elim
  | _ => trivial

namespace World.Upkeep

section

variable (keeps : Upkeep H J) (hp : p.Minds J)

include keeps hp

theorem always_quiet (h : r.Quiet) : (r.perform p).Always J := by
  cases r with
  | look => exact fun w hw => hw
  | record call => exact fun w hw => keeps.rests hw (.record w call)
  | log line => exact fun w hw => keeps.rests hw (.mk (.aside (.push w h)))
  | run i flag => exact hp.run i flag true
  | _ => exact h.elim

theorem always_takes : ((Arguments.eval me flag).perform p).Always J :=
  (Arguments.sends_eval fun _ => Arguments.Makes.quiet).always (fun _ h => h.admits) fun _ =>
    keeps.always_quiet hp

/-! ## Calls of custom blocks -/

/-- What a call asks for is idle, binds a parameter, or runs a body. -/
theorem called {c : Site} {S : World → Prop} (hw : J w) (current : S w → ∀ n, c.calls n → n = w.current)
    (h : (S w ∧ c.Notes r) ∨ c.Body S w r) : J ((r.perform p).play w).2 := by
  cases r with
  | look => exact hw
  | bind i script name v =>
    obtain ⟨stands, -, calls⟩ := h.resolve_right id
    rw [current stands script calls]
    exact keeps.binds hw i name v
  | write r v =>
    obtain ⟨-, rfl, plain⟩ := h.resolve_right id
    exact keeps.rests hw (.written w c.kit c.prototype plain)
  | attempt i flag next => exact (hp.run i flag next).attempt w hw
  | _ => exact (h.elim And.right id).elim

theorem always_call : ((Custom.call.act me flag).perform p).Always J := by
  rw [Custom.perform_call]
  refine .bind (keeps.always_takes hp) fun args w hw => ?_
  rw [play_get_bind]
  refine Load.after_lift hw fun callee found => ?_
  obtain ⟨⟨b, hb⟩, prototyped⟩ := Custom.callee?_eq_ok found
  have orderly := keeps.orderly hw
  obtain ⟨shared, blocks, -⟩ := orderly.block?_eq hb
  -- the call is followed along what the world becomes, which keeps what the call relies on
  have ground := (orderly.ground (lt_of_attribute shared) (blocks ▸ prototyped)
    (· = .text callee.definition)).current
    w.current
  have trusts := (orderly.trusts hp.unfolds me (w.sprite me).kit callee.prototype
    (· = .text callee.definition)).current w.current (hp.current me · true)
  refine (Custom.calls_enter ground trusts rfl rfl args ⟨.refl, rfl⟩).always (fun w' _ called hw' => ?_) hw
  exact keeps.called (S := fun w' => w.Trail False w' ∧ w'.current = w.current) hp hw'
    (fun stands n (calls : n = w.current) => calls.trans stands.2.symm) called

/-! ## Scripts -/

/-- What a name on a sprite does that is used with the id of a block, or with nothing. -/
theorem always_member {m : Member} {arg : Value} (strange : ∀ c, m = .common c → arg = .null)
    (given : arg.isNull = false ∨ H me) : ((m.invoke me [arg]).perform p).Always J := by
  have quiet : ∀ {act : Act Value}, (act.Sends (fun _ => True) Request.Quiet fun _ => True) →
      (act.perform p).Always J := fun sends => sends.always (fun _ h => h.admits) fun _ => keeps.always_quiet hp
  cases m with
  | block op =>
    by_cases call : op = .custom .call
    · subst call
      exact keeps.always_call hp
    · exact keeps.acts hp call me arg given
  | common c =>
    cases strange c rfl
    refine quiet ?_
    cases c <;> simp [Member.invoke, Member.useCommon, Value.fields?]
  | touches =>
    refine quiet ?_
    simp [Member.invoke, Sensing.sends_touches (P := Request.Quiet) trivial fun _ => trivial]
  | _ => exact .throw _

theorem always_actBlock {opcode : String} (plain : opcode.toList.take 2 ≠ ['_', '_'])
    (given : flag.isNull = false) : (actBlock p me flag opcode).Always J := by
  have noted : ∀ w f, J w → J (w.noteFailure flag f) := fun w f hw =>
    keeps.rests hw (.mk (.aside (.push w rfl)))
  refine .bind .get fun w => ?_
  split
  · next m hm =>
    refine .contain_of (keeps.always_member hp (fun c common => ?_) (.inl given)) noted
    rcases Member.ofName?_plain plain hm with simple | ⟨op, block, -⟩
    · rw [common] at simple
      simp at simple
    · cases common.symm.trans block
  · refine .bind (fun w hw => ?_) fun _ => .contain_of (.throw _) noted
    exact keeps.rests hw (.mk (.aside (.push w rfl)))

omit hp in
/-- A block is entered only while the program is not to end. -/
theorem entered (running : w.done = false) {name opcode : String} {k : Run Value} (h : k.Always J)
    (hw : J w) : J ((do enterBlock name opcode; k : Run Value).play w).2 := by
  have entered : J (w.enter name opcode) := keeps.rests hw (.mk (.enter running name opcode))
  rw [play_bind, enterBlock_play]
  by_cases fuel : w.fuel - 1 < 0
  · rw [if_pos fuel]
    exact entered
  · rw [if_neg fuel]
    exact h _ entered

theorem always_runWith (next : Bool) : (runWith p me flag next).Always J := by
  intro w hw
  rcases runWith_cases p me flag next w with ⟨e, same⟩ | ⟨name, shown, b, running, hb, acts | fails⟩
  · rw [same]
    exact hw
  · obtain ⟨hop, acts⟩ := acts
    rw [acts]
    have named := (keeps.orderly hw).opcode? id hb hop
    obtain ⟨-, -, id, rfl, -⟩ := (keeps.orderly hw).block?_eq hb
    refine keeps.entered running (.bind (keeps.always_actBlock hp named rfl) fun result => ?_) hw
    cases next with
    | true =>
      refine .bind .get fun w => .bind (.lift _) fun b => ?_
      exact .bind (always_walk (fun f => hp.run me f false) _ _ _) fun _ => .pure _
    | false => exact .pure _
  · rw [fails]
    exact keeps.entered running (.throw _) hw

end

variable (keeps : Upkeep H J)

include keeps

theorem minds_player (depth : Nat) : (player depth).Minds J := by
  have current := fun depth me flag next w => (((advances_player depth).run me flag next).before w).current
  induction depth with
  | zero => exact ⟨unfolds_player 0, current 0, fun _ _ _ => .throw _⟩
  | succ depth ih => exact ⟨unfolds_player _, current _, fun _ _ next => keeps.always_runWith ih next⟩

/-- What scripts keep that are played one at a time, and the program beside them. -/
theorem upholds (onward : ∀ {w w' : World}, J w → w.Onward w' → J w')
    (ends : ∀ {w : World}, J w → J (Stage.finish w)) : Session.Upholds J where
  onward := onward
  ends := ends
  runs me flag next := .bind .get fun _ => (keeps.minds_player _).run me flag next
  reports hw m mem _ _ _ _ _ := .bind .get fun _ => keeps.always_member (keeps.minds_player _) (fun _ _ => rfl)
    (.inr (keeps.hosts _ hw m.sprite (List.mem_map_of_mem mem)))
  draws i := .bind .get fun _ => Stage.always_drawSprite (fun hw call => keeps.rests hw (.record _ call)) _ i
    fun hw image rect => keeps.rests hw (.paint _ i image rect)
  takes _ _ := .bind .get fun _ => keeps.always_takes (keeps.minds_player _)
  assigns me id v := .bind .get fun _ => keeps.assigns _ me id v

end World.Upkeep

end BlockStage
