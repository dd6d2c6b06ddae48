import BlockStage.Proofs.Run.Footing
import BlockStage.Proofs.Run.Once

/-!
# Entering a custom block

A call of a custom block whose prototype is written in literals notes its arguments (`Site.Notes`), and then
runs the body at most once (`Custom.calls_enter`). It keeps its ground, and fails only with an error of a
block (`Custom.keeps_enter`).
-/

namespace BlockStage

open Expression Run

/-! ## What a prototype says -/

namespace World

theorem rootValue?_blocks (w : World) (k : Nat) : w.rootValue? (.kit k "blocks") =
    some (.record ((w.kit k).blocks.map fun p => (p.1, Value.record p.2.fields))) := rfl

theorem write?_part (w : World) (k : Nat) (id key : String) (v : Value) :
    w.write? ⟨.kit k "blocks", [.name id, .name key]⟩ v =
      (Table.get? (w.kit k).blocks id).bind fun b => (Table.get? b.fields key).map fun _ =>
        w.updateKit k fun kit =>
          { kit with blocks := Table.put (w.kit k).blocks id ⟨Table.put b.fields key v⟩ } := by
  unfold write?
  simp only [rootValue?_blocks, Option.bind_eq_bind, Option.bind_some, Value.withPartAt?,
    Table.get?_map fun b : Block => Value.record b.fields]
  rcases Table.get? (w.kit k).blocks id with _ | b
  · rfl
  · simp only [Option.map_some, Option.bind_some, Value.withPartAt?]
    rcases Table.get? b.fields key with _ | old
    · rfl
    · have read : ∀ t : Table Block,
          (t.map fun p => (p.1, Value.record p.2.fields)).map (fun p => (p.1, Block.ofValue p.2)) = t :=
        fun t => (List.map_map ..).trans (List.map_id t)
      have put := Table.put_map (fun b : Block => Value.record b.fields) (w.kit k).blocks id
        ⟨Table.put b.fields key v⟩
      have written : ∀ fields : List (String × Value), w.withRoot? (.kit k "blocks") (.record fields) =
          some (w.updateKit k fun kit =>
            { kit with blocks := fields.map fun p => (p.1, Block.ofValue p.2) }) := fun _ => rfl
      show w.withRoot? (.kit k "blocks") (.record (Table.put _ id (Value.record _))) = _
      rw [put, written, read]
      rfl

end World

namespace Parameter

theorem mutation?_eq_ok {w : World} {me : Nat} {prototype : String} {fields : Table Value}
    (h : mutation? w me prototype = .ok fields) : ∃ b, w.block? me (.text prototype) = .ok b ∧
      Table.get? b.fields "mutation" = some (.record fields) := by
  unfold mutation? at h
  cases hb : w.block? me (.text prototype) with
  | error f => rw [hb] at h; cases h
  | ok b =>
    refine ⟨b, rfl, ?_⟩
    rw [hb] at h
    simp only [Block.get?, Value.field?, bind, Except.bind] at h
    cases hv : Table.get? b.fields "mutation" with
    | none => rw [hv] at h; cases h
    | some v =>
      rw [hv] at h
      cases v with
      | record fields' => cases h; rfl
      | _ => cases h

theorem text?_eq_ok {fields : Table Value} {key s : String} (h : text? fields key = .ok s) :
    Table.get? fields key = some (.text s) := by
  unfold text? at h
  simp only [Value.field?, bind, Except.bind] at h
  cases hv : Table.get? fields key with
  | none => rw [hv] at h; cases h
  | some v =>
    rw [hv] at h
    cases v with
    | text s' => cases h; rfl
    | _ => cases h

end Parameter

namespace Expression.Site

/-! ## Where calls stand -/

/-- The attributes of a sprite through which a call comes to its blocks and to what it has bound. -/
def tableKeys : List String := ["blocks", Sprite.argumentsKey]

/-- What a call needs of a world: the sprite has these tables as they were given to it, if at all, and
the prototype says what its parameters are in literals. -/
structure Stands (c : Site) (w : World) : Prop where
  tables : ∀ key ∈ tableKeys, ∀ v, Table.get? (w.sprite c.me).fields key = some v → v = .shared
  kit : (w.sprite c.me).kit = c.kit
  plain : ∀ b v, Table.get? (w.kit c.kit).blocks c.prototype = some b →
    Table.get? b.fields "mutation" = some v → IsPlainMutation v

/-- What stays true while a call makes its notes. -/
structure Ground (c : Site) (H : World → Prop) : Prop where
  stands : ∀ {w}, H w → c.Stands w
  calls : ∀ {w}, H w → c.calls w.current
  bind : ∀ {w}, H w → ∀ i script name v, H (w.updateSprite i (·.bind script name v))
  write : ∀ {w}, H w → ∀ {v}, IsPlainMutation v → ∀ {w'}, w.write? c.mutation v = some w' → H w'

/-- A way of running scripts that keeps what stays true. -/
def Trusts (c : Site) (H : World → Prop) (p : Player) : Prop :=
  ∀ flag, c.runs flag → (p.run c.me flag true).Keeps H fun _ => True

/-! ## What a call asks for -/

/-- What the call of a custom block asks for beside running the body. -/
def Notes (c : Site) : Request → Prop
  | .look => True
  | .bind i script _ _ => i = c.me ∧ c.calls script
  | .write r v => r = c.mutation ∧ IsPlainMutation v
  | _ => False

/-- A request to run a body, where what stays true is true. -/
def Body (c : Site) (H : World → Prop) (w : World) : Request → Prop
  | .attempt i flag next => H w ∧ i = c.me ∧ c.runs flag ∧ next = true
  | _ => False

/-- An act that only makes notes, beside what it may ask for once. -/
abbrev Calls (c : Site) (H : World → Prop) (p : Player) {α : Type}
    (Q : Except Failure α → World → Prop) (B : World → Request → Prop) (act : Act α) (w : World) : Prop :=
  act.Once p (fun w r => H w ∧ c.Notes r) Q B w

variable {c : Site} {H : World → Prop} {p : Player} {w : World}

theorem Stands.plain_mutation? (stands : c.Stands w) {fields : Table Value}
    (said : Parameter.mutation? w c.me c.prototype = .ok fields) : IsPlainMutation (.record fields) := by
  obtain ⟨b, hb, found⟩ := Parameter.mutation?_eq_ok said
  obtain ⟨t, id, ht, hid, hb⟩ := World.block?_eq_ok hb
  cases hid
  have blocks : t = (w.kit c.kit).blocks := by
    rw [World.blocks?, Sprite.get?] at ht
    cases hv : Table.get? (w.sprite c.me).fields "blocks" with
    | none => rw [hv] at ht; cases ht
    | some v =>
      obtain rfl := stands.tables _ (by decide) v hv
      rw [hv] at ht
      cases ht
      rw [stands.kit]
  exact stands.plain b _ (blocks ▸ hb) found

/-- Where a call stands, the parameters of its prototype are literal. -/
theorem Stands.areLiteral (stands : c.Stands w) (n : Nat) :
    Parameter.areLiteral w c.me c.prototype n = true := by
  have own : ∀ key ∈ tableKeys, Parameter.isOwn (w.sprite c.me) key = true := fun key hkey => by
    unfold Parameter.isOwn
    cases hv : Table.get? (w.sprite c.me).fields key with
    | none => rfl
    | some v => rw [stands.tables key hkey v hv]
  unfold Parameter.areLiteral
  rw [own _ (by decide), own _ (by decide), stands.kit]
  cases hb : Table.get? (w.kit c.kit).blocks c.prototype with
  | none => rfl
  | some b =>
    cases hv : Table.get? b.fields "mutation" with
    | none => simp [hv]
    | some v => simp [hv, (stands.plain b v hb hv).isPlain n]

theorem calls_lift {α β : Type} {B : World → Request → Prop} {e : Except Fault α} {k : α → Act β}
    (hw : H w) (ok : ∀ a, e = .ok a → c.Calls H p (fun e w => H w ∧ e ≠ .error .exit) B (k a) w) :
    c.Calls H p (fun e w => H w ∧ e ≠ .error .exit) B (liftM e >>= k) w :=
  .lift_bind (fun f _ => ⟨hw, by simp⟩) ok

/-- An argument is bound by making notes. -/
theorem calls_bind (ground : c.Ground H) (key : String) (value : Value) (hw : H w) :
    c.Calls H p (fun e w => H w ∧ e ≠ .error .exit) (fun _ _ => False)
      (Parameter.bindOne c.me c.prototype key value) w := by
  have stands := ground.stands hw
  unfold Parameter.bindOne
  simp only [Act.ask_bind, Act.ret_bind]
  refine .look ⟨hw, trivial⟩ (calls_lift hw fun fields said => calls_lift hw fun s hs => ?_)
  have plain := (stands.plain_mutation? said).put_ids (Parameter.text?_eq_ok hs)
  have place : Parameter.place w c.me c.prototype = c.mutation := by
    rw [Parameter.place, stands.kit, Site.mutation]
  refine .ask ⟨hw, place, plain⟩ fun _ w' play => ?_
  have hw' : H w' := by
    have written : (w.write? (Parameter.place w c.me c.prototype) _).getD w = w' := congrArg Prod.snd play
    rw [← written, place]
    cases hwrite : w.write? c.mutation _ with
    | none => exact hw
    | some w' => exact ground.write hw plain hwrite
  refine calls_lift hw' fun name _ => calls_lift hw' fun _ _ =>
    calls_lift hw' fun _ _ => .ask ⟨hw', rfl, ground.calls hw⟩ fun _ w'' play => ?_
  cases play
  exact ⟨ground.bind hw' _ _ _ _, nofun⟩

theorem calls_bindAll (ground : c.Ground H) (args : Arguments) (hw : H w) :
    c.Calls H p (fun e w => H w ∧ e ≠ .error .exit) (fun _ _ => False)
      (Parameter.bindAll c.me c.prototype args) w := by
  induction args generalizing w with
  | nil => exact ⟨hw, nofun⟩
  | cons arg rest ih =>
    exact (calls_bind ground arg.1 arg.2 hw).bind (fun _ _ after => ih after.1)
      fun e _ after => ⟨after.1, by simpa using after.2⟩

theorem calls_runFrom (trusts : c.Trusts H p) {flag : Value} (runs : c.runs flag) (hw : H w) :
    c.Calls H p (fun e w => H w ∧ e ≠ .error .exit) (c.Body H) (Written.use.runFrom c.me flag true) w := by
  refine .inr ⟨⟨hw, rfl, runs, rfl⟩, fun reply w' play => ?_⟩
  have ran : (Run.attempt (p.run c.me flag true)).play w = (.ok reply, w') := play
  rw [play_attempt] at ran
  rcases hr : (p.run c.me flag true).play w with ⟨(f | _ | _) | v, w1⟩ <;> rw [hr] at ran <;> cases ran
  · obtain ⟨hw', mild⟩ := (trusts flag runs).fault hw hr
    exact ⟨hw', by simpa using mild⟩
  · exact ⟨((trusts flag runs).ok hw hr).1, nofun⟩

end Expression.Site

namespace Custom

variable {c : Site} {H : World → Prop} {p : Player} {w : World}

theorem calls_enter (ground : c.Ground H) (trusts : c.Trusts H p) {callee : Callee}
    (prototype : callee.prototype = c.prototype) (runs : c.runs (.text callee.definition))
    (args : Arguments) (hw : H w) :
    c.Calls H p (fun e w => H w ∧ e ≠ .error .exit) (c.Body H) (enter c.me callee args) w := by
  have same : ∀ {α β : Type} (e : Failure) (w : World), H w ∧ (.error e : Except Failure α) ≠ .error .exit →
      H w ∧ (.error e : Except Failure β) ≠ .error .exit := fun e _ after => ⟨after.1, by simpa using after.2⟩
  unfold enter
  refine .look ⟨hw, trivial⟩ ?_
  rw [prototype, (ground.stands hw).areLiteral, if_pos rfl]
  exact (Site.calls_bindAll ground args hw).bind (fun _ _ after =>
    (Site.calls_runFrom trusts runs after.1).bind_quiet (fun _ _ after => ⟨after.1, nofun⟩) same) same

theorem never_calls (w : World) (r : Request) (h : (H w ∧ c.Notes r) ∨ c.Body H w r) (e : Failure)
    (w' : World) : (r.perform p).play w ≠ (.error (.fault e), w') := by
  cases r with
  | look | bind _ _ _ _ | write _ _ => exact nofun
  | attempt i flag next =>
    exact (Leads.attempt (P := fun _ => True) (R := fun _ _ => True) (fun _ _ => trivial)
      fun _ _ => trivial).never trivial
  | _ => rcases h with ⟨-, h⟩ | h <;> exact h.elim

theorem keeps_enter (ground : c.Ground H) (trusts : c.Trusts H p) {callee : Callee}
    (prototype : callee.prototype = c.prototype) (runs : c.runs (.text callee.definition))
    (args : Arguments) : ((enter c.me callee args).perform p).Keeps H fun _ => True := by
  have ends := fun {w} (hw : H w) => (calls_enter ground trusts prototype runs args hw).ends never_calls
  exact ⟨fun hw play => ⟨((ends hw).1 _ _ play).1, trivial⟩, fun hw play =>
    ⟨((ends hw).2 _ _ play).1, by simpa using ((ends hw).2 _ _ play).2⟩⟩

end Custom

/-! ## Calls on a footing -/

namespace Footing

/-- The place where a custom block with a prototype is called, and what can be run there. -/
def site (c : Footing) (prototype : String) (runs : Value → Prop) : Site where
  me := c.me
  kit := c.kit
  prototype := prototype
  runs := runs

def HasPrototype (c : Footing) (id : String) : Prop := ∃ o, (id, o) ∈ c.blocks ∧ o.IsPrototype

variable {c : Footing} {w : World} {id : String} {runs : Value → Prop} {p : Player}

theorem Holds.write (h : c.Holds w) {v : Value} (plain : IsPlainMutation v) {w' : World}
    (hw : w.write? (c.site id runs).mutation v = some w') : c.Holds w' := by
  rw [Site.mutation, site, World.write?_part] at hw
  obtain ⟨b, hb, hw⟩ := Option.bind_eq_some_iff.1 hw
  obtain ⟨_, -, rfl⟩ := Option.map_eq_some_iff.1 hw
  refine h.putBlock hb ?_ fun v' hv' => ?_
  · simp only [Block.outline, Table.get?_put_of_ne _ _ (show "mutation" ≠ "opcode" by decide),
      Table.get?_put_of_ne _ _ (show "mutation" ≠ "next" by decide)]
  · rw [Table.get?_put_self] at hv'
    cases hv'
    exact plain

/-- A way of running scripts that keeps the footing. A script that starts at a block that there is meets
no fault. -/
structure Trusts (c : Footing) (p : Player) : Prop where
  run : ∀ flag next, (p.run c.me flag next).Keeps c.Holds fun _ => True
  never : ∀ {flag next w w' f}, Outline.IsFlag c.blocks flag → c.Holds w →
    (p.run c.me flag next).play w ≠ (.error (.fault f), w')

theorem Holds.tables (h : c.Holds w) {key : String} (hkey : key ∈ Site.tableKeys) :
    Table.get? (w.sprite c.me).fields key = some .shared := by
  simp only [Site.tableKeys, List.mem_cons, List.not_mem_nil, or_false] at hkey
  rcases hkey with rfl | rfl
  · exact h.shared
  · exact h.arguments

theorem ground (hid : c.HasPrototype id) (runs : Value → Prop) : (c.site id runs).Ground c.Holds where
  stands h := by
    obtain ⟨o, ho, prototype⟩ := hid
    refine ⟨fun key hkey v found => ?_, h.kit, fun b v => h.plain id o ho prototype b v⟩
    exact Option.some.inj (found.symm.trans (h.tables hkey))
  calls _ := trivial
  bind := Holds.bind
  write h _ plain _ written := h.write plain written

theorem Trusts.site (hp : c.Trusts p) (id : String) (runs : Value → Prop) :
    (c.site id runs).Trusts c.Holds p := fun flag _ => hp.run flag true

/-- What the call of a custom block asks for beside running the body. -/
def Notes (c : Footing) (id : String) : Request → Prop
  | .look | .bind _ _ _ _ => True
  | .write r v => r = ⟨.kit c.kit "blocks", [.name id, .name "mutation"]⟩ ∧ IsPlainMutation v
  | _ => False

/-- A request to run a body, where the footing holds. -/
def Body (c : Footing) (runs : Value → Prop) (w : World) : Request → Prop
  | .attempt i flag next => c.Holds w ∧ i = c.me ∧ runs flag ∧ next = true
  | _ => False

/-- An act that only makes notes where the footing holds, beside what it may ask for once. -/
abbrev Calls (c : Footing) (p : Player) (id : String) {α : Type} (Q : Except Failure α → World → Prop)
    (B : World → Request → Prop) (act : Act α) (w : World) : Prop :=
  act.Once p (fun w r => c.Holds w ∧ c.Notes id r) Q B w

/-- The call of a custom block makes notes, and runs the body at most once. -/
theorem calls_enter (hp : c.Trusts p) {callee : Custom.Callee} (prototype : c.HasPrototype callee.prototype)
    (args : Arguments) (hw : c.Holds w) :
    c.Calls p callee.prototype (fun e w => c.Holds w ∧ e ≠ .error .exit) (c.Body (· = .text callee.definition))
      (Custom.enter c.me callee args) w := by
  refine (Custom.calls_enter (ground prototype (· = .text callee.definition)) (hp.site _ _) rfl rfl
    args hw).weaken (fun w r ⟨hw, notes⟩ => ⟨hw, ?_⟩) (fun w r h => ?_) fun _ _ h => h
  · cases r with
    | look | bind _ _ _ _ => trivial
    | write r v => exact notes
    | _ => exact notes.elim
  · cases r with
    | attempt _ _ _ => exact h
    | _ => exact h.elim

end Footing

end BlockStage
