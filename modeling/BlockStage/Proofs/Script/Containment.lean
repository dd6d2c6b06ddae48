import BlockStage.Proofs.Custom.Entering
import BlockStage.Proofs.Script.Leaves

/-!
# Errors stay within their blocks

Whatever the blocks of a sprite do, an error of a block is logged there and the script goes on with the
block that comes next. What this needs of the sprite is a `Footing`.
-/

namespace BlockStage

open Act Run

theorem Custom.outline_of_prototype? {t : Table Block} {id : String} (h : prototype? t = some id) :
    ∃ o, (id, o) ∈ outlineOf t ∧ o.IsPrototype := by
  obtain ⟨⟨id, b⟩, found, rfl⟩ := Option.map_eq_some_iff.1 h
  have mem : (id, b) ∈ t := List.mem_reverse.1 (List.mem_of_find?_eq_some found)
  have isPrototype : b.hasOpcode "procedures_prototype" = true := by
    simpa using List.find?_some found
  refine ⟨b.outline, List.mem_map_of_mem (f := fun p : String × Block => (p.1, p.2.outline)) mem, ?_⟩
  unfold Block.hasOpcode at isPrototype
  split at isPrototype
  · next v hv => exact ⟨v, hv, isPrototype⟩
  · cases isPrototype

/-! ## What blocks ask for -/

namespace Footing

variable {c : Footing} {p : Player} {I : World → Prop} {flag : Value}

/-- What the blocks of a sprite ask for beside ordinary requests. -/
def Asks (c : Footing) : Request → Prop
  | .run i _ => i = c.me
  | .addClone _ | .start _ _ | .delete _ | .stop | .tick => True
  | _ => False

theorem keeps_request (hp : c.Trusts p) {r : Request} (h : r.Ordinary ∨ c.Asks r) :
    (r.perform p).Keeps c.Holds (r.Admits c.Holds) := by
  rcases h with ordinary | asks
  · exact Request.keeps_ordinary p c.me (fun _ h => h) (fun _ _ h kept => h.of_kept kept) ordinary
  · cases r with
    | run i flag =>
      cases asks
      exact hp.run flag true
    | addClone i =>
      exact Leads.keeps (.of_play fun w hw => ⟨_, _, rfl, hw.addClone i, trivial⟩)
    | start i flag =>
      exact Leads.keeps (.of_play fun w hw => ⟨_, _, rfl, hw.of_sprites rfl rfl, trivial⟩)
    | delete i => exact Leads.keeps (.of_play fun w hw => ⟨_, _, rfl, hw.delete i, trivial⟩)
    | stop =>
      exact Leads.keeps (.of_play fun w hw => ⟨_, _, rfl, hw.of_sprites rfl rfl, trivial⟩)
    | tick =>
      refine .bind (Q := fun _ => True) (Leads.keeps (.of_play fun w hw =>
        ⟨_, _, rfl, hw.of_sprites rfl rfl, trivial⟩)) fun _ _ => ?_
      refine .bind (Q := fun _ => True) (Leads.keeps (.of_play fun w hw => ⟨_, _, rfl, hw, trivial⟩))
        fun w _ => ?_
      split
      · exact .throw nofun
      · exact .pure trivial
    | _ => exact asks.elim

theorem asks_of_asked {r : Request} (h : r.Asked c.me) : c.Asks r := by
  cases r with
  | run i flag => exact h
  | addClone _ | start _ _ | delete _ | stop => trivial
  | _ => exact h.elim

theorem takesWithin : TakesWithin I c.Asks c.me flag := .of_asked fun _ => asks_of_asked

theorem within_opcode {op : Opcode} (other : op ≠ .custom .call) :
    (op.act c.me flag).Within I c.Asks fun _ => True :=
  Opcode.within_act (fun _ => asks_of_asked) other fun _ _ _ => trivial

/-! ## Calls of custom blocks -/

theorem Holds.blocks_eq {w : World} (h : c.Holds w) : w.blocks c.me = (w.kit c.kit).blocks := by
  rw [World.blocks, h.blocks?]
  rfl

theorem hasPrototype {w : World} (h : c.Holds w) {id : String}
    (hid : Custom.prototype? (w.kit c.kit).blocks = some id) : c.HasPrototype id := by
  rw [HasPrototype, ← h.blocks]
  exact Custom.outline_of_prototype? hid

theorem keeps_call (hp : c.Trusts p) :
    ((Custom.call.act c.me flag).perform p).Keeps c.Holds fun _ => True := by
  have within : TakesWithin c.Holds c.Asks c.me flag := takesWithin
  rw [Custom.perform_call]
  refine (keeps_perform (fun _ h => keeps_request hp h) within).bind fun args _ => ?_
  refine .bind (Q := c.Holds) (Leads.keeps (.of_play fun w hw => ⟨_, _, rfl, hw, hw⟩)) fun w hw => ?_
  refine .bind (.lift fun _ => Custom.callee?_eq_ok) ?_
  rintro callee ⟨-, prototype⟩
  rw [hw.blocks_eq] at prototype
  exact Custom.keeps_enter (ground (hasPrototype hw prototype) (· = .text callee.definition))
    (hp.site _ _) rfl rfl args

/-! ## Blocks -/

theorem keeps_opcode (hp : c.Trusts p) (op : Opcode) :
    ((op.act c.me flag).perform p).Keeps c.Holds fun _ => True := by
  by_cases call : op = .custom .call
  · subst call
    exact keeps_call hp
  · exact keeps_perform (fun _ h => keeps_request hp h) (within_opcode call)

/-- Whatever an opcode means on the sprite, it keeps the footing. -/
theorem keeps_member (hp : c.Trusts p) {opcode : String} (plain : opcode.toList.take 2 ≠ ['_', '_'])
    {s : Sprite} {m : Member} (hm : Member.ofName? s opcode = some m) :
    ((m.invoke c.me [flag]).perform p).Keeps c.Holds fun _ => True := by
  rcases Member.ofName?_plain plain hm with simple | ⟨op, rfl, -⟩
  · exact keeps_perform (fun _ h => keeps_request hp h) (Member.within_simple simple _ _ c.Holds c.Asks)
  · exact keeps_opcode hp op

/-! ## Scripts -/

/-- A block that keeps the footing is left without a fault. -/
theorem leads_contain {Q : Value → Prop} {r : Run Value} (h : r.Keeps c.Holds Q) :
    (contain flag r).Leads c.Holds fun _ => c.Holds where
  ok hw play := by
    rcases contain_eq_ok play with done | ⟨f, w1, failed, -, rfl⟩
    · exact (h.ok hw done).1
    · exact (h.fault hw failed).1.of_kept (.noteFailure flag f)
  never hw play := by
    obtain ⟨failed, other⟩ := contain_eq_error play
    rename_i e
    cases e with
    | error f => exact other f rfl
    | exit => exact (h.fault hw failed).2 rfl

theorem leads_actBlock (hp : c.Trusts p) {opcode : String} (plain : opcode.toList.take 2 ≠ ['_', '_']) :
    (actBlock p c.me flag opcode).Leads c.Holds fun _ => c.Holds := by
  refine .get_bind fun w hw => ?_
  split
  · next member hm =>
    exact (leads_contain (keeps_member hp plain hm)).mono (fun _ h => h ▸ hw) fun _ _ h => h
  · refine .bind (R := fun _ => c.Holds) (.of_play fun w' h =>
      ⟨_, _, rfl, (h ▸ hw).of_sprites rfl rfl⟩) fun _ => ?_
    exact leads_contain (Q := fun _ => True) (.throw nofun)

theorem leads_enterBlock (sprite opcode : String) :
    (enterBlock sprite opcode).Leads c.Holds fun _ => c.Holds where
  ok {w w' _} hw play := by
    rw [enterBlock_play] at play
    obtain rfl : w.enter sprite opcode = w' := congrArg Prod.snd play
    exact hw.of_kept (.enter sprite opcode)
  never _ play := by
    rw [enterBlock_play] at play
    have ended := congrArg Prod.fst play
    dsimp only at ended
    split at ended <;> cases ended

theorem Trusts.leads (hp : c.Trusts p) (hflag : Outline.IsFlag c.blocks flag) (next : Bool) :
    (p.run c.me flag next).Leads c.Holds fun _ => c.Holds where
  ok hw play := ((hp.run flag next).ok hw play).1
  never hw := hp.never hflag hw

/-- The blocks that come next are entered one after another. -/
theorem leads_walk (hp : c.Trusts p) (n : Nat) (hflag : Outline.IsFlag c.blocks flag) :
    (walk (fun f => p.run c.me f false) c.me n flag).Leads c.Holds fun _ => c.Holds := by
  induction n generalizing flag with
  | zero =>
    rw [walk]
    split
    · exact .pure fun _ h => h
    · exact .throw (by simp)
  | succ n ih =>
    rw [walk]
    split
    · exact .pure fun _ h => h
    · next hnull =>
      refine .get_bind fun w hw => ?_
      obtain ⟨deleted, hmode⟩ := hw.hasMode? .deleted
      rw [hmode, Run.lift_ok_bind]
      split
      · exact .pure fun _ h => h ▸ hw
      · refine .bind ((hp.leads hflag false).mono (fun _ h => h ▸ hw) fun _ _ h => h) fun _ => ?_
        refine .get_bind fun w hw => ?_
        obtain ⟨b, hb⟩ := hw.block?_of_flag hflag (by simpa using hnull)
        rw [hb, Run.lift_ok_bind]
        exact (ih (hw.next hb)).mono (fun _ h => h ▸ hw) fun _ _ h => h

theorem leads_goOn (hp : c.Trusts p) (hflag : Outline.IsFlag c.blocks flag)
    (hnull : flag.isNull = false) (result : Value) :
    (goOn p c.me flag result).Leads c.Holds fun _ => c.Holds := by
  refine .get_bind fun w hw => ?_
  obtain ⟨b, hb⟩ := hw.block?_of_flag hflag hnull
  rw [hb, Run.lift_ok_bind]
  refine .bind ((leads_walk hp _ (hw.next hb)).mono (fun _ h => h ▸ hw) fun _ _ h => h) fun _ => ?_
  exact .pure fun _ h => h

theorem Holds.meets {w : World} (hw : c.Holds w) {b : Block} (running : w.done = false)
    (hb : w.block? c.me flag = .ok b) : w.Meets c.me flag c.name b :=
  ⟨running, hw.name, hb⟩

/-- A script that starts at a block that there is meets no fault. -/
theorem leads_runWith (hp : c.Trusts p) (hflag : Outline.IsFlag c.blocks flag) (next : Bool) :
    (runWith p c.me flag next).Leads c.Holds fun _ => c.Holds := by
  refine .of_each fun w hw => ?_
  by_cases idle : w.done = true ∨ flag.isNull = true
  · exact .of_play fun _ h => ⟨.null, w, by rw [h]; exact runWith_idle p c.me next idle, hw⟩
  · obtain ⟨running, hnull⟩ := not_idle idle
    obtain ⟨b, hb⟩ := hw.block?_of_flag hflag hnull
    obtain ⟨opcode, hop, plain⟩ := hw.opcode? hb
    refine .of_eq (s := do
      enterBlock c.name opcode
      let result ← actBlock p c.me flag opcode
      if next then goOn p c.me flag result else return result) ?_ ?_
    · refine .bind ((leads_enterBlock c.name opcode).mono (fun _ h => h ▸ hw) fun _ _ h => h) fun _ => ?_
      refine .bind (leads_actBlock hp plain) fun result => ?_
      cases next with
      | true => exact leads_goOn hp hflag hnull result
      | false => exact .pure fun _ h => h
    · rintro _ rfl
      exact runWith_play p next (hw.meets running hb) hop

/-- Any script keeps the footing. It fails at most for a block that there is not. -/
theorem keeps_runWith (hp : c.Trusts p) (flag : Value) (next : Bool) :
    (runWith p c.me flag next).Keeps c.Holds fun _ => True := by
  by_cases hflag : Outline.IsFlag c.blocks flag
  · exact Leads.keeps ((leads_runWith hp hflag next).mono (fun _ h => h) fun _ _ h => ⟨h, trivial⟩)
  · -- No world has such a block, so the script does nothing or fails before it enters one.
    have missing : ∀ {w}, c.Holds w → (runWith p c.me flag next).play w = (.ok .null, w) ∨
        ∃ f : Fault, (runWith p c.me flag next).play w = (.error (.fault f), w) := by
      intro w hw
      cases running : w.done with
      | true => exact .inl (runWith_idle p c.me next (.inl running))
      | false =>
        have hnull : flag.isNull = false := by
          cases flag with
          | null => exact absurd (.inl rfl) hflag
          | _ => rfl
        cases hb : w.block? c.me flag with
        | ok b =>
          obtain ⟨id, rfl, found⟩ := hw.outline_of_block? hb
          exact absurd (.inr ⟨id, rfl, by rw [found]; rfl⟩) hflag
        | error f => exact .inr ⟨f, runWith_missing p next running hnull hw.name hb⟩
    constructor
    · intro w w' v hw play
      rcases missing hw with idle | ⟨f, failed⟩
      · cases idle.symm.trans play
        exact ⟨hw, trivial⟩
      · cases failed.symm.trans play
    · intro w w' f hw play
      rcases missing hw with idle | ⟨f, failed⟩
      · cases idle.symm.trans play
      · cases failed.symm.trans play
        exact ⟨hw, nofun⟩

/-- Whatever the depth, scripts are run in a way that keeps the footing. -/
theorem trusts_player (c : Footing) (depth : Nat) : c.Trusts (player depth) := by
  induction depth with
  | zero =>
    exact {
      run := fun _ _ => .throw nofun
      never := fun _ _ h => nomatch h }
  | succ depth ih =>
    exact ⟨keeps_runWith ih, fun hflag => (leads_runWith ih hflag _).never⟩

end Footing

end BlockStage
