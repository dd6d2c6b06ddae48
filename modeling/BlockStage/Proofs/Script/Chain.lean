import BlockStage.Proofs.Run.Limits
import BlockStage.Proofs.Script.Containment

/-!
# Scripts go on

Running a block of a sprite never ends with a fault, and the blocks that come next are entered one after
another, whatever became of those before: `runBlock_contained`. What this needs of the sprite is
`World.Runnable`: an expression in a prototype can take the blocks away that the script is about to enter
(`clearedBlocks_fault`).
-/

namespace BlockStage

open Run

variable {w : World} {depth me : Nat} {r : Except Stop Value}
open Expression (IsPlainMutation)

namespace World

/-- A sprite as it is loaded or cloned, whose blocks have names for opcodes. The blocks that come next
are there. -/
structure Scripted (w : World) (me : Nat) : Prop where
  named : ∃ name, (w.sprite me).name?.bind Value.display? = .ok name
  mode : ∃ v, (w.sprite me).get? CloneMode.key = .ok v
  shared : (w.sprite me).get? "blocks" = .ok .shared
  arguments : (w.sprite me).get? Sprite.argumentsKey = .ok .shared
  opcodes : ∀ id b, Table.get? (w.blocks me) id = some b →
    ∃ s, b.opcode? = .ok (.text s) ∧ s.toList.take 2 ≠ ['_', '_']
  closed : ∀ id b, Table.get? (w.blocks me) id = some b →
    b.next = .null ∨ ∃ b', w.block? me b.next = .ok b'

/-- Such a sprite, where prototypes say in literals what their parameters are. -/
structure Runnable (w : World) (me : Nat) : Prop extends w.Scripted me where
  prototypes : ∀ id b, (id, b) ∈ w.blocks me → b.hasOpcode "procedures_prototype" = true → ∀ b' v,
    Table.get? (w.blocks me) id = some b' → Table.get? b'.fields "mutation" = some v →
      IsPlainMutation v

def HasFlag (w : World) (me : Nat) (flag : Value) : Prop :=
  flag = .null ∨ ∃ b, w.block? me flag = .ok b

/-- The program is to end, or the sprite is a clone that was deleted. -/
def Stopped (w : World) (me : Nat) : Prop :=
  w.done = true ∨ (w.sprite me).hasMode? .deleted = .ok true

/-- Block `flag` of sprite `me` is run on its own, with the result `r`, which leaves the world `w'`. That
it is entered is noted before anything else. -/
structure Enters (w : World) (me : Nat) (flag : Value) (r : Except Stop Value) (w' : World) : Prop where
  alone : ∃ depth, w.depth ≤ depth ∧ ((player depth).run me flag false).play w = (r, w')
  noted : ∃ name b opcode, (w.sprite me).name?.bind Value.display? = .ok name ∧
    w.block? me flag = .ok b ∧ b.opcode? = .ok (.text opcode) ∧
      w.log.toList ++ [.entered name opcode] <+: w'.log.toList

/-- The blocks of a script from `flag` on are entered one after another, until there are no more, the
script is stopped, or one of them does not come back. -/
inductive Chain (me : Nat) : World → Value → Except Stop Unit → World → Prop
  | null (w : World) : Chain me w .null (.ok ()) w
  | stopped {w : World} (flag : Value) (h : w.Stopped me) : Chain me w flag (.ok ()) w
  /-- Once the program is to end, nothing is entered, even if the blocks form a circle. -/
  | circling {w : World} (flag : Value) (h : w.done = true) : Chain me w flag (.error .endless) w
  | enter {w w1 w' : World} {flag v : Value} {b : Block} {r : Except Stop Unit}
      (running : ¬ w.Stopped me) (entered : w.Enters me flag (.ok v) w1)
      (found : w1.block? me flag = .ok b) (more : Chain me w1 b.next r w') : Chain me w flag r w'
  | cut {w w' : World} {flag : Value} {why : Stop} (running : ¬ w.Stopped me)
      (entered : w.Enters me flag (.error why) w') : Chain me w flag (.error why) w'

/-- What becomes of block `flag` of a sprite, and of the blocks after it if `next`. -/
inductive Script (w : World) (me : Nat) (flag : Value) : (next : Bool) → Except Stop Value → World → Prop
  | idle (next : Bool) (h : w.done = true ∨ flag = .null) : Script w me flag next (.ok .null) w
  | cut (next : Bool) {w' : World} {why : Stop} (entered : w.Enters me flag (.error why) w') :
      Script w me flag next (.error why) w'
  | alone {w' : World} {v : Value} (entered : w.Enters me flag (.ok v) w') :
      Script w me flag false (.ok v) w'
  | chain {w1 w' : World} {v : Value} {b : Block} {r : Except Stop Value}
      (entered : w.Enters me flag (.ok v) w1) (found : w1.block? me flag = .ok b)
      (more : Chain me w1 b.next (r.map fun _ => ()) w') : Script w me flag true r w'

theorem depth_le_of_fuel {w' : World} (less : w'.fuel < w.fuel) (some : 0 < w.fuel) :
    w'.depth + 2 ≤ w.depth := by
  unfold World.depth
  omega

/-- A block that is entered is noted first. That it comes back takes fuel. -/
theorem Meets.entered {w' : World} {flag : Value} {name opcode : String} {b : Block}
    (h : w.Meets me flag name b) (hop : b.opcode? = .ok (.text opcode))
    (play : ((player (depth + 1)).run me flag false).play w = (r, w')) :
    (w.enter name opcode).Before w' ∧ ∀ v, r = .ok v → 0 < w.fuel := by
  change (runWith (player depth) me flag false).play w = _ at play
  rw [runWith_play (player depth) false h hop, play_bind, enterBlock_play] at play
  by_cases left : w.fuel - 1 < 0
  · simp only [left, if_true] at play
    cases play
    exact ⟨.refl _, nofun⟩
  · simp only [left, if_false] at play
    have acts : (do
        let result ← actBlock (player depth) me flag opcode
        if false then goOn (player depth) me flag result else return result).Advances :=
      .bind (advances_actBlock (advances_player depth) me flag opcode) fun v => .pure v
    have before := acts.before (w.enter name opcode)
    rw [play] at before
    exact ⟨before, fun _ _ => by omega⟩

end World

namespace Footing

variable {c : Footing} {w w' : World} {flag : Value}

theorem Holds.enters (hw : c.Holds w) (running : w.done = false) (hnull : flag.isNull = false)
    (hflag : Outline.IsFlag c.blocks flag) (deep : w.depth ≤ depth + 1)
    (play : ((player (depth + 1)).run c.me flag false).play w = (r, w')) :
    w.Enters c.me flag r w' ∧ ∀ v, r = .ok v → w'.depth + 2 ≤ w.depth ∧ w'.fuel.toNat < w.fuel.toNat := by
  obtain ⟨b, hb⟩ := hw.block?_of_flag hflag hnull
  obtain ⟨opcode, hop, -⟩ := hw.opcode? hb
  obtain ⟨before, fueled⟩ := (hw.meets running hb).entered hop play
  have spent : w'.fuel ≤ w.fuel - 1 := before.fuel
  refine ⟨⟨⟨depth + 1, deep, play⟩, c.name, b, opcode, hw.name, hb, hop, ?_⟩, fun v hv => ?_⟩
  · simpa [World.enter] using before.log
  · have some := fueled v hv
    exact ⟨World.depth_le_of_fuel (by omega) some, by omega⟩

/-- Once the program is to end, the blocks that come next are passed without being entered. -/
theorem Holds.walk_done (hw : c.Holds w) (done : w.done = true) (hflag : Outline.IsFlag c.blocks flag)
    (depth n : Nat) {r : Except Stop Bool}
    (play : (walk (fun f => (player (depth + 1)).run c.me f false) c.me n flag).play w = (r, w')) :
    World.Chain c.me w flag (r.map fun _ => ()) w' := by
  suffices passed : w' = w ∧ ((∃ reached, r = .ok reached) ∨ r = .error .endless) by
    obtain ⟨rfl, ⟨reached, rfl⟩ | rfl⟩ := passed
    · exact .stopped flag (.inl done)
    · exact .circling flag done
  induction n generalizing flag with
  | zero =>
    rw [walk] at play
    split at play <;> cases play
    · exact ⟨rfl, .inl ⟨true, rfl⟩⟩
    · exact ⟨rfl, .inr rfl⟩
  | succ n ih =>
    cases hnull : flag.isNull with
    | true =>
      rw [walk_end _ _ _ hnull] at play
      cases play
      exact ⟨rfl, .inl ⟨true, rfl⟩⟩
    | false =>
      obtain ⟨deleted, hmode⟩ := hw.hasMode? .deleted
      cases deleted with
      | true =>
        cases (walk_deleted n hnull hmode).symm.trans play
        exact ⟨rfl, .inl ⟨false, rfl⟩⟩
      | false =>
        have idle : ((player (depth + 1)).run c.me flag false).play w = (.ok .null, w) :=
          runWith_idle (player depth) c.me false (.inl done)
        obtain ⟨b, hb⟩ := hw.block?_of_flag hflag hnull
        rw [walk_enter n hnull hmode, play_bind_ok idle, play_get_bind, hb,
          Run.lift_ok_bind] at play
        exact ih (hw.next hb) play

/-- The blocks that come next are entered one after another. The fuel bounds how many they are. -/
theorem Holds.chain_walk (hw : c.Holds w) (hflag : Outline.IsFlag c.blocks flag) {n : Nat}
    (deep : w.depth ≤ depth + 1) (room : w.fuel.toNat < n) {r : Except Stop Bool}
    (play : (walk (fun f => (player (depth + 1)).run c.me f false) c.me n flag).play w = (r, w')) :
    World.Chain c.me w flag (r.map fun _ => ()) w' := by
  induction n generalizing w flag with
  | zero => omega
  | succ n ih =>
    by_cases idle : w.done = true ∨ flag.isNull = true
    · rcases idle with done | hnull
      · exact hw.walk_done done hflag depth (n + 1) play
      · rw [walk_end _ _ _ hnull] at play
        cases flag <;> cases hnull
        cases play
        exact .null _
    · obtain ⟨running, hnull⟩ := not_idle idle
      obtain ⟨deleted, hmode⟩ := hw.hasMode? .deleted
      cases deleted with
      | true =>
        cases (walk_deleted n hnull hmode).symm.trans play
        exact .stopped flag (.inr hmode)
      | false =>
        have goes : ¬ w.Stopped c.me := by
          simp [World.Stopped, running, hmode]
        rw [walk_enter n hnull hmode] at play
        rcases entered : ((player (depth + 1)).run c.me flag false).play w with ⟨why | v, w1⟩
        · rw [play_bind_error entered] at play
          cases play
          exact .cut goes (hw.enters running hnull hflag deep entered).1
        · obtain ⟨enters, spent⟩ := hw.enters running hnull hflag deep entered
          obtain ⟨shallower, less⟩ := spent v rfl
          have hw1 : c.Holds w1 := (((trusts_player c (depth + 1)).run flag false).ok hw entered).1
          obtain ⟨b, hb⟩ := hw1.block?_of_flag hflag hnull
          rw [play_bind_ok entered, play_get_bind, hb, Run.lift_ok_bind] at play
          exact .enter goes enters hb (ih hw1 (hw1.next hb) (by omega) (by omega) play)

theorem Holds.chain_goOn (hw : c.Holds w) (hflag : Outline.IsFlag c.blocks flag)
    (hnull : flag.isNull = false) (deep : w.depth ≤ depth + 1) {result : Value}
    (play : (goOn (player (depth + 1)) c.me flag result).play w = (r, w')) :
    ∃ b, w.block? c.me flag = .ok b ∧ World.Chain c.me w b.next (r.map fun _ => ()) w' := by
  obtain ⟨b, hb⟩ := hw.block?_of_flag hflag hnull
  refine ⟨b, hb, ?_⟩
  rw [goOn, play_get_bind, hb, Run.lift_ok_bind] at play
  rcases walked : (walk (fun f => (player (depth + 1)).run c.me f false) c.me
    (w.fuel.toNat + (w.blocks c.me).length + 2) b.next).play w with ⟨why | reached, w1⟩
  · rw [play_bind_error walked] at play
    cases play
    exact hw.chain_walk (hw.next hb) deep (by omega) walked
  · rw [play_bind_ok walked] at play
    cases play
    exact hw.chain_walk (hw.next hb) deep (by omega) walked

theorem Holds.script (hw : c.Holds w) (hflag : Outline.IsFlag c.blocks flag)
    (deep : w.depth = depth + 2) (next : Bool)
    (play : ((player (depth + 2)).run c.me flag next).play w = (r, w')) :
    w.Script c.me flag next r w' := by
  by_cases idle : w.done = true ∨ flag.isNull = true
  · cases (runWith_idle (player (depth + 1)) c.me next idle).symm.trans play
    exact .idle next (idle.imp_right fun hnull => by cases flag <;> cases hnull; rfl)
  · obtain ⟨running, hnull⟩ := not_idle idle
    have enters {r : Except Stop Value} {w' : World}
        (alone : ((player (depth + 2)).run c.me flag false).play w = (r, w')) :=
      hw.enters running hnull hflag (Nat.le_of_eq deep) alone
    cases next with
    | false =>
      cases r with
      | error why => exact .cut false (enters play).1
      | ok v => exact .alone (enters play).1
    | true =>
      obtain ⟨b, hb⟩ := hw.block?_of_flag hflag hnull
      obtain ⟨opcode, hop, -⟩ := hw.opcode? hb
      have goes : ((player (depth + 2)).run c.me flag false >>=
          goOn (player (depth + 1)) c.me flag).play w = (r, w') :=
        (runWith_next (player (depth + 1)) (hw.meets running hb) hop).symm.trans play
      rcases alone : ((player (depth + 2)).run c.me flag false).play w with ⟨why | v, w1⟩
      · rw [play_bind_error alone] at goes
        cases goes
        exact .cut true (enters alone).1
      · obtain ⟨entered, spent⟩ := enters alone
        obtain ⟨shallower, -⟩ := spent v rfl
        have hw1 : c.Holds w1 := (((trusts_player c (depth + 2)).run flag false).ok hw alone).1
        rw [play_bind_ok alone] at goes
        obtain ⟨b1, hb1, more⟩ := hw1.chain_goOn hflag hnull (by omega) goes
        exact .chain entered hb1 more

end Footing

/-! ## Runnable sprites -/

theorem Sprite.get?_eq_ok {s : Sprite} {key : String} {v : Value} (h : s.get? key = .ok v) :
    Table.get? s.fields key = some v := by
  unfold Sprite.get? at h
  split at h
  · next found => cases h; exact found
  · cases h

theorem Block.opcode?_eq_ok {b : Block} {v : Value} (h : b.opcode? = .ok v) :
    b.outline.opcode = some v := by
  simp only [Block.opcode?, Block.get?, Value.field?] at h
  split at h
  · next found => cases h; exact found
  · cases h

/-- The scripts of a sprite that can be run have a footing. -/
theorem World.Runnable.footing (h : w.Runnable me) :
    ∃ c : Footing, c.me = me ∧ c.Holds w ∧ ∀ flag, w.HasFlag me flag → Outline.IsFlag c.blocks flag := by
  obtain ⟨name, named⟩ := h.named
  obtain ⟨mode, hmode⟩ := h.mode
  have blocks? : w.blocks? me = .ok (w.kit (w.sprite me).kit).blocks := by
    rw [World.blocks?, h.shared]
    rfl
  have blocks : w.blocks me = (w.kit (w.sprite me).kit).blocks := by
    rw [World.blocks, blocks?]
    rfl
  have outlined : ∀ id o, Table.get? (outlineOf (w.blocks me)) id = some o →
      ∃ b, Table.get? (w.blocks me) id = some b ∧ b.outline = o := fun id o ho => by
    rw [outlineOf, Table.get?_map] at ho
    exact Option.map_eq_some_iff.1 ho
  have isFlag : ∀ flag, w.HasFlag me flag → Outline.IsFlag (outlineOf (w.blocks me)) flag := by
    rintro flag (rfl | ⟨b, hb⟩)
    · exact .inl rfl
    · obtain ⟨t, id, ht, rfl, found⟩ := World.block?_eq_ok hb
      cases blocks?.symm.trans ht
      refine .inr ⟨id, rfl, ?_⟩
      rw [outlineOf, Table.get?_map, blocks, found]
      rfl
  let c : Footing := {
    me := me
    kit := (w.sprite me).kit
    name := name
    blocks := outlineOf (w.blocks me)
    opcodes := fun id o ho => by
      obtain ⟨b, hb, rfl⟩ := outlined id o ho
      obtain ⟨s, hs, plain⟩ := h.opcodes id b hb
      exact ⟨s, Block.opcode?_eq_ok hs, plain⟩
    closed := fun id o ho => by
      obtain ⟨b, hb, rfl⟩ := outlined id o ho
      exact isFlag b.next (h.closed id b hb) }
  refine ⟨c, rfl, ?_, isFlag⟩
  exact {
    name := named
    mode := by rw [Sprite.get?_eq_ok hmode]; rfl
    shared := Sprite.get?_eq_ok h.shared
    arguments := Sprite.get?_eq_ok h.arguments
    kit := rfl
    blocks := by rw [← blocks]
    plain := by
      rintro id o ho ⟨v0, hv0, isPrototype⟩ b v hb hv
      obtain ⟨⟨_, b0⟩, mem, same⟩ := List.mem_map.1 ho
      cases same
      have hasOpcode : b0.hasOpcode "procedures_prototype" = true := by
        rw [Block.hasOpcode, show Table.get? b0.fields "opcode" = some v0 from hv0]
        exact isPrototype
      exact h.prototypes _ b0 mem hasOpcode b v (blocks ▸ hb) hv }

/-- Running a block never lets a fault out, and is killed at a limit only. It enters the block, and then those
that come next as long as the script is not stopped, whatever became of the blocks before. -/
theorem runBlock_contained {w : World} {me : Nat} {flag : Value} (h : w.Runnable me)
    (hflag : w.HasFlag me flag) (next : Bool) : let out := (runBlock me flag next).play w
    (∀ f, out.1 ≠ .error (.fault f)) ∧ (∀ why, out.1 = .error (.killed why) → why.Reached out.2) ∧
      w.Script me flag next out.1 out.2 := by
  obtain ⟨c, rfl, hw, isFlag⟩ := h.footing
  have flagged := isFlag flag hflag
  rw [runBlock, play_get_bind]
  have killed := ((advances_player w.depth).run c.me flag next).killed w
  rcases play : ((player w.depth).run c.me flag next).play w with ⟨r, w'⟩
  rw [play] at killed
  refine ⟨fun f failed => ?_, killed, ?_⟩
  · cases failed
    exact (Footing.trusts_player c w.depth).never flagged hw play
  · exact hw.script flagged (show w.depth = 2 * w.fuel.toNat + 2 + 2 from rfl) next play

/-! ## Checking the blocks of a sprite -/

/-- A block whose opcode is no name of what every object can do, before a block of the sprite or none. -/
def World.isSound (w : World) (me : Nat) (b : Block) : Bool :=
  (match b.opcode? with
  | .ok (.text s) => s.toList.take 2 != ['_', '_']
  | _ => false) && (b.next.isNull || (w.block? me b.next).toOption.isSome)

theorem World.Scripted.of_all (named : ∃ name, (w.sprite me).name?.bind Value.display? = .ok name)
    (mode : ∃ v, (w.sprite me).get? CloneMode.key = .ok v) (shared : (w.sprite me).get? "blocks" = .ok .shared)
    (arguments : (w.sprite me).get? Sprite.argumentsKey = .ok .shared)
    (blocks : (w.blocks me).all fun p => w.isSound me p.2) : w.Scripted me := by
  refine ⟨named, mode, shared, arguments, fun id b hb => ?_, fun id b hb => ?_⟩
  all_goals
    have sound := List.all_eq_true.1 blocks _ (Table.mem_of_get? hb)
    rw [isSound, Bool.and_eq_true] at sound
  · have plain := sound.1
    split at plain
    · next s opcode => exact ⟨s, opcode, by simpa using plain⟩
    · cases plain
  · refine (Bool.or_eq_true _ _ ▸ sound.2).imp (fun null => ?_) fun found => ?_
    · cases next : b.next <;> simp_all [Value.isNull]
    · rcases there : w.block? me b.next with f | b' <;> rw [there] at found
      · cases found
      · exact ⟨b', rfl⟩

theorem World.Scripted.runnable (h : w.Scripted me)
    (bare : (w.blocks me).all fun p => (Table.get? p.2.fields "mutation").isNone) : w.Runnable me where
  toScripted := h
  prototypes id b _ _ b' v hb hv := by
    have none := List.all_eq_true.1 bare _ (Table.mem_of_get? hb)
    rw [hv] at none
    cases none

/-! ## A custom block -/

/-- A custom block with one parameter, the names of which are written as some text. Its call is followed
by another block. -/
def customBlock (names : String) : Table Block := [
  ("d", .plain "procedures_definition" [("custom_block", .list [Value.int 1, .text "p"])]),
  ("p", ⟨(Block.plain "procedures_prototype" []).fields ++ [("mutation", .record [
    ("proccode", .text "f %s"), ("argumentids", .text "[\"A\"]"), ("argumentnames", .text names)])]⟩),
  ("c", ⟨(Block.plain "procedures_call" [("A", .literal "1")] (.text "x")).fields ++ [
    ("mutation", .record [("proccode", .text "f %s")])]⟩),
  ("x", .plain "looks_show" [])]

theorem Expression.LiteralText.of_single {s t : String} (reads : parse? s = .ok (.row .list [.datum (.text t)])) :
    LiteralText s := by
  refine .of_parse? reads (.row (.inl rfl) fun e he => ?_)
  cases List.mem_singleton.1 he
  exact .datum _

theorem customBlock_ids : Expression.LiteralIds "[\"A\"]" := .of_upperCase rfl (.of_single (t := "A") rfl)

theorem customBlock_names : Expression.LiteralText "[\"n\"]" := .of_single (t := "n") rfl

theorem customBlock_mutation {code names : String} (h : Expression.LiteralText names) :
    IsPlainMutation (.record [("proccode", .text code), ("argumentids", .text "[\"A\"]"),
      ("argumentnames", .text names)]) := by
  refine ⟨fun v hv => ?_, fun v hv => ?_⟩ <;> cases hv
  · exact ⟨_, rfl, customBlock_ids⟩
  · exact ⟨_, rfl, h⟩

theorem customBlock_blocks {names id : String} {b : Block}
    (h : Table.get? ((World.ofBlocks (customBlock names)).blocks 0) id = some b) :
    b ∈ (customBlock names).map Prod.snd :=
  List.mem_map.2 ⟨(id, b), Table.mem_of_get? h, rfl⟩

theorem customBlock_scripted (names : String) : (World.ofBlocks (customBlock names)).Scripted 0 :=
  .of_all ⟨"Cat", rfl⟩ ⟨_, rfl⟩ rfl rfl rfl

theorem customBlock_runnable {names : String} (h : Expression.LiteralText names) :
    (World.ofBlocks (customBlock names)).Runnable 0 where
  toScripted := customBlock_scripted names
  prototypes id b _ _ b' v hb hv := by
    obtain ⟨⟩ | ⟨_, ⟨⟩ | ⟨_, ⟨⟩ | ⟨_, ⟨⟩ | ⟨_, ⟨⟩⟩⟩⟩⟩ := customBlock_blocks hb
    all_goals cases hv
    · exact customBlock_mutation h
    · exact ⟨nofun, nofun⟩

/-- The call of a custom block without names for its parameters fails, and the script goes on. -/
theorem runBlock_contained_unnamed : let w := World.ofBlocks (customBlock "[]")
    let out := (runBlock 0 (.text "c")).play w
    w.Runnable 0 ∧ w.HasFlag 0 (.text "c") ∧
      ((∀ f, out.1 ≠ .error (.fault f)) ∧ (∀ why, out.1 = .error (.killed why) → why.Reached out.2) ∧
        w.Script 0 (.text "c") true out.1 out.2) ∧
      out.2.log.toList = [.entered "Cat" "procedures_call",
        .blockFailed "c" (.raised "KeyError" "" 0), .entered "Cat" "looks_show"] := by
  have reads : Expression.parse? "[]" = .ok (.row .list []) := rfl
  have runnable : (World.ofBlocks (customBlock "[]")).Runnable 0 :=
    customBlock_runnable (.of_parse? reads (.row (.inl rfl) nofun))
  have found : (World.ofBlocks (customBlock "[]")).HasFlag 0 (.text "c") := .inr ⟨_, rfl⟩
  exact ⟨runnable, found, runBlock_contained runnable found true, by decide +kernel⟩

def Run.fault? {α : Type} (r : Run α) (w : World) : Option Failure :=
  match (r.play w).1 with
  | .error (.fault e) => some e
  | _ => none

theorem Run.eq_fault {α : Type} {r : Run α} {e : Failure} (h : r.fault? w = some e) :
    (r.play w).1 = .error (.fault e) := by
  unfold Run.fault? at h
  split at h
  · next failed => rw [failed, Option.some.inj h]
  · cases h

/-- Names that are read by taking all blocks away leave none for the script to go on with. -/
theorem clearedBlocks_fault : let w := World.ofBlocks (customBlock "self.blocks.clear()")
    w.Scripted 0 ∧ w.HasFlag 0 (.text "c") ∧
      ((runBlock 0 (.text "c")).play w).1 = .error (.fault (.error .missingKey)) := by
  refine ⟨customBlock_scripted _, .inr ⟨_, rfl⟩, Run.eq_fault ?_⟩
  decide +kernel

end BlockStage
