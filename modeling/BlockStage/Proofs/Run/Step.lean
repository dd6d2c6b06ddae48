import BlockStage.Proofs.Run.Play
import BlockStage.Proofs.Run.Tables
import Mathlib.Data.List.Forall2

/-!
# One block of a script

`runWith_play` says what running a block comes to: it is entered, it acts, and the blocks after it are walked
through. `actBlock_member` says what acting comes to for a block that the sprite has.
-/

namespace BlockStage

open Run

variable {w : World} {me : Nat} {flag : Value} {b : Block} {name opcode : String}

/-! ## Finding the block -/

theorem Value.isText_iff {v : Value} {s : String} : v.isText s = true ↔ v = .text s := by
  cases v <;> simp [Value.isText]

theorem World.block?_of_get? {t : Table Block} {id : String}
    (ht : w.blocks? me = .ok t) (hb : Table.get? t id = some b) : w.block? me (.text id) = .ok b := by
  simp only [World.block?, ht, Value.find?, bind, Except.bind, hb]
  rfl

/-- Block `flag` of sprite `me` is there, and its script may go on. -/
structure World.Meets (w : World) (me : Nat) (flag : Value) (name : String) (b : Block) : Prop where
  running : w.done = false
  named : ((w.sprite me).name?.bind Value.display?) = .ok name
  found : w.block? me flag = .ok b

namespace World.Meets

variable {w : World} {me : Nat} {flag : Value} {name : String} {b : Block}

theorem flag_ne_null (h : w.Meets me flag name b) : flag.isNull = false := by
  cases flag with
  | null =>
    have found := h.found
    rcases hb : w.blocks? me with _ | t <;>
      simp [World.block?, hb, Value.find?, bind, Except.bind] at found
  | _ => rfl

end World.Meets

/-- What is left of a script once its first block has acted and answered `result`. -/
def goOn (p : Player) (me : Nat) (flag result : Value) : Run Value := do
  let w ← get
  let size := w.fuel.toNat + (w.blocks me).length + 2
  let following := (← w.block? me flag).next
  let reachedEnd ← walk (fun f => p.run me f false) me size following
  return if reachedEnd then result else .null

theorem World.displayed_of_named (named : ((w.sprite me).name?.bind Value.display?) = .ok name) :
    ∃ v, (w.sprite me).name? = .ok v ∧ v.display? = .ok name := by
  rcases hn : (w.sprite me).name? with _ | v
  · simp [hn, Except.bind] at named
  · exact ⟨v, rfl, by simpa [hn, Except.bind] using named⟩

theorem runBlock_play (me : Nat) (flag : Value) (next : Bool) (w : World) :
    (runBlock me flag next).play w =
      (runWith (player (2 * w.fuel.toNat + 3)) me flag next).play w := by
  rw [runBlock, play_get_bind]
  rfl

theorem not_idle (h : ¬ (w.done = true ∨ flag.isNull = true)) : w.done = false ∧ flag.isNull = false := by
  simpa using h

/-- Running nothing, or anything once the program is to end, does nothing. -/
theorem runWith_idle (p : Player) (me : Nat) (next : Bool)
    (h : w.done = true ∨ flag.isNull = true) : (runWith p me flag next).play w = (.ok .null, w) := by
  unfold runWith
  have idle : (w.done || flag.isNull) = true := by simpa using h
  rw [play_get_bind, if_pos idle]
  rfl

theorem runWith_missing (p : Player) {f : Fault}
    (next : Bool) (running : w.done = false) (hnull : flag.isNull = false)
    (named : ((w.sprite me).name?.bind Value.display?) = .ok name)
    (missing : w.block? me flag = .error f) :
    (runWith p me flag next).play w = (.error (.fault f), w) := by
  have awake : ¬ (w.done || flag.isNull) = true := by simp [running, hnull]
  obtain ⟨v, hv, hname⟩ := World.displayed_of_named named
  unfold runWith
  rw [play_get_bind, if_neg awake, hv, missing]
  simp only [lift_ok_bind, hname]
  rfl

theorem runWith_play (p : Player) (next : Bool) (h : w.Meets me flag name b)
    (hop : b.opcode? = .ok (.text opcode)) : (runWith p me flag next).play w =
      (do
        enterBlock name opcode
        let result ← actBlock p me flag opcode
        if next then goOn p me flag result else return result).play w := by
  have awake : ¬ (w.done || flag.isNull) = true := by simp [h.running, h.flag_ne_null]
  obtain ⟨v, hv, hname⟩ := World.displayed_of_named h.named
  unfold runWith
  rw [play_get_bind, if_neg awake, hv, h.found]
  simp only [lift_ok_bind, hname, hop]
  rfl

/-- A script runs its first block on its own, and then goes on. -/
theorem runWith_next (p : Player) (h : w.Meets me flag name b) (hop : b.opcode? = .ok (.text opcode)) :
    (runWith p me flag true).play w =
      (runWith p me flag false >>= goOn p me flag).play w := by
  rw [play_bind, runWith_play p false h hop, ← play_bind, runWith_play p true h hop]
  simp only [bind_assoc, Bool.false_eq_true, if_true, if_false, pure_bind]

/-! ## Walking on -/

section Walk

variable {enter : Value → Run Value} {me : Nat} {flag : Value} {w : World}

theorem walk_end (enter : Value → Run Value) (me n : Nat) (h : flag.isNull = true) :
    walk enter me n flag = return true := by
  cases n <;> rw [walk, if_pos h]

theorem walk_deleted (n : Nat) (hnull : flag.isNull = false)
    (deleted : (w.sprite me).hasMode? .deleted = .ok true) :
    (walk enter me (n + 1) flag).play w = (.ok false, w) := by
  rw [walk, if_neg (by simp [hnull]), play_get_bind, deleted]
  rfl

/-- Else the block is entered, and the walk goes on with the one that comes next then. -/
theorem walk_enter (n : Nat) (hnull : flag.isNull = false)
    (alive : (w.sprite me).hasMode? .deleted = .ok false) : (walk enter me (n + 1) flag).play w =
      (do
        let _ ← enter flag
        let block ← (← get).block? me flag
        walk enter me n block.next).play w := by
  rw [walk, if_neg (by simp [hnull]), play_get_bind, alive]
  rfl

end Walk

/-! ## Acting -/

theorem Sprite.can?_of_free {s : Sprite} {action : String} (h : s.hides action = false) : s.can? action = .ok () := by
  rw [can?, h]
  rfl

/-- On a sprite without an attribute of that name, a name means what it means on any such sprite. -/
theorem Member.ofName?_of_free {s : Sprite} (h : s.hides name = false)
    (hm : name ∉ Member.always) : Member.ofName? s name = Member.ofName? default name := by
  have free : Member.isAttribute s name = false := by
    rw [Member.isAttribute, show Table.has s.fields name = false from h]
    simpa using hm
  have none : Member.isAttribute default name = false := by
    rw [Member.isAttribute, show Table.has (default : Sprite).fields name = false from rfl]
    simpa using hm
  simp only [Member.ofName?, free, none]

theorem actBlock_member (p : Player) {m : Member} (h : Member.ofName? (w.sprite me) opcode = some m) :
    (actBlock p me flag opcode).play w = (contain flag ((m.invoke me [flag]).perform p)).play w := by
  unfold actBlock
  rw [play_get_bind, h]

theorem Control.branch_perform (p : Player) (me : Nat) (flag : Value) :
    (Control.branch me flag).perform p = (do let _ ← p.run me flag true) := by
  simp only [Control.branch, Act.perform_bind, Act.perform_run, Act.perform_pure]

theorem runWith_block (p : Player) {op : Opcode} (h : w.Meets me flag name b)
    (hop : b.opcode? = .ok (.text opcode))
    (hm : Member.ofName? (w.sprite me) opcode = some (.block op)) : (runWith p me flag false).play w =
      (do
        enterBlock name opcode
        contain flag ((op.act me flag).perform p)).play w := by
  rw [runWith_play p false h hop]
  refine play_bind_congr rfl fun _ w' entered => ?_
  have same : w'.sprite me = w.sprite me := by
    rw [enterBlock_play] at entered
    obtain rfl : w.enter name opcode = w' := congrArg Prod.snd entered
    rfl
  simp only [Bool.false_eq_true, if_false, bind_pure]
  rw [actBlock_member p (same ▸ hm)]
  rfl

theorem enterBlock_fuelled (fuelled : 0 < w.fuel) :
    (enterBlock name opcode).play w = (.ok (), w.enter name opcode) := by
  rw [enterBlock_play, if_neg (by omega)]

/-- While there is fuel, a block is entered and does what its opcode says. -/
theorem runWith_enters (p : Player) {op : Opcode} (h : w.Meets me flag name b)
    (hop : b.opcode? = .ok (.text opcode)) (hm : Member.ofName? (w.sprite me) opcode = some (.block op))
    (fuelled : 0 < w.fuel) : (runWith p me flag false).play w =
      (contain flag ((op.act me flag).perform p)).play (w.enter name opcode) := by
  rw [runWith_block p h hop hm, play_bind_ok (enterBlock_fuelled fuelled)]

/-- The script may go on with a block that there is fuel for and that the sprite knows. -/
structure World.Begins (w : World) (me : Nat) (flag : Value) (name opcode : String) (op : Opcode) (b : Block) : Prop
    extends w.Meets me flag name b where
  coded : b.opcode? = .ok (.text opcode)
  knows : Member.ofName? (w.sprite me) opcode = some (.block op)
  fuelled : 0 < w.fuel

theorem World.Begins.run {op : Opcode} (h : w.Begins me flag name opcode op b) (p : Player) :
    (runWith p me flag false).play w = (contain flag ((op.act me flag).perform p)).play (w.enter name opcode) :=
  runWith_enters p h.toMeets h.coded h.knows h.fuelled

theorem goOn_last (p : Player) (result : Value) (hb : w.block? me flag = .ok b) (last : b.next = .null) :
    (goOn p me flag result).play w = (.ok result, w) := by
  unfold goOn
  rw [play_get_bind, hb]
  simp only [lift_ok_bind, last]
  rfl

theorem runWith_answer (p : Player) {op : Opcode} {v : Value} (next : Bool) (h : w.Meets me flag name b)
    (hop : b.opcode? = .ok (.text opcode)) (last : b.next = .null)
    (hm : Member.ofName? (w.sprite me) opcode = some (.block op))
    (answers : ((op.act me flag).perform p).play (w.enter name opcode) =
      (.ok v, w.enter name opcode)) :
    (runWith p me flag next).play w =
      (do
        enterBlock name opcode
        return v).play w := by
  rw [runWith_play p next h hop]
  refine play_bind_congr rfl fun _ w' entered => ?_
  rw [enterBlock_play] at entered
  obtain rfl : w.enter name opcode = w' := congrArg Prod.snd entered
  have acted : (actBlock p me flag opcode).play (w.enter name opcode) =
      (.ok v, w.enter name opcode) := by
    rw [actBlock_member p (show Member.ofName? ((w.enter name opcode).sprite me) opcode = _ from hm),
      contain_play, show Member.invoke me (.block op) [flag] = op.act me flag from rfl, answers]
  rw [play_bind_ok acted]
  cases next with
  | false => rfl
  | true => exact goOn_last p v h.found last

/-! ## Attributes -/

section

variable (p : Player) {w : World} {i : Nat} {a : Attribute} {v v' step : Value}

theorem Act.attr_play (h : Table.get? (w.sprite i).fields a.key = some v) :
    ((Act.attr i a).perform p).play w = (.ok v, w) := by
  rw [Act.attr, Act.play_look_bind, Act.perform_lift,
    Sprite.attribute?, Sprite.get?, h]
  rfl

theorem Act.adjust_play {op : Number → Number → Except Fault Number}
    (old : Table.get? (w.sprite i).fields a.key = some v) (new : Value.arith? op v step = .ok v') :
    ((Act.adjust op i a (.ok step)).perform p).play w = (.ok (), w.updateSprite i (·.set a v')) := by
  rw [Act.adjust, Act.play_bind_ok (Act.attr_play p old), Act.lift_ok_bind, new]
  rfl

theorem World.updateSprite_updateSprite (w : World) (i : Nat) (f g : Sprite → Sprite) :
    (w.updateSprite i f).updateSprite i g = w.updateSprite i (g ∘ f) := by
  simp only [World.updateSprite, List.modify_modify_eq]

theorem Sprite.set_set (s : Sprite) (a : Attribute) (v v' : Value) : (s.set a v).set a v' = s.set a v' := by
  simp only [Sprite.set, Sprite.put, Table.put_put]

end

/-! ## Taking the arguments -/

/-- The inputs and the fields of a block, which are read without a fault. -/
structure Block.Holds (b : Block) (inputs : List (String × Value)) (fields : Arguments) : Prop where
  inputs : b.get? "inputs" = .ok (.record inputs)
  fields : ∃ raw, b.get? "fields" = .ok (.record raw) ∧ Arguments.ofFields raw [] = .ok fields

theorem Value.fields?_record (fields : List (String × Value)) :
    (Value.record fields).fields? = .ok fields := rfl

theorem Block.part?_record {key : String} {fields : List (String × Value)}
    (h : b.get? key = .ok (.record fields)) : b.part? key = .ok (.record fields) := by
  rw [Block.part?, h]
  rfl

theorem Arguments.eval_play (p : Player)
    {inputs : List (String × Value)} {fields : Arguments} (hnull : flag.isNull = false)
    (hb : w.block? me flag = .ok b) (held : b.Holds inputs fields) :
    ((Arguments.eval me flag).perform p).play w =
      ((Arguments.ofInputs me inputs fields).perform p).play w := by
  obtain ⟨raw, hraw, hfields⟩ := held.fields
  unfold Arguments.eval
  rw [hnull]
  simp only [Bool.false_eq_true, if_false, Act.perform_bind, Act.perform_look]
  rw [play_get_bind, hb]
  simp only [Act.perform_lift, lift_ok_bind, Block.part?_record held.inputs, Block.part?_record hraw,
    hfields, Value.fields?_record]

/-- What an input hands over where nothing has to be run or looked up for it: the value of a literal,
or the id in a slot. -/
def Input.handedOver? : Input → Option Value
  | .constant v | .branch v => some v
  | _ => none

/-- An input, under its name, hands a value over to its block. -/
def Input.Gives (raw given : String × Value) : Prop :=
  ∃ input, Input.ofValue? raw.2 = .ok input ∧ input.handedOver? = some given.2 ∧
    input.key raw.1 = given.1

/-- A block whose inputs are literals and slots: it is given some values, in any order, beside its
fields. -/
def Block.Gives (b : Block) (given : List (String × Value)) (fields : Arguments) : Prop :=
  ∃ inputs order, b.Holds inputs fields ∧ List.Forall₂ Input.Gives inputs order ∧ order.Perm given

theorem Arguments.ofInputs_given (me : Nat) {inputs given : List (String × Value)}
    (h : List.Forall₂ Input.Gives inputs given) (args : Arguments) : Arguments.ofInputs me inputs args =
      .ret (given.foldl (fun args g => Table.put args g.1 g.2) args) := by
  induction h generalizing args with
  | nil => rfl
  | @cons raw g inputs given first _ ih =>
    obtain ⟨input, read, handed, key⟩ := first
    have taken : Arguments.ofInput me input = .ret (some g.2) := by
      cases input <;> simp_all [Input.handedOver?, Arguments.ofInput] <;> rfl
    rw [Arguments.ofInputs, read, Act.lift_ok_bind, taken, Act.ret_bind, key]
    exact ih _

/-- Such inputs are taken without running anything: each value is found under its name, and beside
them are the fields. -/
theorem Arguments.eval_given
    {given : List (String × Value)} {fields : Arguments} (hnull : flag.isNull = false)
    (hb : w.block? me flag = .ok b) (gives : b.Gives given fields)
    (distinct : (given.map Prod.fst).Nodup) :
    ∃ args : Arguments, (∀ p, ((Arguments.eval me flag).perform p).play w = (.ok args, w)) ∧
      (∀ g ∈ given, Table.get? args g.1 = some g.2) ∧
      ∀ key, key ∉ given.map Prod.fst → Table.get? args key = Table.get? fields key := by
  obtain ⟨inputs, order, holds, reads, perm⟩ := gives
  have names := perm.map Prod.fst
  refine ⟨order.foldl (fun args g => Table.put args g.1 g.2) fields, fun p => ?_, ?_, ?_⟩
  · rw [Arguments.eval_play p hnull hb holds, Arguments.ofInputs_given me reads]
    rfl
  · intro g hg
    exact Table.get?_foldl_put_of_mem _ _ (names.nodup_iff.2 distinct) (perm.mem_iff.2 hg)
  · intro key hkey
    exact Table.get?_foldl_put_of_notMem _ _ fun h => hkey (names.mem_iff.1 h)

/-! ## Blocks as projects write them -/

def Value.slot (id : String) : Value := .list [Value.int 2, .text id]

def Value.literal (s : String) : Value := .list [Value.int 1, .list [Value.int 10, .text s]]

def Block.plain (opcode : String) (inputs : List (String × Value)) (next : Value := .null) : Block :=
  ⟨[("opcode", .text opcode), ("next", next), ("inputs", .record inputs), ("fields", .record [])]⟩

theorem Input.gives_slot (name id : String) :
    Input.Gives (name, .slot id) (name, .text id) := ⟨.branch (.text id), rfl, rfl, rfl⟩

theorem Input.gives_literal (upper : Text.upper name = name) (s : String) :
    Input.Gives (name, .literal s) (name, .text s) := ⟨.constant (.text s), rfl, rfl, upper⟩

theorem Block.plain_gives {inputs given : List (String × Value)} {next : Value}
    (h : List.Forall₂ Input.Gives inputs given) : (Block.plain opcode inputs next).Gives given [] :=
  ⟨inputs, given, ⟨rfl, [], rfl, rfl⟩, h, .refl _⟩

/-- A project of one sprite with some blocks, before anything was run. -/
def World.ofBlocks (blocks : Table Block) : World where
  host := {}
  ticks := 3
  fuel := 1000
  kits := [⟨blocks, [], []⟩]
  sprites := [{
    fields := [("name", .text "Cat"), ("blocks", .shared), (CloneMode.key, CloneMode.principal.value),
      (Sprite.argumentsKey, .shared)]
    kit := 0 }]

end BlockStage
