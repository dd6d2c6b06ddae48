import BlockStage.Proofs.Run.Tame
import BlockStage.Proofs.Script.Chain

/-!
# Blocks that only report

In a sprite that is wired well, what stands in the inputs of a block only reports: it is no stack of blocks, and
no block that runs others or deletes a clone. What taking arguments then asks for is `Footing.Reads`.
-/

namespace BlockStage

open Act

variable {b : Block} {w : World}

/-- The blocks that run others for their effects, or delete a clone. -/
def drivingOpcodes : List String :=
  ["control_if", "control_if_else", "control_repeat", "control_forever", "control_start_as_clone",
    "control_delete_this_clone", "procedures_call"]

/-- The blocks that run what they are given as their condition. -/
def testingOpcodes : List String := ["control_if", "control_wait_until"]

/-- What stands at a flag, if anything, is a block at the end of its script that does not drive others. -/
def Outline.Reports (blocks : Table Outline) (flag : Value) : Prop :=
  ∀ id o, flag = .text id → Table.get? blocks id = some o →
    o.next.getD .null = .null ∧ ∀ s ∈ drivingOpcodes, o.opcode ≠ some (.text s)

namespace Block

/-- What stands in the inputs of a block only reports. A block that tests has a slot for its
condition. -/
structure Wired (blocks : Table Outline) (b : Block) : Prop where
  inputs : ∀ p ∈ b.entries "inputs", ∀ flag, Input.ofValue? p.2 = .ok (.reporter flag) →
    Outline.Reports blocks flag
  conditions : (∃ s ∈ testingOpcodes, Table.get? b.fields "opcode" = some (.text s)) →
    (∀ p ∈ b.entries "inputs", ∀ input, Input.ofValue? p.2 = .ok input → input.key p.1 = "CONDITION" →
      ∃ flag, input = .branch flag ∧ Outline.Reports blocks flag) ∧
    ∀ p ∈ b.entries "fields", Text.upper p.1 ≠ "CONDITION"

theorem Wired.put {blocks : Table Outline} (h : b.Wired blocks) {key : String} (v : Value)
    (other : key ∉ ["opcode", "inputs", "fields"]) : Wired blocks ⟨Table.put b.fields key v⟩ := by
  have same : ∀ key' ∈ ["opcode", "inputs", "fields"],
      Table.get? (Table.put b.fields key v) key' = Table.get? b.fields key' := fun key' mem =>
    Table.get?_put_of_ne _ _ fun eq => other (eq ▸ mem)
  have entries : ∀ key' ∈ ["opcode", "inputs", "fields"],
      (⟨Table.put b.fields key v⟩ : Block).entries key' = b.entries key' := fun key' mem => by
    rw [Block.entries, Block.entries, same key' mem]
  constructor
  · rw [entries _ (by simp)]
    exact h.inputs
  · rw [same _ (by simp), entries _ (by simp), entries _ (by simp)]
    exact h.conditions

end Block

def World.Wired (w : World) (me : Nat) : Prop :=
  ∀ id b, Table.get? (w.blocks me) id = some b → b.Wired (outlineOf (w.blocks me))

namespace Footing

variable {c : Footing} {flag : Value}

/-- The blocks that scripts stand on are wired well. -/
def Wired (c : Footing) (w : World) : Prop :=
  ∀ id b, Table.get? (w.kit c.kit).blocks id = some b → b.Wired c.blocks

theorem Wired.putBlock (h : c.Wired w) {id : String} {b' : Block}
    (wired : b'.Wired c.blocks) : c.Wired (w.updateKit c.kit fun kit =>
      { kit with blocks := Table.put (w.kit c.kit).blocks id b' }) := by
  intro id1 b1 hb1
  rcases w.kit_updateKit c.kit fun kit =>
    { kit with blocks := Table.put (w.kit c.kit).blocks id b' } with kit | kit <;> rw [kit] at hb1
  · exact h id1 b1 hb1
  · by_cases eq : id = id1
    · subst eq
      rw [Table.get?_put_self] at hb1
      cases hb1
      exact wired
    · rw [Table.get?_put_of_ne _ _ eq] at hb1
      exact h id1 b1 hb1

/-- How blocks are wired does not change while scripts run. -/
theorem stable_wired : World.Stable (Request.Tame c.kit) c.Wired := by
  intro w w' hw move
  have same : (∀ k, (w'.kit k).blocks = (w.kit k).blocks) → c.Wired w' := fun blocks id b hb =>
    hw id b (blocks c.kit ▸ hb)
  cases move with
  | apart h => exact same fun k => by rw [World.kit, World.kit, h.kits]
  | @ask r p _ single tame =>
    rcases tame with ordinary | runtime | ⟨id, v, rfl, -⟩
    · exact same ((ordinary.alters p w).kept c.me).blocks
    · exact same fun k => by rw [World.kit, World.kit, (runtime.manages p w).kits]
    · show c.Wired ((w.write? _ v).getD w)
      rcases w.written_mutation c.kit id v with same | ⟨b, hb, same⟩ <;> rw [same]
      · exact hw
      · exact hw.putBlock ((hw id b hb).put v (by decide))

/-! ## What blocks ask for that only report -/

/-- What a block that only reports asks for beside ordinary requests. -/
def Reads (c : Footing) : Request → Prop
  | .run i flag => i = c.me ∧ Outline.Reports c.blocks flag
  | .addClone _ | .start _ _ | .stop | .tick => True
  | _ => False

/-- Where scripts stand, with their blocks wired well. -/
def Sound (c : Footing) (w : World) : Prop := c.Holds w ∧ c.Wired w

def HasOpcode (c : Footing) (flag : Value) (s : String) : Prop :=
  ∃ id o, flag = .text id ∧ Table.get? c.blocks id = some o ∧ o.opcode = some (.text s)

/-- What is given as a condition to a block that tests only reports. -/
def Conditions (c : Footing) (flag : Value) : Arguments → Prop :=
  Arguments.Given (Outline.Reports c.blocks) fun key =>
    key = "CONDITION" ∧ ∃ s ∈ testingOpcodes, c.HasOpcode flag s

theorem Holds.get?_of_block? (hw : c.Holds w) (hb : w.block? c.me flag = .ok b) :
    ∃ id, flag = .text id ∧ Table.get? (w.kit c.kit).blocks id = some b := by
  obtain ⟨t, id, blocks, rfl, found⟩ := World.block?_eq_ok hb
  cases hw.blocks?.symm.trans blocks
  exact ⟨id, rfl, found⟩

theorem Holds.opcode_of_hasOpcode (hw : c.Holds w) {id s : String}
    (found : Table.get? (w.kit c.kit).blocks id = some b) (h : c.HasOpcode (.text id) s) :
    Table.get? b.fields "opcode" = some (.text s) := by
  obtain ⟨_, o, same, ho, opcode⟩ := h
  cases same
  rw [hw.get?_blocks, found] at ho
  cases ho
  exact opcode

theorem Sound.feeds (h : c.Sound w) (hb : w.block? c.me flag = .ok b) :
    b.Feeds (Outline.Reports c.blocks) fun key => key = "CONDITION" ∧ ∃ s ∈ testingOpcodes, c.HasOpcode flag s := by
  obtain ⟨id, rfl, found⟩ := h.1.get?_of_block? hb
  have wired := h.2 id b found
  have opcode : (∃ s ∈ testingOpcodes, c.HasOpcode (.text id) s) → _ := fun ⟨s, hs, has⟩ =>
    wired.conditions ⟨s, hs, h.1.opcode_of_hasOpcode found has⟩
  exact ⟨wired.inputs, fun p hp input read named => (opcode named.2).1 p hp input read named.1,
    fun p hp named => (opcode named.2).2 p hp named.1⟩

theorem reads_makes {r : Request} (makes : Arguments.Makes c.me r)
    (run : ∀ flag, r = .run c.me flag → Outline.Reports c.blocks flag) : r.Ordinary ∨ c.Reads r := by
  cases r with
  | look | log _ => exact .inl makes
  | run i flag =>
    cases makes
    exact .inr ⟨rfl, run flag rfl⟩
  | _ => exact makes.elim

theorem reads_eval : (Arguments.eval c.me flag).Within c.Sound c.Reads (c.Conditions flag) :=
  Arguments.sends_eval_given (fun _ => reads_makes) fun _ _ hw hb => hw.feeds hb

/-! ## Blocks -/

theorem takesReading : TakesWithin c.Sound c.Reads c.me flag :=
  reads_eval.answer fun _ _ => trivial

/-- A block that tests runs its condition, which only reports. -/
theorem reads_condition {args : Arguments} (given : c.Conditions flag args)
    (tests : ∃ s ∈ testingOpcodes, c.HasOpcode flag s) :
    Yields (Outline.Reports c.blocks) (args.need "CONDITION") :=
  given.need ⟨rfl, tests⟩

theorem reads_control {b : Control} (has : c.HasOpcode flag b.name) (other : b.name ∉ drivingOpcodes) :
    (b.act c.me flag).Within c.Sound c.Reads fun _ => True := by
  refine Control.sends_steered (G := Outline.Reports c.blocks) (fun r makes run => ?_) ?_ fun turns => ?_
  · cases r with
    | look | sleep _ => exact .inl trivial
    | start _ _ | stop | tick => exact .inr trivial
    | addClone _ => exact .inr trivial
    | run i flag =>
      cases makes
      exact .inr ⟨rfl, run flag rfl⟩
    | delete _ =>
      obtain ⟨-, rfl⟩ := makes
      exact absurd (by decide) other
    | _ => exact makes.elim
  · refine reads_eval.answer fun args given key v named => given key v ?_
    cases b with
    | waitUntil => exact ⟨by simpa [Control.runs] using named, _, by decide, has⟩
    | ifThen | ifThenElse => exact absurd (by decide) other
    | _ => cases named
  · simp only [List.mem_cons, List.not_mem_nil, or_false] at turns
    rcases turns with rfl | rfl | rfl <;> exact absurd (by decide) other

/-- A block that drives no others runs only blocks that report. -/
theorem reads_opcode {s : String} {op : Opcode} (has : c.HasOpcode flag s)
    (hop : Opcode.ofName? s = some op) (other : s ∉ drivingOpcodes) :
    (op.act c.me flag).Within c.Sound c.Reads fun _ => True := by
  have named := Opcode.named_of_ofName? hop
  cases op with
  | control b =>
    obtain rfl := Control.eq_name_of_ofName? named
    exact reads_control has other
  | custom b =>
    cases b with
    | call =>
      cases Custom.eq_of_ofName?_call named
      exact absurd (by decide) other
    | argument => exact Opcode.within_plain takesReading rfl
  | _ => exact Opcode.within_plain takesReading rfl

end Footing

end BlockStage
