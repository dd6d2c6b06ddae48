import BlockStage.Proofs.Operator.Formula
import BlockStage.Proofs.Run.Kept

/-!
# Ids that blocks see

A slot hands the id that stands in it over to its block, and an operator computes with that text. So scripts
answer otherwise once blocks have other ids; but a formula without slots runs in the same way. All this is
`Operator.sees_ids`.
-/

namespace BlockStage

open Run

/-! ## Other ids -/

section

variable (σ : String → String)

/-- A reference to a block with another id; what is no id stays. -/
def Value.renamed : Value → Value
  | .text id => .text (σ id)
  | v => v

/-- An input with another id in its second place. -/
def Value.renamedInput : Value → Value
  | .list (tag :: v :: rest) => .list (tag :: v.renamed σ :: rest)
  | v => v

/-- A part of a block with other ids: the next block, and the inputs. -/
def Block.renamedPart : String → Value → Value
  | "next", v => v.renamed σ
  | "inputs", .record inputs => .record (inputs.map fun q => (q.1, q.2.renamedInput σ))
  | _, v => v

/-- A block whose references have other ids. -/
def Block.renamed (b : Block) : Block := ⟨b.fields.map fun q => (q.1, renamedPart σ q.1 q.2)⟩

/-- A table of blocks with other ids. -/
def Block.renamedAll (t : Table Block) : Table Block := t.map fun q => (σ q.1, q.2.renamed σ)

/-- What is read from an input with another id. -/
def Input.renamed : Input → Input
  | .reporter flag => .reporter (flag.renamed σ)
  | .branch v => .branch (v.renamed σ)
  | input => input

/-- A world in which the blocks of a sprite have other ids. -/
def World.renamed (w : World) (me : Nat) : World :=
  w.updateKit (w.sprite me).kit fun kit => { kit with blocks := Block.renamedAll σ kit.blocks }

/-- A line of the log once blocks have other ids. -/
def LogLine.renamed : LogLine → LogLine
  | .blockFailed id f => .blockFailed (σ id) f
  | line => line

mutual

def Reporter.renamed : Reporter → Reporter
  | .node id opcode inputs => .node (σ id) opcode inputs.renamed

def Inputs.renamed : Inputs → Inputs
  | .nil => .nil
  | .cons name operand rest => .cons name operand.renamed rest.renamed

def Operand.renamed : Operand → Operand
  | .reporter r => .reporter r.renamed
  | .slot r => .slot r.renamed
  | operand => operand

end

end

section

variable {w : World} {me : Nat} {t : Table Block} {σ : String → String}

theorem World.blocks?_renamed (σ : String → String) (shared : Table.get? (w.sprite me).fields "blocks" = some .shared)
    (owned : w.blocks? me = .ok t) : (w.renamed σ me).blocks? me = .ok (Block.renamedAll σ t) := by
  have blocks : ∀ w' : World, w'.sprite me = w.sprite me → w'.blocks? me = .ok (w'.kit (w.sprite me).kit).blocks :=
    fun w' same => by rw [World.blocks?, Sprite.get?, same, shared]; rfl
  cases (blocks w rfl).symm.trans owned
  rw [blocks (w.renamed σ me) rfl]
  simp only [World.renamed, World.updateKit, World.kit, List.getD_eq_getElem?_getD, List.getElem?_modify_eq]
  cases w.kits[(w.sprite me).kit]? <;> rfl

/-- A formula sees the same: variables have ids of their own. -/
theorem World.sight_renamed (w : World) (me : Nat) : (w.renamed σ me).sight me = w.sight me := by
  have vars : ∀ k, ((w.renamed σ me).kit k).vars = (w.kit k).vars := fun k => by
    simp only [World.renamed, World.updateKit, World.kit, List.getD_eq_getElem?_getD, List.getElem?_modify]
    by_cases own : (w.sprite me).kit = k <;> cases w.kits[k]? <;> simp [own]
  have data : ∀ i, (w.renamed σ me).data? i .vars = w.data? i .vars := fun i => by
    simp only [World.data?, Kit.get, vars]
    rfl
  have values : (w.renamed σ me).variableValue? me = w.variableValue? me := funext fun id => by
    simp only [World.variableValue?, World.visible?, data]
    rfl
  rw [World.sight, values]
  rfl

theorem Block.entry_renamed (b : Block) (key : String) :
    Table.get? (b.renamed σ).fields key = (Table.get? b.fields key).map (renamedPart σ key) := by
  rw [renamed]
  induction b.fields with
  | nil => rfl
  | cons q rest ih =>
    rw [List.map_cons, Table.get?_cons, Table.get?_cons, ih]
    split
    · next same => rw [Option.map_some, ← same]
    · rfl

theorem Block.get?_renamed (b : Block) (key : String) :
    (b.renamed σ).get? key = (b.get? key).map (renamedPart σ key) := by
  simp only [get?, Value.field?, entry_renamed]
  cases Table.get? b.fields key <;> rfl

theorem Operand.input_renamed (operand : Operand) : (operand.renamed σ).input = operand.input.renamed σ := by
  rcases operand with _ | _ | ⟨_, _, _⟩ | ⟨_, _, _⟩ | _ <;> rfl

theorem Value.text_of_at? {s : String} {i : Int} {v : Value} (h : (Value.text s).at? i = .ok v) : ∃ c, v = .text c := by
  rw [Value.at?] at h
  split at h <;> cases h
  exact ⟨_, rfl⟩

/-- An input with another id is read as one with this id. -/
theorem Input.ofValue?_renamed (nonempty : ∀ id, σ id ≠ "") {v : Value} {input : Input}
    (read : ofValue? v = .ok input) : ofValue? (v.renamedInput σ) = .ok (input.renamed σ) := by
  have first (u : Value) (rest : List Value) : (Value.list (u :: rest)).at? 0 = .ok u :=
    Value.at?_of_getElem? (n := 0) rfl
  have second (u v : Value) (rest : List Value) : (Value.list (u :: v :: rest)).at? 1 = .ok v :=
    Value.at?_of_getElem? (n := 1) rfl
  cases v with
  | list items =>
    rcases items with _ | ⟨tag, _ | ⟨v, rest⟩⟩
    · cases read
    · have none : (Value.list [tag]).at? 1 = .error .outOfRange := rfl
      refine read.trans ?_
      simp only [ofValue?, first, none, bind, Except.bind] at read
      repeat' split at read
      all_goals cases read
      rfl
    · simp only [Value.renamedInput, ofValue?, first, second, bind, Except.bind] at read ⊢
      cases v with
      | text id =>
        obtain ⟨c, starts⟩ := Value.at?_text (nonempty id)
        simp only [Value.renamed, starts]
        repeat' split at read
        all_goals cases read
        all_goals simp_all [renamed, Value.renamed, pure, Except.pure]
        · next starts other _ => exact (other _ (Value.text_of_at? starts).choose_spec).elim
      | _ =>
        refine read.trans ?_
        dsimp only at read
        repeat' split at read
        all_goals cases read <;> rfl
  | text s =>
    refine read.trans ?_
    rcases starts : (Value.text s).at? 0 with f | tag <;> rw [ofValue?, starts] at read
    · cases read
    · obtain ⟨c, rfl⟩ := Value.text_of_at? starts
      cases read
      rfl
  | _ => cases read

theorem Table.get?_renamed (injective : Function.Injective σ) (t : Table Block) (f : String) :
    get? (Block.renamedAll σ t) (σ f) = (get? t f).map (Block.renamed σ) := by
  induction t with
  | nil => rfl
  | cons q rest ih =>
    rw [Block.renamedAll, List.map_cons, get?, ← Block.renamedAll, ih, get?,
      ite_congr (propext injective.eq_iff) (fun _ => rfl) fun _ => rfl]
    split <;> rfl

/-- Renamed blocks are found by their new ids. -/
theorem World.block?_renamed (injective : Function.Injective σ)
    (shared : Table.get? (w.sprite me).fields "blocks" = some .shared) {f : String} {b : Block}
    (found : w.block? me (.text f) = .ok b) : (w.renamed σ me).block? me (.text (σ f)) = .ok (b.renamed σ) := by
  obtain ⟨t, _, ht, ⟨⟩, hb⟩ := World.block?_eq_ok found
  refine World.block?_of_get? (World.blocks?_renamed σ shared ht) ?_
  rw [Table.get?_renamed injective, hb, Option.map_some]

theorem Inputs.written_renamed (nonempty : ∀ id, σ id ≠ "") :
    ∀ (inputs : Inputs) (raw : List (String × Value)), inputs.Written raw →
      (inputs.renamed σ).Written (raw.map fun q => (q.1, q.2.renamedInput σ))
  | .nil, _, rfl => rfl
  | .cons _ operand rest, _, ⟨_, more, rfl, read, written⟩ =>
    ⟨_, _, rfl, (Input.ofValue?_renamed nonempty read).trans (congrArg _ operand.input_renamed.symm),
      rest.written_renamed nonempty more written⟩

mutual

/-- Renamed blocks write the renamed formula down. -/
theorem Reporter.formula_renamed (injective : Function.Injective σ) (nonempty : ∀ id, σ id ≠ "") :
    ∀ r : Reporter, r.Formula t → (r.renamed σ).Formula (Block.renamedAll σ t)
  | .node id opcode inputs, ⟨ruled, ⟨b, raw, hb, hop, last, ⟨given, fields, held, read⟩, written⟩, parts⟩ => by
    have found : Table.get? (Block.renamedAll σ t) (σ id) = some (b.renamed σ) := by
      rw [Table.get?_renamed injective, hb, Option.map_some]
    have coded : (b.renamed σ).opcode? = .ok (.text opcode) := by
      rw [Block.opcode?, Block.get?_renamed, ← Block.opcode?, hop]
      rfl
    have ended : (b.renamed σ).next = .null := by
      rw [Block.next, Block.entry_renamed]
      rcases entry : Table.get? b.fields "next" with _ | v
      · rfl
      · rw [Block.next, entry] at last
        cases last
        rfl
    have holds : (b.renamed σ).Holds (raw.map fun q => (q.1, q.2.renamedInput σ)) [] :=
      ⟨by rw [Block.get?_renamed, given]; rfl, fields, by rw [Block.get?_renamed, held]; rfl, read⟩
    exact ⟨ruled, ⟨_, _, found, coded, ended, holds, inputs.written_renamed nonempty raw written⟩,
      inputs.formula_renamed injective nonempty parts⟩

theorem Inputs.formula_renamed (injective : Function.Injective σ) (nonempty : ∀ id, σ id ≠ "") :
    ∀ inputs : Inputs, inputs.Formula t → (inputs.renamed σ).Formula (Block.renamedAll σ t)
  | .nil, _ => trivial
  | .cons _ operand rest, ⟨first, later⟩ => ⟨operand.formula_renamed injective nonempty first,
    rest.formula_renamed injective nonempty later⟩

theorem Operand.formula_renamed (injective : Function.Injective σ) (nonempty : ∀ id, σ id ≠ "") :
    ∀ operand : Operand, operand.Formula t → (operand.renamed σ).Formula (Block.renamedAll σ t)
  | .reporter r, held => r.formula_renamed injective nonempty held
  | .literal _, _ | .variable _, _ | .slot _, _ | .empty, _ => trivial

end

end

/-! ## Formulas without slots -/

mutual

/-- No id stands in a slot of a formula. -/
def Reporter.Slotless : Reporter → Prop
  | .node _ _ inputs => inputs.Slotless

def Inputs.Slotless : Inputs → Prop
  | .nil => True
  | .cons _ operand rest => operand.Slotless ∧ rest.Slotless

def Operand.Slotless : Operand → Prop
  | .reporter r => r.Slotless
  | .slot _ => False
  | _ => True

end

section

variable {σ : String → String} (s : Sight) (name : String)

mutual

theorem Reporter.unseen : ∀ r : Reporter, r.Slotless → (r.renamed σ).outcome s = r.outcome s ∧
    (r.renamed σ).trace s name = (r.trace s name).map (LogLine.renamed σ)
  | .node id opcode inputs, free => by
    obtain ⟨values, trace⟩ := inputs.unseen free
    have outcome : (Reporter.node (σ id) opcode (inputs.renamed σ)).outcome s =
        (Reporter.node id opcode inputs).outcome s := by
      simp only [Reporter.outcome, values]
    refine ⟨outcome, ?_⟩
    rw [Reporter.renamed, Reporter.trace, Reporter.trace, outcome, trace]
    cases (Reporter.node id opcode inputs).outcome s <;> cases s.hides opcode <;> simp [failureOf, LogLine.renamed]

theorem Inputs.unseen : ∀ inputs : Inputs, inputs.Slotless →
    (∀ args, (inputs.renamed σ).values s args = inputs.values s args) ∧
      (inputs.renamed σ).trace s name = (inputs.trace s name).map (LogLine.renamed σ)
  | .nil, _ => ⟨fun _ => rfl, rfl⟩
  | .cons key operand rest, ⟨first, later⟩ => by
    obtain ⟨value, trace, named⟩ := operand.unseen first
    obtain ⟨values, traces⟩ := rest.unseen later
    refine ⟨fun args => ?_, ?_⟩
    · simp only [Inputs.renamed, Inputs.values, value, named, values]
    · rw [Inputs.renamed, Inputs.trace, Inputs.trace, value, trace, traces, List.map_append]
      cases operand.value s <;> rfl

theorem Operand.unseen : ∀ operand : Operand, operand.Slotless → (operand.renamed σ).value s = operand.value s ∧
    (operand.renamed σ).trace s name = (operand.trace s name).map (LogLine.renamed σ) ∧
    ∀ key, (operand.renamed σ).input.key key = operand.input.key key
  | .reporter r, free => by
    obtain ⟨outcome, trace⟩ := r.unseen free
    simp only [Operand.renamed, Operand.value, Operand.trace, outcome, trace, true_and]
    exact fun _ => rfl
  | .literal _, _ | .variable _, _ | .empty, _ => ⟨rfl, rfl, fun _ => rfl⟩

end

end

/-! ## Slots -/

/-- A block with ids in its slots, and nothing else. -/
def Block.ofIds (opcode : String) (ids : List (String × String)) (next : Value) : Block :=
  .plain opcode (ids.map fun q => (q.1, .slot q.2)) next

/-- What such a block is given. -/
def Arguments.ofIds (ids : List (String × String)) : Arguments :=
  (ids.map fun q => (q.1, Value.text q.2)).foldl (fun args q => Table.put args q.1 q.2) []

theorem Block.renamed_ofIds (σ : String → String) (opcode : String) (ids : List (String × String)) (next : Value) :
    (ofIds opcode ids next).renamed σ = ofIds opcode (ids.map fun q => (q.1, σ q.2)) (next.renamed σ) := by
  simp [renamed, renamedPart, ofIds, plain, Value.slot, Function.comp_def, Value.renamed, Value.renamedInput]

/-- A block that joins its own id with itself. -/
def Block.joining (id : String) : Block := .ofIds "operator_join" [("STRING1", id), ("STRING2", id)] .null

def World.joining (id : String) : World := .ofBlocks [(id, .joining id)]

theorem World.begins_joining (id : String) :
    (World.joining id).Begins 0 (.text id) "Cat" "operator_join" (.operator .join) (.joining id) :=
  ⟨⟨rfl, rfl, World.block?_of_get? rfl (if_pos rfl)⟩, rfl, rfl, (by decide : (0 : Int) < 1000)⟩

namespace Operator

section

variable {w : World} {me : Nat} {f name opcode : String} {op : Operator} {ids : List (String × String)} {next : Value}
  {rule : Arguments → Except Fault Value}

/-- An operator applies its rule to the ids in its slots, and runs none of them. -/
theorem run_ofIds (begins : w.Begins me (.text f) name opcode (.operator op) (.ofIds opcode ids next))
    (hrule : op.rule? = some rule) :
    ((runBlock me (.text f) false).play w).1 = .ok ((rule (.ofIds ids)).toOption.getD .null) := by
  have gives : List.Forall₂ Input.Gives (ids.map fun q => (q.1, Value.slot q.2)) (ids.map fun q => (q.1, .text q.2)) :=
    List.forall₂_map_left_iff.2 (List.forall₂_map_right_iff.2 (List.forall₂_same.2 fun q _ => Input.gives_slot q.1 q.2))
  have acts : ∀ p, ((Opcode.act me (.text f) (.operator op)).perform p).play (w.enter name opcode) =
      ((rule (.ofIds ids)).mapError (.fault ·), w.enter name opcode) := fun p => by
    have taken : ((Arguments.eval me (.text f)).perform p).play (w.enter name opcode) =
        (.ok (.ofIds ids), w.enter name opcode) := by
      rw [Arguments.eval_play (w := w.enter name opcode) p rfl begins.found ⟨rfl, [], rfl, rfl⟩,
        Arguments.ofInputs_given me gives]
      rfl
    rw [Opcode.act, act_rule hrule, Act.play_bind_ok taken, Act.perform_lift, play_lift]
  rw [runBlock_play, begins.run, contain_play, acts]
  cases hr : rule (.ofIds ids) with
  | error fault => rfl
  | ok v => rfl

theorem run_renamed {σ : String → String} (injective : Function.Injective σ)
    (begins : w.Begins me (.text f) name opcode (.operator op) (.ofIds opcode ids next))
    (hrule : op.rule? = some rule) (shared : Table.get? (w.sprite me).fields "blocks" = some .shared) :
    ((runBlock me (.text (σ f)) false).play (w.renamed σ me)).1 =
      .ok ((rule (.ofIds (ids.map fun q => (q.1, σ q.2)))).toOption.getD .null) := by
  have found := World.block?_renamed injective shared begins.found
  rw [Block.renamed_ofIds] at found
  exact run_ofIds ⟨⟨begins.running, begins.named, found⟩, rfl, begins.knows, begins.fuelled⟩ hrule

end

/-- Once the blocks of a sprite have other ids, an operator answers what its rule makes of those in its slots. A
renaming that no script tells changes no id. But a formula without slots gives the same answer with other ids,
none of them empty, enters the same blocks in the same order, and changes nothing but the fuel and the log,
which has the new ids where it tells of failures. -/
theorem sees_ids {σ : String → String} (injective : Function.Injective σ) :
    (∀ w me f name opcode op ids next rule,
      World.Begins w me (.text f) name opcode (.operator op) (.ofIds opcode ids next) → op.rule? = some rule →
      Table.get? (w.sprite me).fields "blocks" = some .shared →
      ((runBlock me (.text f) false).play w).1 = .ok ((rule (.ofIds ids)).toOption.getD .null) ∧
        ((runBlock me (.text (σ f)) false).play (w.renamed σ me)).1 =
          .ok ((rule (.ofIds (ids.map fun q => (q.1, σ q.2)))).toOption.getD .null)) ∧
    ((∀ w me flag next, ((runBlock me (flag.renamed σ) next).play (w.renamed σ me)).1 =
        ((runBlock me flag next).play w).1) → σ = id) ∧
    ((∀ id, σ id ≠ "") → ∀ w me name t (r : Reporter) next, World.Reads w me name t →
      Table.get? (w.sprite me).fields "blocks" = some .shared → r.Formula t → r.Slotless → 0 ≤ w.fuel →
      ∃ v lines, Logs w (runBlock me (.text r.id) next) (.ok v) lines ∧
        Logs (w.renamed σ me) (runBlock me (.text (σ r.id)) next) (.ok v) (lines.map (LogLine.renamed σ))) := by
  refine ⟨fun w me f name opcode op ids next rule begins hrule shared =>
    ⟨run_ofIds begins hrule, run_renamed injective begins hrule shared⟩, fun unseen => funext fun a => ?_,
    fun nonempty w me name t r next reads shared held free awake => ?_⟩
  swap
  · obtain ⟨outcome, trace⟩ := r.unseen (σ := σ) (w.sight me) name free
    have logs := (r.renamed σ).logs (r.formula_renamed injective nonempty held) (w.renamed σ me)
      (2 * w.fuel.toNat + 3 + 1) next ⟨reads.running, reads.named, World.blocks?_renamed σ shared reads.blocks⟩ awake
      (show w.fuel.toNat < _ by omega)
    rw [World.sight_renamed, trace, Reporter.value, outcome, show (r.renamed σ).id = σ r.id by cases r; rfl] at logs
    exact ⟨_, _, .of_play (runBlock_play me _ next w)
        (r.logs held w (2 * w.fuel.toNat + 3 + 1) next reads awake (by omega)),
      .of_play (runBlock_play me _ next _) logs⟩
  have same := unseen (.joining a) 0 (.text a) false
  rw [run_ofIds (World.begins_joining a) rfl] at same
  have joined : σ a ++ σ a = a ++ a :=
    Value.text.inj (Except.ok.inj ((run_renamed injective (World.begins_joining a) rfl rfl).symm.trans same))
  have twice : (σ a).toList ++ (σ a).toList = a.toList ++ a.toList := by
    rw [← String.toList_append, joined, String.toList_append]
  have long := congrArg List.length twice
  rw [List.length_append, List.length_append] at long
  exact String.toList_inj.1 (List.append_inj_left twice (show _ = a.toList.length by omega))

theorem renamed_b_injective : Function.Injective ("b" ++ ·) := fun _ _ same => String.append_right_inj _ |>.1 same

theorem sees_ids_joining :
    ((runBlock 0 (.text "j") false).play (.joining "j")).1 = .ok (.text "jj") ∧
      ((runBlock 0 (.text "bj") false).play ((World.joining "j").renamed ("b" ++ ·) 0)).1 = .ok (.text "bjbj") :=
  (sees_ids renamed_b_injective).1 _ _ _ _ _ _ _ _ _ (World.begins_joining "j") rfl rfl

theorem joined_ids_tell :
    ((runBlock 0 (.text "bj") false).play ((World.joining "j").renamed ("b" ++ ·) 0)).1 ≠
      ((runBlock 0 (.text "j") false).play (.joining "j")).1 := by
  rw [run_ofIds (World.begins_joining "j") rfl]
  intro same
  have told := (run_renamed renamed_b_injective (World.begins_joining "j") rfl rfl).symm.trans same
  exact absurd (Value.text.inj (Except.ok.inj told)) (by decide)

end Operator

end BlockStage
