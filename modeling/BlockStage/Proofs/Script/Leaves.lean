import BlockStage.Proofs.Run.Acts
import BlockStage.Proofs.Script.Structured

/-!
# What the leaves of a script run

A leaf runs nothing but the reporters in its own inputs: `Member.within_leaf` says so for everything
that an opcode can mean on a sprite.
-/

namespace BlockStage

open Act

/-! ## What names mean -/

/-- The name of an opcode means it in its own family of blocks. -/
def Opcode.Named (s : String) : Opcode → Prop
  | .motion b => Motion.ofName? s = some b
  | .looks b => Looks.ofName? s = some b
  | .operator b => Operator.ofName? s = some b
  | .data b => Data.ofName? s = some b
  | .control b => Control.ofName? s = some b
  | .sensing b => Sensing.ofName? s = some b
  | .custom b => Custom.ofName? s = some b
  | .flagClicked => s = "event_whenflagclicked" ∨ s = "procedure_definition"

theorem Opcode.named_of_ofName? {s : String} {op : Opcode} (h : Opcode.ofName? s = some op) :
    op.Named s := by
  unfold Opcode.ofName? at h
  split at h
  · rename_i hat
    cases h
    simpa [Opcode.Named] using hat
  · simp only [Option.orElse_eq_or, Option.or_eq_some_iff, Option.map_eq_some_iff] at h
    rcases h with ⟨_, h, rfl⟩ | ⟨_, ⟨_, h, rfl⟩ | ⟨_, ⟨_, h, rfl⟩ | ⟨_, ⟨_, h, rfl⟩ | ⟨_, ⟨_, h, rfl⟩ |
      ⟨_, ⟨_, h, rfl⟩ | ⟨_, _, h, rfl⟩⟩⟩⟩⟩⟩ <;> exact h

namespace Control

def name : Control → String
  | ifThen => "control_if"
  | ifThenElse => "control_if_else"
  | waitUntil => "control_wait_until"
  | repeatTimes => "control_repeat"
  | forever => "control_forever"
  | wait => "control_wait"
  | stop => "control_stop"
  | createClone => "control_create_clone_of"
  | createCloneMenu => "control_create_clone_of_menu"
  | startAsClone => "control_start_as_clone"
  | deleteClone => "control_delete_this_clone"

theorem eq_name_of_ofName? {s : String} {c : Control} (h : ofName? s = some c) : s = c.name := by
  unfold ofName? at h
  split at h <;> cases h <;> rfl

end Control

theorem Custom.eq_of_ofName?_call {s : String} (h : Custom.ofName? s = some .call) :
    s = "procedures_call" := by
  unfold Custom.ofName? at h
  split at h <;> cases h
  rfl

theorem Common.underscores_of_ofName? {s : String} {c : Common} (h : Common.ofName? s = some c) :
    s.toList.take 2 = ['_', '_'] := by
  unfold Common.ofName? at h
  split at h <;> cases h <;> rfl

/-- A name that does not stand for every object's own means no such thing on a sprite. -/
theorem Member.ofName?_plain {s : Sprite} {name : String} {m : Member}
    (plain : name.toList.take 2 ≠ ['_', '_']) (h : Member.ofName? s name = some m) :
    m ∈ [.property, .touches, .enterCustom, .copy, .draw] ∨
      ∃ op, m = .block op ∧ Opcode.ofName? name = some op := by
  unfold Member.ofName? at h
  split at h
  · cases h; simp
  · split at h
    case h_7 =>
      simp only [Option.orElse_eq_or, Option.or_eq_some_iff, Option.map_eq_some_iff] at h
      rcases h with ⟨op, h, rfl⟩ | ⟨_, c, h, rfl⟩
      · exact .inr ⟨op, rfl, h⟩
      · exact absurd (Common.underscores_of_ofName? h) plain
    case h_5 | h_6 => exact absurd rfl plain
    all_goals cases h; simp

theorem Member.within_simple {m : Member} (simple : m ∈ [.property, .touches, .enterCustom, .copy, .draw])
    (me : Nat) (flag : Value) (I : World → Prop) (X : Request → Prop) :
    (m.invoke me [flag]).Within I X fun _ => True := by
  simp only [List.mem_cons, List.not_mem_nil, or_false] at simple
  rcases simple with rfl | rfl | rfl | rfl | rfl <;> simp [Member.invoke]

/-! ## The inputs of a leaf -/

/-- A flag stands for the reporter of an operand. -/
def Operand.Names : Operand → Value → Prop
  | .reporter r, flag | .slot r, flag => flag = .text r.id
  | _, _ => False

namespace Inputs

/-- A flag stands for one of the reporters among some inputs, or for nothing. -/
def Names : Inputs → Value → Prop
  | nil, flag => flag = .null
  | cons _ operand rest, flag => operand.Names flag ∨ rest.Names flag

/-- The requests to run one of the reporters among some inputs. -/
def Runs (me : Nat) (inputs : Inputs) (r : Request) : Prop :=
  ∃ flag, r = .run me flag ∧ inputs.Names flag

theorem names_null : ∀ inputs : Inputs, inputs.Names .null
  | nil => rfl
  | cons _ _ rest => .inr rest.names_null

variable {I : World → Prop} {X : Request → Prop} {me : Nat}

theorem within_ofInput {operand : Operand} (h : ∀ flag, operand.Names flag → X (.run me flag)) :
    (Arguments.ofInput me operand.input).Within I X fun _ => True := by
  cases operand with
  | reporter r => simp [Arguments.ofInput, Operand.input, h _ rfl]
  | _ => simp [Arguments.ofInput, Operand.input]

theorem within_ofInputs : ∀ {inputs : Inputs} {raw : List (String × Value)} (args : Arguments),
    inputs.Written raw → (∀ flag, inputs.Names flag → X (.run me flag)) →
    (Arguments.ofInputs me raw args).Within I X fun _ => True
  | nil, _, args, rfl, _ => by simp [Arguments.ofInputs]
  | cons name operand rest, _, args, ⟨v, more, rfl, read, written⟩, h => by
    simp only [Arguments.ofInputs, sends_bind, sends_lift, read, Yields.ok]
    refine (within_ofInput fun flag hflag => h flag (.inl hflag)).answer fun given _ => ?_
    have later : ∀ args, (Arguments.ofInputs me more args).Within I X fun _ => True :=
      fun args => within_ofInputs args written fun flag hflag => h flag (.inr hflag)
    cases given with
    | none => exact later args
    | some value => exact later _

def given : Inputs → List (String × Value)
  | nil => []
  | cons name (.slot r) rest => (name, .text r.id) :: rest.given
  | cons name _ rest => (name, .null) :: rest.given

theorem gives_given : ∀ (inputs : Inputs) {raw : List (String × Value)}, inputs.Written raw →
    inputs.AreSlots → List.Forall₂ Input.Gives raw inputs.given
  | nil, _, rfl, _ => .nil
  | cons _ (.slot _) rest, _, ⟨_, _, rfl, read, written⟩, slots =>
    .cons ⟨_, read, rfl, rfl⟩ (gives_given rest written slots)
  | cons _ .empty rest, _, ⟨_, _, rfl, read, written⟩, slots =>
    .cons ⟨_, read, rfl, rfl⟩ (gives_given rest written slots)

theorem names_given : ∀ inputs : Inputs, inputs.AreSlots → ∀ g ∈ inputs.given, inputs.Names g.2
  | nil, _, _, h => nomatch h
  | cons _ (.slot _) rest, slots, g, h => by
    rcases List.mem_cons.1 h with rfl | h
    · exact .inl rfl
    · exact .inr (names_given rest slots g h)
  | cons _ .empty rest, slots, g, h => by
    rcases List.mem_cons.1 h with rfl | h
    · exact names_null _
    · exact .inr (names_given rest slots g h)

theorem fst_given : ∀ (inputs : Inputs) {raw : List (String × Value)}, inputs.Written raw →
    inputs.AreSlots → inputs.given.map Prod.fst = raw.map Prod.fst
  | nil, _, rfl, _ => rfl
  | cons name (.slot _) rest, _, ⟨_, _, rfl, _, written⟩, slots =>
    congrArg (name :: ·) (fst_given rest written slots)
  | cons name .empty rest, _, ⟨_, _, rfl, _, written⟩, slots =>
    congrArg (name :: ·) (fst_given rest written slots)

end Inputs

theorem Table.mem_or_get?_of_foldl_put {α : Type} {key : String} {a : α} (pairs : List (String × α))
    (t : Table α) (h : Table.get? (pairs.foldl (fun t p => Table.put t p.1 p.2) t) key = some a) :
    (key, a) ∈ pairs ∨ Table.get? t key = some a := by
  induction pairs generalizing t with
  | nil => exact .inr h
  | cons p rest ih =>
    rcases ih _ h with found | found
    · exact .inl (List.mem_cons_of_mem _ found)
    · by_cases hp : p.1 = key
      · subst hp
        rw [Table.get?_put_self] at found
        cases found
        exact .inl (List.mem_cons_self ..)
      · rw [Table.get?_put_of_ne _ _ hp] at found
        exact .inr found

/-! ## The block itself -/

section

variable {I : World → Prop} {me : Nat} {flag : Value} {b : Block} {opcode : String} {inputs : Inputs}

theorem Block.IsLeaf.takesWithin (leaf : b.IsLeaf opcode inputs)
    (hb : ∀ w, I w → w.block? me flag = .ok b) : TakesWithin I (inputs.Runs me) me flag := by
  obtain ⟨raw, hraw, written, -⟩ := leaf.written
  unfold TakesWithin Arguments.eval
  split
  · simp
  · simp only [sends_bind, within_look, sends_lift]
    intro w hw
    rw [hb w hw]
    simp only [Yields.ok, Block.part?_record hraw, Value.fields?_record]
    refine fun fields _ => fun pairs _ => ?_
    refine fun args _ => ?_
    exact Inputs.within_ofInputs args written fun flag h => ⟨flag, rfl, h⟩

theorem Block.IsLeaf.takesSlots (leaf : b.IsLeaf opcode inputs) (branches : opcode ∈ branching)
    (hb : ∀ w, I w → w.block? me flag = .ok b) : (Arguments.eval me flag).Within I (inputs.Runs me)
      fun args => ∀ key v, Table.get? args key = some v → (key, v) ∈ inputs.given := by
  obtain ⟨raw, hraw, written, -⟩ := leaf.written
  obtain ⟨slots, fields⟩ := leaf.slots branches
  unfold Arguments.eval
  split
  · simp [Table.get?]
  · simp only [sends_bind, within_look, sends_lift]
    intro w hw
    rw [hb w hw]
    simp only [Yields.ok, Block.part?_record hraw, Block.part?_record fields, Value.fields?_record,
      Arguments.ofFields]
    rw [Arguments.ofInputs_given me (inputs.gives_given written slots)]
    intro key v found
    rcases Table.mem_or_get?_of_foldl_put _ _ found with found | found
    · exact found
    · simp [Table.get?] at found

theorem Block.IsLeaf.branch? (leaf : b.IsLeaf opcode inputs) :
    b.branch? "SUBSTACK" = .error .missingKey := by
  obtain ⟨raw, hraw, -, absent⟩ := leaf.written
  have missing : ∀ {fields : List (String × Value)}, "SUBSTACK" ∉ fields.map Prod.fst →
      Table.get? fields "SUBSTACK" = none := by
    intro fields h
    induction fields with
    | nil => rfl
    | cons p rest ih =>
      simp only [List.map_cons, List.mem_cons, not_or] at h
      rw [Table.get?, if_neg (Ne.symm h.1), ih h.2]
  rw [Block.branch?, hraw]
  simp only [bind, Except.bind, Value.field?, missing absent]

/-- What a leaf with slots finds under a name can be run, and is no script inside. -/
theorem Block.IsLeaf.yields_need (leaf : b.IsLeaf opcode inputs) (branches : opcode ∈ branching)
    {args : Arguments}
    (given : ∀ key v, Table.get? args key = some v → (key, v) ∈ inputs.given) (key : String) :
    Yields (fun v => inputs.Names v ∧ key ≠ "SUBSTACK") (args.need key) := by
  obtain ⟨raw, -, written, absent⟩ := leaf.written
  obtain ⟨slots, -⟩ := leaf.slots branches
  unfold Arguments.need
  split
  · rename_i v found
    rw [Yields.ok]
    have mem := given key v found
    refine ⟨inputs.names_given slots _ mem, ?_⟩
    rintro rfl
    rw [← inputs.fst_given written slots] at absent
    exact absent (List.mem_map_of_mem mem)
  · simp

theorem Control.within_leaf (leaf : b.IsLeaf opcode inputs)
    (hb : ∀ w, I w → w.block? me flag = .ok b) {c : Control} (hc : opcode = c.name) :
    (c.act me flag).Within I (inputs.Runs me) fun _ => True := by
  have takes := leaf.takesWithin hb
  cases c with
  | waitUntil | stop | createClone | startAsClone | deleteClone =>
    exact absurd (hc ▸ leaf.near) (by decide)
  | wait | createCloneMenu =>
    refine takes.bind fun args => ?_
    simp
  | repeatTimes =>
    refine takes.bind fun args => ?_
    simp only [sends_bind, within_look, sends_lift]
    intro w hw
    rw [hb w hw, Yields.ok, leaf.branch?]
    simp
  | forever =>
    simp only [Control.act, endlessRounds, sends_bind, within_look, sends_pure]
    intro w _
    have looks : (isDeleted me).Within I (inputs.Runs me) fun _ => True := by simp [isDeleted]
    refine looks.answer fun deleted _ => ?_
    split
    · simp
    · simp only [sends_bind, within_look, sends_lift]
      intro w hw
      rw [hb w hw, Yields.ok, leaf.branch?]
      simp
  | ifThen =>
    have branches : opcode ∈ branching := by rw [hc]; decide
    simp only [Control.act, sends_bind, sends_lift, within_run]
    refine (leaf.takesSlots branches hb).answer fun args given => ?_
    refine (leaf.yields_need branches given "CONDITION").mono fun c hc => ⟨⟨c, rfl, hc.1⟩, fun v => ?_⟩
    split
    · simp only [sends_bind, sends_lift]
      exact (leaf.yields_need branches given "SUBSTACK").mono fun _ h => absurd rfl h.2
    · simp
  | ifThenElse =>
    have branches : opcode ∈ branching := by rw [hc]; decide
    simp only [Control.act, sends_bind, sends_lift]
    refine (leaf.takesSlots branches hb).answer fun args given c _ => ?_
    dsimp only
    split
    · simp only [sends_bind, sends_lift]
      exact (leaf.yields_need branches given "SUBSTACK").mono fun _ h => absurd rfl h.2
    · simp only [sends_bind, sends_lift]
      refine (leaf.yields_need branches given "SUBSTACK2").mono fun v h => ?_
      simp only [Control.branch, sends_bind, within_run, sends_pure]
      exact ⟨⟨v, rfl, h.1⟩, fun _ => trivial⟩

/-- What the opcode of a leaf means is done within its own inputs. -/
theorem Opcode.within_leaf (leaf : b.IsLeaf opcode inputs)
    (hb : ∀ w, I w → w.block? me flag = .ok b) {op : Opcode} (hop : Opcode.ofName? opcode = some op) :
    (op.act me flag).Within I (inputs.Runs me) fun _ => True := by
  have takes := leaf.takesWithin hb
  cases op with
  | control c => exact c.within_leaf leaf hb (Control.eq_name_of_ofName? (Opcode.named_of_ofName? hop))
  | custom c =>
    cases c with
    | call =>
      have call := Custom.eq_of_ofName?_call (Opcode.named_of_ofName? hop)
      exact absurd (call ▸ leaf.near) (by decide)
    | argument => exact within_plain takes rfl
  | _ => exact within_plain takes rfl

theorem Member.within_leaf (leaf : b.IsLeaf opcode inputs)
    (hb : ∀ w, I w → w.block? me flag = .ok b) {s : Sprite} {m : Member}
    (hm : Member.ofName? s opcode = some m) :
    (m.invoke me [flag]).Within I (inputs.Runs me) fun _ => True := by
  rcases Member.ofName?_plain leaf.plain hm with simple | ⟨op, rfl, hop⟩
  · exact Member.within_simple simple _ _ _ _
  · exact op.within_leaf leaf hb hop

end

end BlockStage
