import BlockStage.Proofs.Script.Refinement

/-!
# What a structured script leaves alone

However a structured script ends, it has started no other script, and its sprite is what it was:
`execAll_stays`. It meets no fault either: `execAll_never_faults`.
-/

namespace BlockStage

open Run

/-- Sprite `me` is still what it was, and the same scripts wait to be run. -/
def World.Quiet (me : Nat) (w w' : World) : Prop := w.Kept me w' ∧ w'.queue = w.queue

namespace World.Quiet

variable {me : Nat} {w w' w'' : World}

theorem refl (me : Nat) (w : World) : w.Quiet me w := ⟨.refl me w, rfl⟩

theorem trans (h : w.Quiet me w') (h' : w'.Quiet me w'') : w.Quiet me w'' :=
  ⟨h.1.trans h'.1, h'.2.trans h.2⟩

end World.Quiet

section

variable {w0 : World} {me : Nat} {name : String} {t : Table Block}

theorem Run.Stays.contain {flag : Value} {r : Run Value} (h : r.Stays (w0.Quiet me) fun _ => True) :
    (contain flag r).Stays (w0.Quiet me) fun _ => True :=
  h.contain_of fun _ f kept => kept.trans ⟨.noteFailure flag f, rfl⟩

theorem Run.Stays.enterBlock (sprite opcode : String) :
    (enterBlock sprite opcode).Stays (w0.Quiet me) fun _ => True where
  always w hw := by
    rw [enterBlock_play]
    exact hw.trans ⟨.enter sprite opcode, rfl⟩
  ok _ _ _ _ := trivial
  mild w hw hr := by
    rw [enterBlock_play] at hr
    split at hr <;> cases hr

/-! ## Acts -/

theorem World.Alters.queue {w w' : World} {r : Request} (h : w.Alters r w') : w'.queue = w.queue := by
  cases h with
  | note _ _ | give _ _ _ _ _ => rfl
  | storeVariable holder _ _ | storeList holder _ _ => cases holder <;> rfl

theorem Request.stays_ordinary (p : Player) {I : World → Prop} (look : ∀ w, w0.Quiet me w → I w)
    {r : Request} (h : r.Ordinary) : (r.perform p).Stays (w0.Quiet me) (r.Admits I) where
  always w hw := hw.trans ⟨(h.alters p w).kept me, (h.alters p w).queue⟩
  ok w a hw hr := by
    cases r with
    | look =>
      obtain rfl : w = a := Except.ok.inj hr
      exact look w hw
    | attempt _ _ _ | invoke _ _ _ => exact absurd h id
    | _ => trivial
  mild w hw hr := by
    obtain ⟨_, hf⟩ := h.mild p w hr
    cases hf

/-! ## Reporters -/

theorem World.Plays.found (plays : w0.Plays me name t) {id : String} {b : Block}
    (hb : Table.get? t id = some b) (w : World) (hw : w0.Quiet me w) : w.block? me (.text id) = .ok b :=
  World.block?_of_get? (hw.1.blocks?.trans plays.blocks) hb

theorem Block.IsLeaf.stays (plays : w0.Plays me name t) {id opcode : String} {b : Block}
    {inputs : Inputs} (hb : Table.get? t id = some b) (leaf : b.IsLeaf opcode inputs)
    (reporters : ∀ flag, inputs.Names flag →
      (inputs.run me name flag).Stays (w0.Quiet me) fun _ => True) :
    (actBlock (inputs.player me name) me (.text id) opcode).Stays (w0.Quiet me) fun _ => True := by
  have steps : ∀ r : Request, r.Ordinary ∨ inputs.Runs me r →
      (r.perform (inputs.player me name)).Stays (w0.Quiet me) (r.Admits (w0.Quiet me)) := by
    rintro r (ordinary | ⟨flag, rfl, names⟩)
    · exact Request.stays_ordinary _ (fun _ h => h) ordinary
    · exact reporters flag names
  refine .get_bind fun w _ => ?_
  cases hm : Member.ofName? (w.sprite me) opcode with
  | none =>
    refine .bind (Q := fun _ => True) ?_ fun _ _ => .contain (.throw nofun)
    exact Request.stays_ordinary (r := .log (.opcodeMissing opcode)) (inputs.player me name)
      (I := fun _ => True) (fun _ _ => trivial) rfl
  | some m => exact .contain (Act.stays_perform steps (m.within_leaf leaf (plays.found hb) hm))

mutual

theorem Reporter.stays (plays : w0.Plays me name t) : ∀ (r : Reporter), r.In t →
    (r.eval me name).Stays (w0.Quiet me) fun _ => True
  | .node _ opcode inputs, ⟨⟨_, hb, leaf, _⟩, held⟩ =>
    .bind (.enterBlock name opcode) fun _ _ =>
      leaf.stays plays hb fun flag names => Inputs.stays plays inputs held flag names

theorem Inputs.stays (plays : w0.Plays me name t) : ∀ (inputs : Inputs), inputs.In t → ∀ flag,
    inputs.Names flag → (inputs.run me name flag).Stays (w0.Quiet me) fun _ => True
  | .nil, _, _, rfl => .pure trivial
  | .cons _ operand rest, ⟨first, later⟩, flag, names => by
    cases operand with
    | reporter r | slot r =>
      show Stays _ _ (if flag.isText r.id then r.eval me name else rest.run me name flag)
      by_cases h : flag.isText r.id
      · rw [if_pos h]
        exact Reporter.stays plays r first
      · rw [if_neg h]
        exact Inputs.stays plays rest later flag
          (names.resolve_left fun hflag => h (Value.isText_iff.2 hflag))
    | _ => exact Inputs.stays plays rest later flag (names.resolve_left id)

end

theorem Operand.stays (plays : w0.Plays me name t) (operand : Operand) (held : operand.In t) :
    (operand.eval me name).Stays (w0.Quiet me) fun _ => True := by
  cases operand with
  | literal v | slot r | empty => exact .pure trivial
  | «variable» id => exact .get_bind fun w _ => .lift (by simp)
  | reporter r => exact Reporter.stays plays r held

/-! ## Scripts -/

theorem iterate_stays {J : World → Prop} {body : Run Unit} (h : body.Stays J fun _ => True) (n : Nat) :
    (iterate body n).Stays J fun _ => True := by
  induction n with
  | zero => exact .pure trivial
  | succ n ih => exact h.bind fun _ _ => ih

mutual

theorem Statement.stays (plays : w0.Plays me name t) : ∀ (s : Statement) (next : Value), s.In t next →
    (s.act me name).Stays (w0.Quiet me) fun _ => True
  | .leaf _ _ inputs, _, ⟨⟨_, hb, leaf, _⟩, held⟩ =>
    leaf.stays plays hb fun flag names => Inputs.stays plays inputs held flag names
  | .repeatTimes _ times body, _, ⟨_, _, _, _, _, _, _, _, held, inside⟩ =>
    .contain (.bind (times.stays plays held) fun n _ =>
      .bind (iterate_stays (execAll_stays plays body inside) _) fun _ _ => .pure trivial)
  | .ifThen _ condition body, _, ⟨_, _, _, _, _, _, held, inside⟩ =>
    .contain (.bind (condition.stays plays held) fun answer _ => by
      split
      · exact .bind (execAll_stays plays body inside) fun _ _ => .pure trivial
      · exact .pure trivial)

/-- However a script ends, its sprite is what it was, and no script was started. -/
theorem execAll_stays (plays : w0.Plays me name t) : ∀ (ss : List Statement) {flag : Value},
    ScriptIn t ss flag → (execAll me name ss).Stays (w0.Quiet me) fun _ => True
  | [], _, _ => .pure trivial
  | s :: rest, _, ⟨_, next, held, later⟩ =>
    .bind (.enterBlock name s.opcode) fun _ _ =>
      .bind (Statement.stays plays s next held) fun _ _ => execAll_stays plays rest later

end

/-! ## No fault gets out -/

theorem contain_exit {flag : Value} {r : Run Value} {w w' : World} {e : Failure}
    (h : (contain flag r).play w = (.error (.fault e), w')) : e = .exit := by
  cases e with
  | error f => exact absurd rfl ((contain_eq_error h).2 f)
  | exit => rfl

theorem actBlock_exit {p : Player} {flag : Value} {opcode : String} {w w' : World} {e : Failure}
    (h : (actBlock p me flag opcode).play w = (.error (.fault e), w')) : e = .exit := by
  rw [actBlock, play_get_bind] at h
  split at h
  · exact contain_exit h
  · rw [play_bind_ok (play_log _ w)] at h
    exact contain_exit h

theorem execAll_exit (ss : List Statement) {w w' : World} {e : Failure}
    (h : (execAll me name ss).play w = (.error (.fault e), w')) : e = .exit := by
  induction ss generalizing w with
  | nil => cases h
  | cons s rest ih =>
    rw [execAll] at h
    rcases play_bind_eq_error h with entered | ⟨_, w1, -, h⟩
    · rw [enterBlock_play] at entered
      split at entered <;> cases entered
    rcases play_bind_eq_error h with acted | ⟨_, w2, -, h⟩
    · cases s with
      | leaf id opcode inputs => exact actBlock_exit acted
      | repeatTimes id times body => exact contain_exit acted
      | ifThen id condition body => exact contain_exit acted
    · exact ih h

theorem execAll_never_faults (plays : w0.Plays me name t) {ss : List Statement} {flag : Value}
    (written : ScriptIn t ss flag) {w w' : World} (hw : w0.Quiet me w) (e : Failure) :
    (execAll me name ss).play w ≠ (.error (.fault e), w') := by
  intro h
  cases execAll_exit ss h
  exact (execAll_stays plays ss written).mild w hw (congrArg Prod.fst h)

end

end BlockStage
