import BlockStage.Proofs.Script.Leaves
import Mathlib.Data.List.Permutation

/-!
# Running a structured script

Running the table of blocks that a structured script is written down as does what the script means:
`runBlock_eq_exec` says that the two leave the same world and the same answer. What carries the proof is that
nothing a structured script does changes what stands under an id, or the sprite itself (`World.Kept`), and
that every block that is entered takes from the fuel.
-/

namespace BlockStage

open Run

variable {w : World} {id opcode : String} {b : Block} {first flag : Value} {r : Run Value}

/-! ## Agreement -/

/-- Two runs do the same from every world that satisfies `J`, and keep it. -/
structure Run.Agree {α : Type} (J : World → Prop) (r s : Run α) : Prop where
  same : ∀ w, J w → r.play w = s.play w
  keeps : s.Keeps J fun _ => True

namespace Run.Agree

variable {α β : Type} {J : World → Prop} {r s : Run α}

theorem refl (h : r.Keeps J fun _ => True) : Agree J r r := ⟨fun _ _ => rfl, h⟩

theorem bind {f g : α → Run β} (h : Agree J r s) (hfg : ∀ a, Agree J (f a) (g a)) :
    Agree J (r >>= f) (s >>= g) where
  same w hw := play_bind_congr (h.same w hw) fun a w' hs => (hfg a).same w' (h.keeps.ok hw hs).1
  keeps := h.keeps.bind fun a _ => (hfg a).keeps

theorem bind_map {γ : Type} {s : Run γ} {k : γ → α} {f : α → Run β} {g : γ → Run β}
    (h : Agree J r (do let c ← s; return k c)) (hfg : ∀ c, Agree J (f (k c)) (g c)) :
    Agree J (r >>= f) (s >>= g) := by
  have first : s.Keeps J fun _ => True := {
    ok := fun hw hs => ⟨(h.keeps.ok hw (play_bind_ok hs _)).1, trivial⟩
    fault := fun hw hs => h.keeps.fault hw (play_bind_error hs _) }
  refine ⟨fun w hw => ?_, first.bind fun c _ => (hfg c).keeps⟩
  calc (r >>= f).play w
      = ((do let c ← s; return k c) >>= f).play w := play_bind_congr (h.same w hw) fun _ _ _ => rfl
    _ = (s >>= fun c => f (k c)).play w := by simp only [bind_assoc, pure_bind]
    _ = (s >>= g).play w :=
        play_bind_congr rfl fun c w' hs => (hfg c).same w' (first.ok hw hs).1

theorem of_play {r' : Run α} (h : ∀ w, J w → r.play w = r'.play w) (agree : Agree J r' s) :
    Agree J r s :=
  ⟨fun w hw => (h w hw).trans (agree.same w hw), agree.keeps⟩

theorem keeps_left (h : Agree J r s) : r.Keeps J fun _ => True := h.keeps.of_eq h.same

/-- Looking at the world gives both the same world to go on with. -/
theorem get_bind {f g : World → Run β} (h : ∀ w, J w → Agree J (f w) (g w)) :
    Agree J (get >>= f) (get >>= g) where
  same w hw := (h w hw).same w hw
  keeps := ⟨fun hw hr => (h _ hw).keeps.ok hw hr, fun hw hr => (h _ hw).keeps.fault hw hr⟩

end Run.Agree

/-! ## What a script relies on -/

/-- A sprite whose scripts can be run: its blocks are a table, and neither it nor an attribute of it
stands in the way. -/
structure World.Plays (w : World) (me : Nat) (name : String) (t : Table Block) : Prop where
  running : w.done = false
  named : ((w.sprite me).name?.bind Value.display?) = .ok name
  blocks : w.blocks? me = .ok t
  alive : (w.sprite me).hasMode? .deleted = .ok false
  loops : (w.sprite me).hides "control_repeat" = false
  conditions : (w.sprite me).hides "control_if" = false

/-- The sprite is as it was in world `w0`, and there is less fuel left than the depth. -/
def World.Held (w0 : World) (me depth : Nat) (w : World) : Prop :=
  w0.Kept me w ∧ w.fuel.toNat < depth

variable {w0 : World} {me depth : Nat} {name : String} {t : Table Block}

namespace World.Held

theorem kept {w' : World} (h : w0.Held me depth w) (kept : w.Kept me w') : w0.Held me depth w' := by
  have := kept.fuel
  exact ⟨h.1.trans kept, by have := h.2; omega⟩

theorem mono {depth' : Nat} (h : w0.Held me depth w) (le : depth ≤ depth') :
    w0.Held me depth' w := ⟨h.1, Nat.lt_of_lt_of_le h.2 le⟩

theorem enter {w' : World} (h : w0.Held me (depth + 1) w)
    (entered : (enterBlock name opcode).play w = (.ok (), w')) : w0.Held me depth w' := by
  rw [enterBlock_play] at entered
  obtain rfl : w.enter name opcode = w' := congrArg Prod.snd entered
  have alive : ¬ w.fuel - 1 < 0 := by
    intro dead
    rw [if_pos dead] at entered
    cases entered
  have enough := h.2
  refine ⟨h.1.trans (.enter name opcode), ?_⟩
  show (w.fuel - 1).toNat < depth
  omega

end World.Held

theorem World.Plays.meets (plays : w0.Plays me name t) (hw : w0.Held me depth w)
    (hb : Table.get? t id = some b) : w.Meets me (.text id) name b where
  running := hw.1.done.trans plays.running
  named := by rw [hw.1.name?]; exact plays.named
  found := World.block?_of_get? (hw.1.blocks?.trans plays.blocks) hb

/-- Entering the same block and then doing the same, one level of depth further down. -/
theorem Run.Agree.enter {α : Type} (name opcode : String) {r s : Run α}
    (h : Agree (w0.Held me depth) r s) :
    Agree (w0.Held me (depth + 1)) (do enterBlock name opcode; r) (do enterBlock name opcode; s) where
  same w hw := play_bind_congr rfl fun _ w' entered => h.same w' (hw.enter entered)
  keeps := {
    ok := fun hw hr => by
      obtain ⟨_, w', entered, acted⟩ := play_bind_eq_ok hr
      exact ⟨(h.keeps.ok (hw.enter entered) acted).1.mono (Nat.le_succ _), trivial⟩
    fault := fun hw hr => by
      rcases play_bind_eq_error hr with entered | ⟨_, w', entered, acted⟩
      · rw [enterBlock_play] at entered
        split at entered <;> cases entered
      · obtain ⟨held, mild⟩ := h.keeps.fault (hw.enter entered) acted
        exact ⟨held.mono (Nat.le_succ _), mild⟩ }

/-! ## Leaves -/

/-- Giving up a block keeps what only depends on the sprite and its blocks. -/
theorem Run.Keeps.contain {J : World → Prop} (closed : ∀ w w', J w → w.Kept me w' → J w')
    (h : r.Keeps J fun _ => True) : (contain flag r).Keeps J fun _ => True where
  ok hw hr := by
    rcases contain_eq_ok hr with done | ⟨f, w1, failed, -, -, rfl⟩
    · exact h.ok hw done
    · exact ⟨closed _ _ (h.fault hw failed).1 (.noteFailure flag f), trivial⟩
  fault hw hr := h.fault hw (contain_eq_error hr).1

theorem Run.Agree.contain {s : Run Value} (h : Agree (w0.Held me depth) r s) :
    Agree (w0.Held me depth) (contain flag r) (contain flag s) where
  same w hw := contain_play_congr (h.same w hw)
  keeps := h.keeps.contain fun _ _ => World.Held.kept

/-- A leaf does the same if the reporters in its inputs do. -/
theorem Block.IsLeaf.agree (plays : w0.Plays me name t)
    {inputs : Inputs} (hb : Table.get? t id = some b) (leaf : b.IsLeaf opcode inputs)
    (reporters : ∀ flag, inputs.Names flag →
      Agree (w0.Held me depth) ((player depth).run me flag true) (inputs.run me name flag)) :
    Agree (w0.Held me depth) (actBlock (player depth) me (.text id) opcode)
      (actBlock (inputs.player me name) me (.text id) opcode) := by
  have found : ∀ w, w0.Held me depth w → w.block? me (.text id) = .ok b :=
    fun w hw => (plays.meets hw hb).found
  have steps : ∀ r : Request, r.Ordinary ∨ inputs.Runs me r →
      (r.perform (inputs.player me name)).Keeps (w0.Held me depth) (r.Admits (w0.Held me depth)) ∧
      ∀ w, w0.Held me depth w →
        (r.perform (player depth)).play w = (r.perform (inputs.player me name)).play w := by
    rintro r (ordinary | ⟨flag, rfl, names⟩)
    · exact ⟨Request.keeps_ordinary _ me (fun _ h => h) (fun _ _ => World.Held.kept) ordinary,
        fun w _ => by rw [Request.perform_ordinary _ _ ordinary]⟩
    · exact ⟨(reporters flag names).keeps, (reporters flag names).same⟩
  refine .get_bind fun w hw => ?_
  cases hm : Member.ofName? (w.sprite me) opcode with
  | none =>
    refine .refl (.bind (Q := fun _ => True) ?_ fun _ _ => .contain (fun _ _ => World.Held.kept) ?_)
    · exact Request.keeps_ordinary (player depth) me (r := .log _) (fun _ h => h) (fun _ _ => World.Held.kept) rfl
    · exact .throw nofun
  | some m =>
    have within := m.within_leaf leaf found hm
    refine .contain ⟨fun w hw => ?_, ?_⟩
    · exact Act.perform_congr (fun r hr => (steps r hr).1) (fun r hr => (steps r hr).2) within hw
    · exact Act.keeps_perform (fun r hr => (steps r hr).1) within

theorem World.Held.not_zero : ¬ w0.Held me 0 w := fun h => Nat.not_lt_zero _ h.2

theorem Run.Agree.zero {α : Type} {r s : Run α} : Agree (w0.Held me 0) r s where
  same _ hw := absurd hw World.Held.not_zero
  keeps := ⟨fun hw _ => absurd hw World.Held.not_zero, fun hw _ => absurd hw World.Held.not_zero⟩

/-- A block without a successor does the same, whether its script is run on or not. -/
theorem runWith_agree_last (plays : w0.Plays me name t) (next : Bool) (hb : Table.get? t id = some b)
    (hop : b.opcode? = .ok (.text opcode)) (last : b.next = .null)
    (acts : Agree (w0.Held me depth) (actBlock (player depth) me (.text id) opcode) r) :
    Agree (w0.Held me (depth + 1)) ((player (depth + 1)).run me (.text id) next)
      (do enterBlock name opcode; r) := by
  have ends : Agree (w0.Held me depth)
      (do
        let result ← actBlock (player depth) me (.text id) opcode
        if next then goOn (player depth) me (.text id) result else return result) r := by
    have answers : ∀ result : Value, Agree (w0.Held me depth)
        (if next then goOn (player depth) me (.text id) result else return result)
        (return result) := fun result => {
      same := fun w hw => by
        cases next with
        | false => rfl
        | true => exact goOn_last _ result (plays.meets hw hb).found last
      keeps := .pure trivial }
    simpa only [bind_pure] using acts.bind answers
  exact .of_play (fun w hw => runWith_play _ next (plays.meets hw hb) hop) (ends.enter name opcode)

theorem player_null (me depth : Nat) (next : Bool) :
    (player (depth + 1)).run me .null next = return .null :=
  funext fun w => runWith_idle (player depth) me next (w := w) (.inr rfl)

mutual

theorem Reporter.agree (plays : w0.Plays me name t) : ∀ (r : Reporter), r.In t → ∀ depth next,
    Agree (w0.Held me depth) ((player depth).run me (.text r.id) next) (r.eval me name)
  | _, _, 0, _ => .zero
  | .node _ _ inputs, ⟨⟨_, hb, leaf, last⟩, held⟩, depth + 1, next =>
    runWith_agree_last plays next hb leaf.named last
      (leaf.agree plays hb fun flag names => Inputs.agree plays inputs held flag names depth)

theorem Inputs.agree (plays : w0.Plays me name t) : ∀ (inputs : Inputs), inputs.In t → ∀ flag,
    inputs.Names flag → ∀ depth,
    Agree (w0.Held me depth) ((player depth).run me flag true) (inputs.run me name flag)
  | _, _, _, _, 0 => .zero
  | .nil, _, _, rfl, depth + 1 => by
    rw [player_null]
    exact .refl (.pure trivial)
  | .cons _ operand rest, ⟨first, later⟩, flag, names, depth + 1 => by
    have others : rest.Names flag → Agree (w0.Held me (depth + 1))
        ((player (depth + 1)).run me flag true) (rest.run me name flag) :=
      fun names => Inputs.agree plays rest later flag names _
    cases operand with
    | reporter r | slot r =>
      show Agree _ _ (if flag.isText r.id then r.eval me name else rest.run me name flag)
      by_cases h : flag.isText r.id
      · obtain rfl : flag = .text r.id := Value.isText_iff.1 h
        rw [if_pos h]
        exact Reporter.agree plays r first _ true
      · rw [if_neg h]
        exact others (names.resolve_left fun hflag => h (Value.isText_iff.2 hflag))
    | _ => exact others (names.resolve_left id)

end

theorem Operand.agree (plays : w0.Plays me name t) (operand : Operand) (held : operand.In t)
    (depth : Nat) :
    Agree (w0.Held me depth) ((Arguments.ofInput me operand.input).perform (player depth))
      (do
        let v ← operand.eval me name
        return some v) := by
  cases operand with
  | literal v | slot r | empty => exact .refl (.pure trivial)
  | «variable» id =>
    simp only [Operand.input, Arguments.ofInput, Operand.eval, Act.perform_bind, Act.perform_look,
      Act.perform_lift, Act.perform_pure, bind_assoc]
    exact .get_bind fun w _ => .bind (.refl (.lift (by simp))) fun v => .refl (.pure trivial)
  | reporter r =>
    simp only [Operand.input, Arguments.ofInput, Act.perform_bind, Act.perform_run, Act.perform_pure]
    exact (Reporter.agree plays r held depth true).bind fun v => .refl (.pure trivial)

/-! ## Loops -/

theorem Block.Loops.branch? {times : Value} (h : b.Loops times first) :
    b.branch? "SUBSTACK" = .ok first := by
  obtain ⟨inputs, holds, perm⟩ := h
  rw [Block.branch?, holds.inputs]
  rcases List.perm_pair.1 perm with rfl | rfl <;> rfl

/-- The inputs from `TIMES` on: the number of rounds is taken first, and the rest is handed over. -/
theorem takes_times (plays : w0.Plays me name t) {v : Value} {times : Operand}
    (read : Input.ofValue? v = .ok times.input) (held : times.In t)
    {rest given : List (String × Value)} (gives : List.Forall₂ Input.Gives rest given)
    (args : Arguments) (depth : Nat) : Agree (w0.Held me depth)
      ((Arguments.ofInputs me (("TIMES", v) :: rest) args).perform (player depth))
      (do
        let n ← times.eval me name
        return given.foldl (fun args g => Table.put args g.1 g.2) (Table.put args "TIMES" n)) := by
  have key : times.input.key "TIMES" = "TIMES" := by cases times <;> rfl
  rw [Arguments.ofInputs, read, Act.lift_ok_bind, Act.perform_bind, key]
  refine (Operand.agree plays times held depth).bind_map fun n => ?_
  simp only [Arguments.ofInputs_given me gives, Act.perform_ret]
  exact .refl (.pure trivial)

theorem Block.Loops.takes (plays : w0.Plays me name t)
    {v : Value} {times : Operand} (hb : Table.get? t id = some b) (loops : b.Loops v first)
    (read : Input.ofValue? v = .ok times.input) (held : times.In t) (depth : Nat) :
    ∃ argsOf : Value → Arguments, (∀ n, (argsOf n).need "TIMES" = .ok n) ∧
      Agree (w0.Held me depth) ((Arguments.eval me (.text id)).perform (player depth))
        (do
          let n ← times.eval me name
          return argsOf n) := by
  obtain ⟨inputs, holds, perm⟩ := loops
  have evals : ∀ w, w0.Held me depth w →
      ((Arguments.eval me (.text id)).perform (player depth)).play w =
        ((Arguments.ofInputs me inputs []).perform (player depth)).play w :=
    fun w hw => Arguments.eval_play _ rfl (plays.meets hw hb).found holds
  have body : Input.Gives ("SUBSTACK", .list [Value.int 2, first]) ("SUBSTACK", first) :=
    ⟨.branch first, rfl, rfl, rfl⟩
  rcases List.perm_pair.1 perm with rfl | rfl
  · exact ⟨_, fun n => rfl, .of_play evals (takes_times plays read held (.cons body .nil) [] depth)⟩
  · exact ⟨_, fun n => rfl,
      .of_play evals (takes_times plays read held .nil [("SUBSTACK", first)] depth)⟩

theorem isDeleted_play (plays : w0.Plays me name t) (p : Player)
    (hw : w0.Held me depth w) : ((Control.isDeleted me).perform p).play w = (.ok false, w) := by
  simp only [Control.isDeleted, Act.perform_bind, Act.perform_look, Act.perform_lift]
  rw [play_get_bind, hw.1.hasMode?, plays.alive]
  rfl

theorem rounds_agree (plays : w0.Plays me name t) {body : Run Unit}
    (script : Agree (w0.Held me depth) (do let _ ← (player depth).run me first true) body) (n : Nat) :
    Agree (w0.Held me depth) ((Control.rounds me first n).perform (player depth)) (iterate body n) := by
  induction n with
  | zero => exact .refl (.pure trivial)
  | succ n ih =>
    have round : Agree (w0.Held me depth)
        ((Control.branch me first >>= fun _ => Control.rounds me first n).perform (player depth))
        (iterate body (n + 1)) := by
      rw [Act.perform_bind, Control.branch_perform]
      exact script.bind fun _ => ih
    refine ⟨fun w hw => ?_, round.keeps⟩
    rw [Control.rounds, Act.play_bind_ok (isDeleted_play plays _ hw)]
    exact round.same w hw

theorem ScriptIn.eq_nil {body : List Statement} (h : ScriptIn t body .null) : body = [] := by
  cases body with
  | nil => rfl
  | cons s rest => exact nomatch h.1

theorem iterate_pure (n : Nat) : iterate (pure ()) n = pure () := by
  induction n with
  | zero => rfl
  | succ n ih => rw [iterate, ih, pure_bind]

theorem Block.Loops.agree (plays : w0.Plays me name t) {v : Value}
    {times : Operand} {body : List Statement} (hb : Table.get? t id = some b)
    (loops : b.Loops v first) (read : Input.ofValue? v = .ok times.input) (held : times.In t)
    (inside : ScriptIn t body first)
    (script : Agree (w0.Held me depth) (do let _ ← (player depth).run me first true)
      (execAll me name body)) :
    Agree (w0.Held me depth) ((Control.act me (.text id) .repeatTimes).perform (player depth))
      (do
        let n ← times.eval me name
        iterate (execAll me name body) n.asInt.toNat
        return .null) := by
  obtain ⟨argsOf, need, takes⟩ := loops.takes plays hb read held depth
  rw [Control.act, Act.perform_bind]
  refine takes.bind_map fun n => ?_
  have repeats := (rounds_agree plays script n.asInt.toNat).bind fun _ =>
    Agree.refl (r := (return .null : Run Value)) (.pure trivial)
  refine .of_play (fun w hw => ?_) repeats
  simp only [Act.perform_bind, Act.perform_look]
  rw [play_get_bind, (plays.meets hw hb).found]
  simp only [Act.perform_lift, lift_ok_bind, loops.branch?, need]
  by_cases hnull : first.isNull
  · obtain rfl : first = .null := by cases first <;> first | rfl | cases hnull
    obtain rfl := inside.eq_nil
    rw [repeats.same w hw, execAll, iterate_pure]
    rfl
  · rw [if_neg hnull, Act.lift_ok_bind, Act.perform_bind]
    rfl

/-! ## Conditions -/

/-- A condition runs its reporter once, and its script if the answer was `True`. -/
theorem ifThen_agree (plays : w0.Plays me name t)
    {condition : Reporter} {body : Run Unit} (hb : Table.get? t id = some b)
    (gives : b.Gives [("CONDITION", .text condition.id), ("SUBSTACK", first)] []) (held : condition.In t)
    (script : Agree (w0.Held me depth) (do let _ ← (player depth).run me first true) body) :
    Agree (w0.Held me depth) ((Control.act me (.text id) .ifThen).perform (player depth))
      (do
        let answer ← condition.eval me name
        if answer.isText "True" then body
        return .null) := by
  have inside : ∀ answer : Value, Agree (w0.Held me depth)
      (do
        if answer.isText "True" then (do let _ ← (player depth).run me first true)
        return (Value.null))
      (do
        if answer.isText "True" then body
        return .null) := fun answer => by
    split
    · exact script.bind fun _ => .refl (.pure trivial)
    · exact .refl (.pure trivial)
  refine .of_play (fun w hw => ?_) ((Reporter.agree plays condition held depth true).bind inside)
  obtain ⟨args, evals, values, -⟩ :=
    Arguments.eval_given rfl (plays.meets hw hb).found gives (by simp)
  have need : args.need "CONDITION" = .ok (.text condition.id) ∧ args.need "SUBSTACK" = .ok first := by
    have hcondition := values _ (.head _)
    have hbody := values _ (.tail _ (.head _))
    simp only [Arguments.need, hcondition, hbody, and_self]
  rw [Control.act, Act.play_bind_ok (evals _), need.1, need.2]
  simp only [Act.lift_ok_bind, Act.perform_bind, Act.perform_run]
  refine play_bind_congr rfl fun answer w' _ => ?_
  split
  · rw [Act.perform_bind, Control.branch_perform]
    rfl
  · rfl

/-! ## Scripts -/

theorem World.Plays.kept (plays : w0.Plays me name t) (kept : w0.Kept me w) : w.Plays me name t where
  running := kept.done.trans plays.running
  named := by rw [kept.name?]; exact plays.named
  blocks := kept.blocks?.trans plays.blocks
  alive := by rw [kept.hasMode?]; exact plays.alive
  loops := by rw [kept.hides (by decide)]; exact plays.loops
  conditions := by rw [kept.hides (by decide)]; exact plays.conditions

/-- What agrees from every world does so with less fuel, and leaves no more of it. -/
theorem Run.Agree.narrow {s : Run Value} (plays : w0.Plays me name t) {k : Nat} (le : k ≤ depth)
    (h : ∀ w1 : World, w1.Plays me name t → Agree (w1.Held me depth) r s) :
    Agree (w0.Held me k) r s := by
  have start : ∀ w, w0.Held me k w → w.Plays me name t ∧ w.Held me depth w :=
    fun w hw => ⟨plays.kept hw.1, .refl me w, Nat.lt_of_lt_of_le hw.2 le⟩
  refine ⟨fun w hw => (h w (start w hw).1).same w (start w hw).2, ⟨fun {w _ _} hw hr => ?_, fun {w _ _} hw hr => ?_⟩⟩
  · have kept := ((h w (start w hw).1).keeps.ok (start w hw).2 hr).1
    exact ⟨hw.kept kept.1, trivial⟩
  · obtain ⟨kept, mild⟩ := (h w (start w hw).1).keeps.fault (start w hw).2 hr
    exact ⟨hw.kept kept.1, mild⟩

/-- Every block in a list does what its statement means. -/
def AllAgree (me : Nat) (name : String) (t : Table Block) (ss : List Statement) : Prop :=
  ∀ s ∈ ss, ∀ next, s.In t next → ∀ w0 : World, w0.Plays me name t → ∀ depth,
    Agree (w0.Held me depth) (actBlock (player depth) me (.text s.id) s.opcode) (s.act me name)

theorem Statement.In.found {s : Statement} {next : Value} (h : s.In t next) :
    ∃ b, Table.get? t s.id = some b ∧ b.opcode? = .ok (.text s.opcode) ∧ b.next = next := by
  cases s with
  | leaf id opcode inputs =>
    obtain ⟨⟨b, hb, leaf, hnext⟩, -⟩ := h
    exact ⟨b, hb, leaf.named, hnext⟩
  | repeatTimes id times body =>
    obtain ⟨b, -, -, hb, hop, hnext, -⟩ := h
    exact ⟨b, hb, hop, hnext⟩
  | ifThen id condition body =>
    obtain ⟨b, -, hb, hop, hnext, -⟩ := h
    exact ⟨b, hb, hop, hnext⟩

/-- Walking through a script runs its blocks. There is a step in the walk for every block, since each
of them takes from the fuel when it is entered. -/
theorem walk_agree (plays : w0.Plays me name t) {ss : List Statement} (each : AllAgree me name t ss)
    (written : ScriptIn t ss flag) {k n : Nat} (deep : k ≤ depth) (long : k ≤ n) :
    Agree (w0.Held me k) (walk (fun f => (player depth).run me f false) me n flag)
      (do
        execAll me name ss
        return true) := by
  induction ss generalizing flag k n with
  | nil =>
    obtain rfl : flag = .null := written
    cases n <;> exact .refl (.pure trivial)
  | cons s rest ih =>
    obtain ⟨rfl, next, held, later⟩ := written
    obtain ⟨b, hb, hop, rfl⟩ := held.found
    obtain _ | k := k
    · exact .zero
    obtain ⟨depth, rfl⟩ : ∃ d, depth = d + 1 := ⟨depth - 1, by omega⟩
    obtain ⟨n, rfl⟩ : ∃ m, n = m + 1 := ⟨n - 1, by omega⟩
    have onward := ih (fun s' mem => each s' (.tail _ mem)) later (k := k) (n := n) (by omega) (by omega)
    have acts : Agree (w0.Held me k) (actBlock (player depth) me (.text s.id) s.opcode)
        (s.act me name) :=
      .narrow plays (by omega) fun w1 plays1 => each s (.head _) _ held w1 plays1 depth
    have steps := (acts.bind fun _ => onward).enter name s.opcode
    rw [execAll]
    simp only [bind_assoc]
    refine .of_play (fun w hw => ?_) steps
    have meets := plays.meets hw hb
    have enters : ((player (depth + 1)).run me (.text s.id) false).play w =
        (do enterBlock name s.opcode; actBlock (player depth) me (.text s.id) s.opcode).play w := by
      rw [show (player (depth + 1)).run me (.text s.id) false =
        runWith (player depth) me (.text s.id) false from rfl, runWith_play _ false meets hop]
      simp only [Bool.false_eq_true, if_false, bind_pure]
    have alive : (w.sprite me).hasMode? .deleted = .ok false := by rw [hw.1.hasMode?, plays.alive]
    rw [walk_enter n meets.flag_ne_null alive, ← bind_assoc (enterBlock name s.opcode)]
    refine play_bind_congr enters fun v w' acted => ?_
    have still := ((acts.enter name s.opcode).keeps_left.ok hw acted).1
    rw [play_get_bind, (plays.meets still hb).found, lift_ok_bind]

theorem goOn_agree (plays : w0.Plays me name t) {rest : List Statement}
    (each : AllAgree me name t rest) (hb : Table.get? t id = some b)
    (written : ScriptIn t rest b.next) (depth : Nat) (result : Value) :
    Agree (w0.Held me depth) (goOn (player depth) me (.text id) result)
      (do
        execAll me name rest
        return result) := by
  have walks : ∀ {k n : Nat}, k ≤ depth → k ≤ n → Agree (w0.Held me k)
      (do
        let reachedEnd ← walk (fun f => (player depth).run me f false) me n b.next
        return if reachedEnd then result else .null)
      (do
        execAll me name rest
        return result) := fun deep long =>
    (walk_agree plays each written deep long).bind_map (k := fun _ => true) fun _ =>
      .refl (.pure trivial)
  refine ⟨fun w hw => ?_, (walks (Nat.le_refl _) (Nat.le_refl _)).keeps⟩
  rw [goOn, play_get_bind, (plays.meets hw hb).found, lift_ok_bind]
  exact (walks (k := w.fuel.toNat + 1) hw.2 (by omega)).same w ⟨hw.1, Nat.lt_succ_self _⟩

/-- Running a script that is written down does what it means, if each of its blocks does. -/
theorem script_agree (plays : w0.Plays me name t) {ss : List Statement}
    (each : AllAgree me name t ss) (written : ScriptIn t ss flag) (depth : Nat) :
    Agree (w0.Held me depth) ((player depth).run me flag true) (exec me name ss) := by
  obtain _ | depth := depth
  · exact .zero
  cases ss with
  | nil =>
    obtain rfl : flag = .null := written
    rw [player_null]
    exact .refl (.pure trivial)
  | cons s rest =>
    obtain ⟨rfl, next, held, later⟩ := written
    obtain ⟨b, hb, hop, rfl⟩ := held.found
    have acts := each s (.head _) _ held w0 plays depth
    have onward := goOn_agree plays (fun s' mem => each s' (.tail _ mem)) hb later depth
    refine .of_play (fun w hw => ?_) ((acts.bind onward).enter name s.opcode)
    exact runWith_play (player depth) true (plays.meets hw hb) hop

theorem exec_discard (ss : List Statement) : (do let _ ← exec me name ss) = execAll me name ss := by
  cases ss with
  | nil => rfl
  | cons s rest => simp only [exec, execAll, bind_assoc, pure_bind, bind_pure_unit]

theorem runs_body (plays : w0.Plays me name t) {ss : List Statement} (each : AllAgree me name t ss)
    (written : ScriptIn t ss flag) (depth : Nat) :
    Agree (w0.Held me depth) (do let _ ← (player depth).run me flag true) (execAll me name ss) := by
  rw [← exec_discard]
  exact (script_agree plays each written depth).bind fun _ => .refl (.pure trivial)

/-! ## Statements -/

theorem Control.actBlock_play (p : Player) {control : Control}
    (free : (w.sprite me).hides opcode = false) (known : opcode ∉ Member.always)
    (hm : Member.ofName? default opcode = some (.block (.control control))) :
    (actBlock p me (.text id) opcode).play w =
      (contain (.text id) ((control.act me (.text id)).perform p)).play w := by
  rw [actBlock_member p ((Member.ofName?_of_free free known).trans hm)]
  rfl

mutual

theorem Statement.agree : ∀ (s : Statement) (next : Value), s.In t next →
    ∀ w0 : World, w0.Plays me name t → ∀ depth,
    Agree (w0.Held me depth) (actBlock (player depth) me (.text s.id) s.opcode) (s.act me name)
  | .leaf _ _ inputs, _, ⟨⟨_, hb, leaf, _⟩, held⟩, _, plays, depth =>
    leaf.agree plays hb fun flag names => Inputs.agree plays inputs held flag names depth
  | .repeatTimes _ _ body, _, ⟨_, _, _, hb, _, _, loops, read, held, inside⟩, _, plays, depth => by
    have rounds := loops.agree plays hb read held inside
      (runs_body plays (allAgree body) inside depth)
    refine .of_play (fun w hw => ?_) rounds.contain
    exact Control.actBlock_play _ (plays.kept hw.1).loops
      (show "control_repeat" ∉ Member.always by decide) rfl
  | .ifThen _ _ body, _, ⟨_, _, hb, _, _, gives, held, inside⟩, _, plays, depth => by
    have branch := ifThen_agree plays hb gives held (runs_body plays (allAgree body) inside depth)
    refine .of_play (fun w hw => ?_) branch.contain
    exact Control.actBlock_play _ (plays.kept hw.1).conditions
      (show "control_if" ∉ Member.always by decide) rfl

theorem allAgree : ∀ ss : List Statement, AllAgree me name t ss
  | [], _, mem => nomatch mem
  | s :: rest, s', mem =>
    (List.mem_cons.1 mem).elim (fun first => first ▸ Statement.agree s)
      fun later => allAgree rest s' later

end

/-- Running a structured script does what the script means: it enters the same blocks in the same
order and equally often, logs the same faults, leaves the same world and gives the same answer. -/
theorem runBlock_eq_exec {w : World} {me : Nat} {name : String} {t : Table Block} {flag : Value}
    {script : List Statement} (plays : w.Plays me name t) (written : ScriptIn t script flag) :
    (runBlock me flag).play w = (exec me name script).play w := by
  have agree := script_agree plays (allAgree script) written w.depth
  rw [runBlock, play_get_bind]
  refine agree.same w ⟨.refl me w, ?_⟩
  show w.fuel.toNat < 2 * w.fuel.toNat + 4
  omega

/-- Shows the sprite twice, each time after a comparison, and ends with a block that nobody knows. -/
def showTwice : List Statement := [
  .leaf "h" "event_whenflagclicked" .nil,
  .repeatTimes "r" (.literal (.text "2")) [
    .ifThen "i" (.node "c" "operator_equals"
      (.cons "OPERAND1" (.literal (.text "a")) (.cons "OPERAND2" (.literal (.text "a")) .nil))) [
      .leaf "s" "looks_show" .nil]],
  .leaf "u" "pen_clear" .nil]

def showTwiceBlocks : Table Block := [
  ("h", .plain "event_whenflagclicked" [] (.text "r")),
  ("r", .plain "control_repeat" [("TIMES", .literal "2"), ("SUBSTACK", .slot "i")] (.text "u")),
  ("i", .plain "control_if" [("CONDITION", .slot "c"), ("SUBSTACK", .slot "s")]),
  ("c", .plain "operator_equals" [("OPERAND1", .literal "a"), ("OPERAND2", .literal "a")]),
  ("s", .plain "looks_show" []),
  ("u", .plain "pen_clear" [])]

theorem Block.plain_isLeaf {raw : List (String × Value)} {next : Value}
    {inputs : Inputs} (near : opcode ∉ farReaching ++ branching)
    (plain : opcode.toList.take 2 ≠ ['_', '_']) (written : inputs.Written raw)
    (single : "SUBSTACK" ∉ raw.map Prod.fst) : (Block.plain opcode raw next).IsLeaf opcode inputs where
  named := rfl
  near h := near (List.mem_append_left _ h)
  plain := plain
  written := ⟨raw, rfl, written, single⟩
  slots h := absurd (List.mem_append_right _ h) near

theorem Block.IsLeaf.bare {next : Value} (near : opcode ∉ farReaching ++ branching)
    (plain : opcode.toList.take 2 ≠ ['_', '_']) : (Block.plain opcode [] next).IsLeaf opcode .nil :=
  Block.plain_isLeaf near plain rfl nofun

theorem showTwice_written : ScriptIn showTwiceBlocks showTwice (.text "h") := by
  have equal : Block.IsLeaf (.plain "operator_equals" [
      ("OPERAND1", .literal "a"), ("OPERAND2", .literal "a")]) "operator_equals"
      (.cons "OPERAND1" (.literal (.text "a")) (.cons "OPERAND2" (.literal (.text "a")) .nil)) :=
    Block.plain_isLeaf (by decide) (by decide) ⟨_, _, rfl, rfl, _, _, rfl, rfl, rfl⟩ (by simp)
  refine ⟨rfl, _, ⟨⟨_, rfl, .bare (by decide) (by decide), rfl⟩, trivial⟩, rfl, _, ?_, rfl, _,
    ⟨⟨_, rfl, .bare (by decide) (by decide), rfl⟩, trivial⟩, rfl⟩
  refine ⟨_, .literal "2", _, rfl, rfl, rfl, ⟨_, ⟨rfl, [], rfl, rfl⟩, .refl _⟩, rfl, trivial, rfl, _, ?_,
    rfl⟩
  refine ⟨_, .text "s", rfl, rfl, rfl,
    Block.plain_gives (.cons (Input.gives_slot _ _) (.cons (Input.gives_slot _ _) .nil)),
    ⟨⟨_, rfl, equal, rfl⟩, trivial, trivial, trivial⟩, rfl, _,
    ⟨⟨_, rfl, .bare (by decide) (by decide), rfl⟩, trivial⟩, rfl⟩

theorem runBlock_eq_exec_showTwice : (World.ofBlocks showTwiceBlocks).Plays 0 "Cat" showTwiceBlocks ∧
      ScriptIn showTwiceBlocks showTwice (.text "h") ∧
      (runBlock 0 (.text "h")).play (.ofBlocks showTwiceBlocks) =
        (exec 0 "Cat" showTwice).play (.ofBlocks showTwiceBlocks) := by
  have plays : (World.ofBlocks showTwiceBlocks).Plays 0 "Cat" showTwiceBlocks :=
    ⟨rfl, rfl, rfl, rfl, rfl, rfl⟩
  exact ⟨plays, showTwice_written, runBlock_eq_exec plays showTwice_written⟩

/-! ## A condition that is a text -/

/-- A condition without a script inside. Where its reporter would be stands a text, which happens to be
the id of the next block. -/
def textCondition : Table Block := [
  ("h", .plain "event_whenflagclicked" [] (.text "i")),
  ("i", .plain "control_if" [("CONDITION", .literal "b")] (.text "b")),
  ("b", .plain "looks_show" [])]

/-- The block after the condition stands once in the script, but it is entered twice: a leaf whose
inputs are not slots may run any script. -/
theorem textCondition_enters_twice :
    ((runBlock 0 (.text "h")).play (.ofBlocks textCondition)).2.log.toList = [
      .entered "Cat" "event_whenflagclicked", .flagClicked, .entered "Cat" "control_if",
      .entered "Cat" "looks_show", .entered "Cat" "looks_show"] := rfl

end BlockStage
