import BlockStage.Proofs.Run.Settling
import BlockStage.Proofs.Script.Leaves
import Mathlib.Data.Set.Finite.List
import Mathlib.Order.WellFoundedSet

/-!
# Scripts without circles

Where the blocks of a sprite refer to each other without a circle, and no block loops without an end or calls
another, every script comes to its end by itself, on a stack with any limit (`Acyclic.settles_limited`). A
condition can be a text that happens to be the id of a block; where conditions and branches stand in slots,
the limit does not matter (`Acyclic.ends`).
-/

namespace BlockStage

open Act Run

/-! ## References -/

theorem Input.at?_of_ofValue? {v flag : Value} {input : Input} (h : Input.ofValue? v = .ok input)
    (names : input = .reporter flag ∨ input = .branch flag) : v.at? 1 = .ok flag := by
  rw [ofValue?] at h
  simp only [bind, Except.bind, pure, Except.pure] at h
  repeat' split at h
  all_goals cases h <;> rcases names with names | names <;> cases names <;> assumption

namespace Block

def Refers (b : Block) (id : String) : Prop :=
  b.next = .text id ∨ ∃ p ∈ b.entries "inputs", p.2.at? 1 = .ok (.text id)

/-- A flag that stands for no block unless the block refers to it. -/
def Linked (b : Block) (flag : Value) : Prop := ∀ id, flag = .text id → b.Refers id

variable {b : Block} {v : Value}

theorem linked_next : b.Linked b.next := fun _ text => .inl text

theorem linked_of_get?_next (h : b.get? "next" = .ok v) : b.Linked v := by
  intro id text
  rw [Block.get?, Value.field?] at h
  split at h
  · next found => cases h; exact .inl (by rw [Block.next, found]; exact text)
  · cases h

theorem linked_of_branch? {name : String} (h : b.branch? name = .ok v) : b.Linked v := by
  rintro id rfl
  simp only [branch?, bind, Except.bind] at h
  split at h
  · cases h
  · next inputs hinputs =>
    split at h
    · cases h
    · next input hinput =>
      refine .inr ⟨(name, input), ?_, h⟩
      rw [Block.get?, Value.field?] at hinputs
      rw [Value.field?.eq_def] at hinput
      split at hinputs <;> cases hinputs
      next found =>
        split at hinput
        · rw [entries, found]
          split at hinput <;> cases hinput
          exact Table.mem_of_get? ‹_›
        · cases hinput

theorem Feeds.linked {K : String → Prop} (h : b.Feeds (fun _ => True) K) : b.Feeds b.Linked K where
  reporters p hp flag read := by
    rintro id rfl
    exact .inr ⟨p, hp, Input.at?_of_ofValue? read (.inl rfl)⟩
  slots p hp input read named := by
    obtain ⟨flag, rfl, -⟩ := h.slots p hp input read named
    refine ⟨flag, rfl, ?_⟩
    rintro id rfl
    exact .inr ⟨p, hp, Input.at?_of_ofValue? read (.inr rfl)⟩
  fields := h.fields

end Block

/-- A block of a table refers to another. -/
def Refers (blocks : Table Block) (id id' : String) : Prop :=
  ∃ b, Table.get? blocks id = some b ∧ b.Refers id'

/-- Blocks that do not come back to themselves, do not loop without an end and call no others. -/
structure Acyclic (blocks : Table Block) : Prop where
  acyclic : ∀ id, ¬ Relation.TransGen (Refers blocks) id id
  opcodes : ∀ id b, Table.get? blocks id = some b → ∃ s op, b.opcode? = .ok (.text s) ∧
    Opcode.ofName? s = some op ∧ op ≠ .custom .call ∧ ∀ c ∈ Control.loops, op ≠ .control c

/-- What a condition or a branch runs stands in a slot. -/
def Slotted (blocks : Table Block) : Prop :=
  ∀ id b c, Table.get? blocks id = some b → b.opcode? = .ok (.text c.name) →
    b.Feeds (fun _ => True) (· ∈ Control.runs c)

theorem Acyclic.acc {blocks : Table Block} (h : Acyclic blocks) (id : String) :
    Acc (fun id' id => Refers blocks id id') id := by
  have order : IsStrictOrder String fun id' id => Relation.TransGen (Refers blocks) id id' :=
    { irrefl := h.acyclic, trans := fun _ _ _ ab bc => bc.trans ab }
  have founded := (List.finite_toSet blocks.keys).wellFoundedOn
    (r := fun id' id => Relation.TransGen (Refers blocks) id id')
  -- A name that no block has refers to nothing.
  have unknown : ∀ id ∉ blocks.keys, Acc (fun id' id => Refers blocks id id') id := fun id none =>
    ⟨_, fun _ ⟨b, found, _⟩ => absurd (Table.mem_keys_iff.2 ⟨b, found⟩) none⟩
  by_cases mem : id ∈ blocks.keys
  · refine founded.induction (P := Acc _) mem fun id _ ih => ⟨_, fun id' refers => ?_⟩
    by_cases mem : id' ∈ blocks.keys
    · exact ih id' mem (.single refers)
    · exact unknown id' mem
  · exact unknown id mem

/-! ## Blocks -/

theorem Member.ofName?_opcode {s : Sprite} {name : String} {op : Opcode} {m : Member}
    (h : Opcode.ofName? name = some op) (hm : Member.ofName? s name = some m) : m = .property ∨ m = .block op := by
  unfold Member.ofName? at hm
  split at hm
  · cases hm; exact .inl rfl
  · split at hm
    case h_7 =>
      rw [h] at hm
      cases hm
      exact .inr rfl
    all_goals cases h

/-- What blocks of a sprite ask for that run only what `G` allows. -/
abbrev RunsIn (me : Nat) (blocks : Table Block) (G : Value → Prop) (act : Act Value) : Prop :=
  act.Within (World.HasBlocks me blocks) (Request.Steps me G) fun _ => True

/-- The blocks from one on come to the end of the script. -/
def WalkSettles (p : Stop → Nat → Player) (me : Nat) (blocks : Table Block) (flag : Value) : Prop :=
  ∀ (size : Int → Nat) (c : Nat), (∀ n, n.toNat ≤ size n + c) → ∀ w, w.HasBlocks me blocks →
    Settles (World.HasBlocks me blocks)
      (fun bottom depth n => walk (fun f => (p bottom depth).run me f false) me (size n) flag) w

namespace Acyclic

variable {p : Stop → Nat → Player} {me : Nat} {blocks : Table Block} {flag : Value} {G : Value → Prop} (h : Acyclic blocks)

/-- A table of slots runs only what its blocks refer to. -/
theorem runsIn_linked (slotted : Slotted blocks) {id : String} {b : Block} (found : Table.get? blocks id = some b)
    {s : String} {op : Opcode} (hs : b.opcode? = .ok (.text s)) (hop : Opcode.ofName? s = some op)
    (other : op ≠ .custom .call) (ends : ∀ c ∈ Control.loops, op ≠ .control c) :
    RunsIn me blocks b.Linked (op.act me (.text id)) := by
  have same : ∀ w b', World.HasBlocks me blocks w → w.block? me (.text id) = .ok b' → b' = b := by
    intro w b' hw hb'
    obtain ⟨_, text, found'⟩ := hw.get?_of_block? hb'
    cases text
    exact Option.some.inj (found'.symm.trans found)
  have takes : ∀ K, b.Feeds (fun _ => True) K → (Arguments.eval me (.text id)).Within (World.HasBlocks me blocks)
      (Request.Steps me b.Linked) (Arguments.Given b.Linked K) := by
    intro K feeds
    refine Arguments.sends_eval_given (fun r makes run => ?_) fun w b' hw hb' => same w b' hw hb' ▸ feeds.linked
    cases r with
    | look | log _ => exact .inl makes
    | run i flag =>
      cases makes
      exact .inr ⟨rfl, run flag rfl⟩
    | _ => exact makes.elim
  by_cases plain : op.isPlain
  · have feeds := Block.feeds_of_none (K := fun _ => False) (fun _ none => none) b
    exact Opcode.within_plain ((takes _ feeds).answer fun _ _ => trivial) plain
  cases op with
  | control c =>
    obtain rfl := Control.eq_name_of_ofName? (Opcode.named_of_ofName? hop)
    refine Control.sends_steered (G := b.Linked) (fun r makes run => ?_) (takes _ (slotted id b c found hs))
      fun _ w b' v hw hb' hv => ?_
    · cases r with
      | look | sleep _ => exact .inl trivial
      | start _ _ | stop | addClone _ | delete _ => exact .inr trivial
      | tick => exact absurd rfl (ends c makes)
      | run i flag =>
        cases makes
        exact .inr ⟨rfl, run flag rfl⟩
      | _ => exact makes.elim
    · rw [same w b' hw hb'] at hv
      exact hv.elim Block.linked_of_branch? Block.linked_of_get?_next
  | custom c =>
    cases c with
    | call => exact absurd rfl other
    | argument => exact absurd rfl plain
  | _ => exact absurd rfl plain

include h

theorem settles_actBlock {id : String} {b : Block} (found : Table.get? blocks id = some b) {s : String}
    (hs : b.opcode? = .ok (.text s))
    (within : ∀ op, Opcode.ofName? s = some op → op ≠ .custom .call → (∀ c ∈ Control.loops, op ≠ .control c) →
      RunsIn me blocks G (op.act me (.text id)))
    (runs : ∀ v, G v → RunSettles p me blocks v) {w : World} (hw : w.HasBlocks me blocks) :
    Settles (World.HasBlocks me blocks) (fun bottom depth _ => actBlock (p bottom depth) me (.text id) s) w := by
  obtain ⟨s', op, hs', hop, other, ends⟩ := h.opcodes id b found
  cases hs.symm.trans hs'
  have logs : ∀ (w : World) f, w.HasBlocks me blocks → (w.noteFailure (.text id) f).HasBlocks me blocks := fun _ _ hw => hw
  refine .get_bind (fun _ _ _ _ => rfl) ?_
  cases hm : Member.ofName? (w.sprite me) s with
  | none => exact .bind (.modify hw fun _ => rfl) fun _ _ hw' => .contain (.fail _ hw') _ logs
  | some m =>
    refine .contain ?_ _ logs
    rcases Member.ofName?_opcode hop hm with rfl | rfl
    · exact .fail _ hw
    · exact Act.settles_perform runs (within op hop other ends) (Opcode.veil_act me _ other ends) hw

/-- A script settles if those settle that its first block runs, and the blocks that come next. -/
theorem settles_runWith (next : Bool)
    (first : ∀ id b s, flag = .text id → Table.get? blocks id = some b → b.opcode? = .ok (.text s) →
      (∃ G, (∀ v, G v → RunSettles p me blocks v) ∧ ∀ op, Opcode.ofName? s = some op → op ≠ .custom .call →
        (∀ c ∈ Control.loops, op ≠ .control c) → RunsIn me blocks G (op.act me (.text id))) ∧
      WalkSettles p me blocks b.next) {w : World} (hw : w.HasBlocks me blocks) :
    Settles (World.HasBlocks me blocks) (fun bottom depth _ => runWith (p bottom depth) me flag next) w := by
  refine .get_bind (fun _ _ _ _ => rfl) ?_
  split
  · exact .pure _ hw
  refine .lift_bind hw fun named _ => .lift_bind hw fun name _ => .lift_bind hw fun b hb => ?_
  refine .lift_bind hw fun opcode hopcode => .lift_bind hw fun text _ => ?_
  refine .bind (.enterBlock _ _ hw) fun _ w1 hw1 => ?_
  obtain ⟨id, rfl, found⟩ := hw.get?_of_block? hb
  obtain ⟨s, -, hs, -⟩ := h.opcodes id b found
  cases hopcode.symm.trans hs
  obtain ⟨⟨G, runs, within⟩, onward⟩ := first id b s rfl found hs
  refine .bind (h.settles_actBlock found hs within runs hw1) fun result w2 hw2 => ?_
  cases next with
  | false => exact .pure _ hw2
  | true =>
    refine .get_fuel (.lift_bind (e := w2.block? me (.text id)) hw2 fun b' hb' => ?_)
    obtain ⟨_, text, found'⟩ := hw2.get?_of_block? hb'
    cases text
    cases found.symm.trans found'
    refine .bind (onward (fun n => n.toNat + (w2.blocks me).length + 2) 0 (fun n => ?_) w2 hw2)
      fun _ _ hw3 => .pure _ hw3
    omega

omit h in
/-- The blocks from one on settle if it does, and those that come next. -/
theorem settles_walk (run : RunSettles p me blocks flag)
    (onward : ∀ id b, flag = .text id → Table.get? blocks id = some b → WalkSettles p me blocks b.next) :
    WalkSettles p me blocks flag := by
  intro size c grows w hw
  refine .of_large
    (r := fun bottom depth n => walk (fun f => (p bottom depth).run me f false) me (size n - 1 + 1) flag) ?_
    (c + 1) fun bottom depth n large => ?_
  · by_cases null : flag.isNull
    · exact .of_play (.ok true) hw fun _ _ _ _ => by simp [walk, null]; rfl
    simp only [walk, null]
    refine .get_bind (fun _ _ _ _ => rfl) (.lift_bind hw fun deleted _ => ?_)
    split
    · exact .pure _ hw
    refine .bind (run false w hw) fun _ w1 hw1 => .get_bind (fun _ _ _ _ => rfl) (.lift_bind hw1 fun b hb => ?_)
    obtain ⟨id, rfl, found⟩ := hw1.get?_of_block? hb
    refine onward id b rfl found (fun n => size n - 1) (c + 1) (fun n => ?_) w1 hw1
    have := grows n
    omega
  · have := grows n
    rw [show size n - 1 + 1 = size n by omega]

/-! ## Scripts -/

/-- What holds of a script if it holds of those to which its first block refers holds of every script. -/
theorem of_linked {P : Value → Prop} (step : ∀ flag, (∀ id b, flag = .text id → Table.get? blocks id = some b →
      ∀ v, b.Linked v → P v) → P flag) (flag : Value) : P flag := by
  have unnamed : ∀ flag, (∀ id, flag ≠ .text id) → P flag := fun flag other =>
    step flag fun id _ text => absurd text (other id)
  have named : ∀ id, P (.text id) := by
    intro id
    induction h.acc id with
    | intro id _ ih =>
      refine step _ fun _ b text found v linked => ?_
      cases text
      cases v with
      | text id' => exact ih id' ⟨b, found, linked id' rfl⟩
      | _ => exact unnamed _ fun _ => nofun
  cases flag with
  | text id => exact named id
  | _ => exact unnamed _ fun _ => nofun

/-- Where conditions and branches stand in slots, scripts settle on any stack that is deep enough. -/
theorem ends (slotted : Slotted blocks) (flag : Value) :
    RunSettles stacked me blocks flag ∧ WalkSettles stacked me blocks flag := by
  refine h.of_linked (P := fun flag => RunSettles stacked me blocks flag ∧ WalkSettles stacked me blocks flag)
    (fun flag linked => ?_) flag
  have run : RunSettles stacked me blocks flag := fun next w hw => by
    refine .of_deeper (r := fun bottom depth _ => runWith (stacked bottom depth) me flag next) ?_ fun _ _ _ => rfl
    refine h.settles_runWith next (fun id b s text found hs => ?_) hw
    exact ⟨⟨b.Linked, fun v hv => (linked id b text found v hv).1, fun op => runsIn_linked slotted found hs⟩,
      (linked id b text found _ Block.linked_next).2⟩
  exact ⟨run, settles_walk run fun id b text found => (linked id b text found _ Block.linked_next).2⟩

/-- On a stack with a limit scripts settle, whatever their blocks run: by induction on the limit, as a block runs
scripts on what is left of the stack, and along the blocks that come next. -/
theorem settles_limited (limit : Nat) (flag : Value) : RunSettles (fun _ _ => limited limit) me blocks flag := by
  induction limit generalizing flag with
  | zero => exact fun _ _ hw => .fail (.error .tooDeep) hw
  | succ limit ih =>
    have walks : ∀ flag, WalkSettles (fun _ _ => limited limit) me blocks flag := h.of_linked fun flag linked =>
      settles_walk (ih flag) fun id b text found => linked id b text found _ Block.linked_next
    refine fun next w hw => h.settles_runWith next (fun id b s _ _ _ => ?_) hw
    refine ⟨⟨fun _ => True, fun v _ => ih v, fun op _ other loops => ?_⟩, walks b.next⟩
    refine Opcode.within_act (fun r asked => ?_) other fun c loop same => absurd same (loops c loop)
    cases r with
    | run i flag => exact ⟨asked, trivial⟩
    | addClone _ | start _ _ | delete _ | stop => trivial
    | _ => exact asked.elim

end Acyclic

/-- Where the blocks of a sprite refer to each other without a circle, a script comes to its end by itself. On a
stack with any limit there is a number of blocks such that a script that may enter as many ends, in the same way
however many more it may enter. Where conditions and branches stand in slots, that number and the end are the
same for all limits that are large enough, and without a limit. -/
theorem acyclic_script_settles {w : World} {me : Nat} {blocks : Table Block} (hw : w.blocks? me = .ok blocks)
    (h : Acyclic blocks) (flag : Value) (next : Bool) :
    (∀ limit, ∃ (least spent : Nat) (answer : Except Failure Value) (w' : World), spent ≤ least ∧
      ∀ fuel : Int, least ≤ fuel → ((limited limit).run me flag next).play { w with fuel := fuel } =
        (answer.mapError .fault, { w' with fuel := fuel - spent })) ∧
    (Slotted blocks → ∃ (least spent : Nat) (answer : Except Failure Value) (w' : World), spent ≤ least ∧
      ∀ fuel : Int, least ≤ fuel →
        (runBlock me flag next).play { w with fuel := fuel } =
          (answer.mapError .fault, { w' with fuel := fuel - spent }) ∧
        ∀ limit, least ≤ limit → ((limited limit).run me flag next).play { w with fuel := fuel } =
          (answer.mapError .fault, { w' with fuel := fuel - spent })) := by
  refine ⟨fun limit => ?_, fun slotted => ?_⟩
  · obtain ⟨least, spent, answer, w', le, -, play⟩ := h.settles_limited limit flag next w hw
    exact ⟨least, spent, answer, w', le, fun fuel enough => play .endless least fuel fuel (Nat.le_refl _) enough enough⟩
  · obtain ⟨least, spent, answer, w', le, -, play⟩ := (h.ends slotted flag).1 next w hw
    refine ⟨least, spent, answer, w', le, fun fuel enough =>
      ⟨?_, fun limit deep => play _ limit fuel fuel deep enough enough⟩⟩
    rw [runBlock, play_get_bind]
    exact play .endless _ fuel fuel (by simp only [World.depth]; omega) enough enough

/-! ## A script that ends -/

/-- A condition with a loop inside. -/
def repeatsIf : Table Block := [
  ("i", .plain "control_if" [("CONDITION", .slot "c"), ("SUBSTACK", .slot "r")]),
  ("c", .plain "operator_equals" [("OPERAND1", .literal "1"), ("OPERAND2", .literal "1")]),
  ("r", .plain "control_repeat" [("TIMES", .literal "2"), ("SUBSTACK", .slot "m")]),
  ("m", .plain "motion_gotoxy" [("X", .literal "10"), ("Y", .literal "10")])]

theorem acyclic_repeatsIf : Acyclic repeatsIf := by
  have known : ∀ {id b}, Table.get? repeatsIf id = some b → (id, b) ∈ repeatsIf := Table.mem_of_get?
  simp only [repeatsIf, List.mem_cons, List.not_mem_nil, or_false, Prod.mk.injEq] at known
  refine ⟨fun id cycle => ?_, fun id b found => ?_⟩
  · -- each block refers to later ones only
    have later : ∀ id id', Refers repeatsIf id id' → repeatsIf.keys.idxOf id < repeatsIf.keys.idxOf id' := by
      rintro id id' ⟨b, found, refers⟩
      rcases known found with ⟨rfl, rfl⟩ | ⟨rfl, rfl⟩ | ⟨rfl, rfl⟩ | ⟨rfl, rfl⟩
      all_goals
        rcases refers with next | ⟨p, mem, second⟩
        · cases next
        · rcases List.mem_pair.1 mem with rfl | rfl <;> cases second <;> decide
    have less := cycle.lift _ later
    rw [Relation.transGen_eq_self] at less
    exact Nat.lt_irrefl _ less
  · rcases known found with ⟨-, rfl⟩ | ⟨-, rfl⟩ | ⟨-, rfl⟩ | ⟨-, rfl⟩
    all_goals exact ⟨_, _, rfl, rfl, by decide, by decide⟩

theorem slotted_repeatsIf : Slotted repeatsIf := by
  have known : ∀ {id b}, Table.get? repeatsIf id = some b → (id, b) ∈ repeatsIf := Table.mem_of_get?
  simp only [repeatsIf, List.mem_cons, List.not_mem_nil, or_false, Prod.mk.injEq] at known
  intro id b c found opcode
  by_cases runs : c.runs = []
  · exact Block.feeds_of_none (by simp [runs]) b
  · rcases known found with ⟨-, rfl⟩ | ⟨-, rfl⟩ | ⟨-, rfl⟩ | ⟨-, rfl⟩
    all_goals have named := Value.text.inj (Except.ok.inj opcode)
    · refine ⟨fun _ _ _ _ => trivial, fun p mem input read _ => ?_, fun p mem => nomatch mem⟩
      rcases List.mem_pair.1 mem with rfl | rfl <;> cases read <;> exact ⟨_, rfl, trivial⟩
    all_goals cases c <;> first | exact absurd rfl runs | exact absurd named (by decide)

theorem acyclic_script_settles_repeat : Acyclic repeatsIf ∧ Slotted repeatsIf ∧
    (∃ (least spent : Nat) (answer : Except Failure Value) (w' : World), spent ≤ least ∧ ∀ fuel : Int, least ≤ fuel →
      ((limited 1).run 0 (.text "i") true).play { World.ofBlocks repeatsIf with fuel := fuel } =
        (answer.mapError .fault, { w' with fuel := fuel - spent })) ∧
    ∃ (least spent : Nat) (answer : Except Failure Value) (w' : World), spent ≤ least ∧ ∀ fuel : Int, least ≤ fuel →
      (runBlock 0 (.text "i") true).play { World.ofBlocks repeatsIf with fuel := fuel } =
        (answer.mapError .fault, { w' with fuel := fuel - spent }) := by
  have blocks : (World.ofBlocks repeatsIf).blocks? 0 = .ok repeatsIf := rfl
  obtain ⟨limited, unlimited⟩ := acyclic_script_settles blocks acyclic_repeatsIf (.text "i") true
  obtain ⟨least, spent, answer, w', le, play⟩ := unlimited slotted_repeatsIf
  exact ⟨acyclic_repeatsIf, slotted_repeatsIf, limited 1, least, spent, answer, w', le,
    fun fuel enough => (play fuel enough).1⟩

end BlockStage
