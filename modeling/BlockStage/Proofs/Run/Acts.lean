import BlockStage.Proofs.Run.Within

/-!
# What blocks ask for

Beside taking its arguments, which may run its reporters, a block only asks for what its family makes
(`Opcode.Makes`): `Opcode.sends_act`, for all blocks but the call of a custom block.

Apart from control blocks and calls, a block then makes ordinary requests only. What control blocks ask for
beside these is `Request.Asked`, and the two loops without an end also end rounds: `Opcode.within_act`.
-/

namespace BlockStage

open Act

/-! ## Arguments -/

def Arguments.Makes (me : Nat) : Request → Prop
  | .look => True
  | .log line => line.isEntry = false
  | .run i _ => i = me
  | _ => False

namespace Block

def entries (b : Block) (key : String) : List (String × Value) :=
  match Table.get? b.fields key with
  | some (.record entries) => entries
  | _ => []

theorem entries_of_part? {b : Block} {key : String} {v : Value} {raw : List (String × Value)}
    (part : b.part? key = .ok v) (fields : v.fields? = .ok raw) : b.entries key = raw := by
  rw [part?, get?, Value.field?] at part
  rw [entries]
  split at part
  · next u found =>
    rw [found]
    cases u with
    | record entries =>
      cases part
      cases fields
      rfl
    | list items =>
      cases part
      cases fields
    | _ => cases part
  · cases part

/-- The reporters in the inputs of a block satisfy `G`, and so does what it is given under a name in `K`,
which stands in a slot. -/
structure Feeds (G : Value → Prop) (K : String → Prop) (b : Block) : Prop where
  reporters : ∀ p ∈ b.entries "inputs", ∀ flag, Input.ofValue? p.2 = .ok (.reporter flag) → G flag
  slots : ∀ p ∈ b.entries "inputs", ∀ input, Input.ofValue? p.2 = .ok input → K (input.key p.1) →
    ∃ flag, input = .branch flag ∧ G flag
  fields : ∀ p ∈ b.entries "fields", ¬ K (Text.upper p.1)

theorem feeds_of_none {K : String → Prop} (none : ∀ key, ¬ K key) (b : Block) : b.Feeds (fun _ => True) K :=
  ⟨fun _ _ _ _ => trivial, fun _ _ _ _ named => (none _ named).elim, fun _ _ => none _⟩

end Block

namespace Arguments

/-- What is given under a name in `K` satisfies `G`. -/
def Given (G : Value → Prop) (K : String → Prop) (args : Arguments) : Prop :=
  ∀ key v, K key → Table.get? args key = some v → G v

variable {I : World → Prop} {P : Request → Prop} {me : Nat} {flag : Value} {G : Value → Prop} {K : String → Prop}

theorem Given.need {args : Arguments} (h : Given G K args) {key : String} (named : K key) :
    Yields G (args.need key) := by
  refine fun v hv => h key v named ?_
  rw [Arguments.need] at hv
  split at hv
  · next found => cases hv; exact found
  · cases hv

theorem given_ofFields {raw : List (String × Value)} (other : ∀ p ∈ raw, ¬ K (Text.upper p.1))
    {args taken : Arguments} (given : Given G K args) (h : ofFields raw args = .ok taken) : Given G K taken := by
  induction raw generalizing args with
  | nil => cases h; exact given
  | cons p rest ih =>
    rw [ofFields] at h
    rcases hv : Block.fieldValue? p.1 p.2 with f | v <;> rw [hv] at h
    · cases h
    · refine ih (fun q hq => other q (.tail _ hq)) (fun key v named found => given key v named ?_) h
      have ne : Text.upper p.1 ≠ key := fun same => other p (.head _) (same ▸ named)
      rwa [Table.get?_put_of_ne _ _ ne] at found

variable (own : ∀ r, Makes me r → (∀ flag, r = .run me flag → G flag) → P r)

include own

theorem sends_ofInput {input : Input} (h : ∀ flag, input = .reporter flag → G flag) :
    (ofInput me input).Sends I P fun given => ∀ flag, input = .branch flag → given = some flag := by
  have look := own .look trivial (by simp)
  have log := fun tag => own (.log (.tagUnknown tag)) rfl (by simp)
  cases input with
  | reporter flag =>
    have run := own (.run me flag) rfl fun flag' same => by cases same; exact h flag rfl
    simp [ofInput, run]
  | _ => simp [ofInput, look, log]

theorem sends_ofInputs {raw : List (String × Value)}
    (reporters : ∀ p ∈ raw, ∀ flag, Input.ofValue? p.2 = .ok (.reporter flag) → G flag)
    (slots : ∀ p ∈ raw, ∀ input, Input.ofValue? p.2 = .ok input → K (input.key p.1) →
      ∃ flag, input = .branch flag ∧ G flag)
    {args : Arguments} (given : Given G K args) : (ofInputs me raw args).Sends I P (Given G K) := by
  induction raw generalizing args with
  | nil => exact given
  | cons p rest ih =>
    have more := @ih (fun q hq => reporters q (.tail _ hq)) fun q hq => slots q (.tail _ hq)
    simp only [ofInputs, sends_bind, sends_lift]
    intro input read
    refine (sends_ofInput own fun flag eq => reporters p (.head _) flag (eq ▸ read)).answer
      fun value hvalue => ?_
    cases value with
    | none => exact more given
    | some value =>
      refine more fun key v named found => ?_
      by_cases same : input.key p.1 = key
      · subst same
        obtain ⟨flag, branch, hflag⟩ := slots p (.head _) input read named
        rw [Table.get?_put_self] at found
        cases found
        cases hvalue flag branch
        exact hflag
      · rw [Table.get?_put_of_ne _ _ same] at found
        exact given key v named found

theorem sends_eval_given (feeds : ∀ w b, I w → w.block? me flag = .ok b → b.Feeds G K) :
    (eval me flag).Sends I P (Given G K) := by
  unfold eval
  split
  · exact fun _ _ _ found => by cases found
  · simp only [sends_bind, sends_look, sends_lift]
    refine ⟨own .look trivial (by simp), fun w hw b hb inputs hinputs fields hfields raw hraw args hargs given hgiven => ?_⟩
    have fed := feeds w b hw hb
    have inputs := Block.entries_of_part? hinputs hgiven
    have fields := Block.entries_of_part? hfields hraw
    exact sends_ofInputs own (inputs ▸ fed.reporters) (inputs ▸ fed.slots)
      (given_ofFields (fields ▸ fed.fields) (fun _ _ _ found => by cases found) hargs)

omit own in
theorem sends_eval (own : ∀ r, Makes me r → P r) : (eval me flag).Sends I P fun _ => True := by
  exact (sends_eval_given (fun r makes _ => own r makes) fun w b _ _ =>
    Block.feeds_of_none (fun _ => id) b).answer fun _ _ => trivial

end Arguments

/-! ## Motion, looks, operators and sensing -/

def Motion.Makes : Request → Prop
  | .look | .chance | .sleep _ => True
  | .set _ a _ => a = .x ∨ a = .y ∨ a = .direction
  | _ => False

/-- The blocks that choose a costume. -/
def Looks.posing : List Looks := [.switchCostume, .nextCostume, .switchBackdrop, .nextBackdrop]

def Looks.Makes (b : Looks) : Request → Prop
  | .look | .say _ _ | .sleep _ => True
  | .set _ a _ => a = .size ∨ a = .visible ∨ a = .costume ∧ b ∈ posing
  | _ => False

def Operator.Makes : Request → Prop
  | .chance => True
  | _ => False

def Sensing.Makes : Request → Prop
  | .look | .record _ | .resetTimer _ => True
  | .log line => line.isEntry = false
  | _ => False

section

variable {I : World → Prop} {P : Request → Prop} {me : Nat} {flag : Value}
  (takes : (Arguments.eval me flag).Sends I P fun _ => True)

namespace Motion

variable (own : ∀ r, Motion.Makes r → P r)

include own

theorem sends_bounce : (bounce me).Sends I P fun _ => True := by
  have look := own .look trivial
  have turn := fun v => own (.set me .direction v) (.inr (.inr rfl))
  simp [bounce, mirror, overturn, sends_attr look, look, turn]

theorem sends_directionTo (x y : Value) : (directionTo me x y).Sends I P fun _ => True := by
  simp [directionTo, sends_attr (own .look trivial)]

theorem sends_turn (op : Number → Number → Except Fault Number) (degrees : Value) :
    (turn op me degrees).Sends I P fun _ => True := by
  have look := own .look trivial
  have set := fun i v => own (.set i .direction v) (.inr (.inr rfl))
  simp [turn, sends_adjust look, sends_attr look, look, set]

theorem sends_moveBy (steps : Int) : (moveBy me steps).Sends I P fun _ => True := by
  have look := own .look trivial
  have across := fun v => own (.set me .x v) (.inl rfl)
  have upright := fun v => own (.set me .y v) (.inr (.inl rfl))
  simp [moveBy, sends_attr look, sends_change look, across, upright]

theorem sends_glideSteps (secs dx dy : Value) (n : Nat) :
    (glideSteps me secs dx dy n).Sends I P fun _ => True := by
  have look := own .look trivial
  have across := fun v => own (.set me .x v) (.inl rfl)
  have upright := fun v => own (.set me .y v) (.inr (.inl rfl))
  induction n with
  | zero => simp [glideSteps]
  | succ n ih => simp [glideSteps, sends_change look, across, upright, own (.sleep _) trivial, ih]

theorem sends_glide (secs goal : Value) : (glide me secs goal).Sends I P fun _ => True := by
  simp [glide, sends_attr (own .look trivial), sends_glideSteps own]

include takes

theorem sends_target : (target me flag).Sends I P fun _ => True := by
  refine takes.bind fun args => .lift_bind fun goal => ?_
  refine .ite (by simp [own .chance trivial]) (.ite (by simp [own .look trivial]) ?_)
  refine .look_bind (own .look trivial) fun w => .lift_bind fun found => ?_
  cases found <;> simp

theorem sends_directionFromMenu : (directionFromMenu me flag).Sends I P fun _ => True := by
  have look := own .look trivial
  refine takes.bind fun args => .lift_bind fun towards => .ite ?_ (.ite ?_ ?_)
  · refine .look_bind look fun w => .lift_bind fun place => ?_
    split
    · exact sends_directionTo own _ _
    · trivial
  · simp [own .chance trivial]
  · refine .look_bind look fun w => .lift_bind fun found => ?_
    cases found <;> simp [sends_directionTo own]

theorem sends_act (b : Motion) : (b.act me flag).Sends I P fun _ => True := by
  have look := own .look trivial
  have across := fun v => own (.set me .x v) (.inl rfl)
  have upright := fun v => own (.set me .y v) (.inr (.inl rfl))
  have turn := fun v => own (.set me .direction v) (.inr (.inr rfl))
  cases b with
  | goTo =>
    refine takes.bind fun args => .lift_bind fun place => ?_
    split <;> simp [across, upright]
  | goToMenu => exact sends_target takes own
  | pointTowardsMenu => exact sends_directionFromMenu takes own
  | glideToXY => trivial
  | ifOnEdgeBounce => simp [Motion.act, sends_bounce own]
  | xPosition | yPosition | direction => simp [Motion.act, shown, sends_attr look]
  | _ =>
    refine takes.bind fun args => ?_
    simp [sends_moveBy own, sends_turn own, sends_glide own, sends_change look, setTo, across, upright, turn]

end Motion

namespace Looks

theorem sends_switchTo (look : P .look) {who : Nat} (set : ∀ v, P (.set who .costume v)) (name : Except Fault Value) :
    (switchTo who name).Sends I P fun _ => True := by
  refine .look_bind look fun w => .lift_bind fun costumes => ?_
  refine .lift_bind fun items => .lift_bind fun found => ?_
  cases found <;> simp [set]

theorem sends_advance (look : P .look) {who : Nat} (set : ∀ v, P (.set who .costume v)) :
    (advance who).Sends I P fun _ => True := by
  simp [advance, sends_change look, sends_attr look, look, set]

theorem sends_numberOrName (look : P .look) (who : Nat) (kind : Value) :
    (numberOrName who kind).Sends I P fun _ => True := by
  simp [numberOrName, sends_attr look, look]

include takes

theorem sends_act (b : Looks) (own : ∀ r, b.Makes r → P r) : (b.act me flag).Sends I P fun _ => True := by
  have look := own .look trivial
  have size := fun v => own (.set me .size v) (.inl rfl)
  have seen := fun v => own (.set me .visible v) (.inr (.inl rfl))
  have pose : b ∈ posing → ∀ i v, P (.set i .costume v) :=
    fun poses i v => own (.set i .costume v) (.inr (.inr ⟨rfl, poses⟩))
  cases b with
  | «show» | hide | size => simp [Looks.act, sends_attr look, seen]
  | nextCostume | nextBackdrop => simp [Looks.act, sends_advance look, look, pose (by decide)]
  | switchCostume | switchBackdrop =>
    refine takes.bind fun args => ?_
    simp [sends_switchTo look, look, pose (by decide)]
  | _ =>
    refine takes.bind fun args => ?_
    simp [sends_numberOrName look, sends_change look, look, size, own (.say me _) trivial,
      own (.sleep _) trivial]

end Looks

include takes

theorem Operator.sends_act (own : ∀ r, Operator.Makes r → P r) (op : Operator) :
    (op.act me flag).Sends I P fun _ => True := by
  refine takes.bind fun args => ?_
  cases h : op.rule? with
  | none => simp [Operator.drawRandom, own .chance trivial]
  | some rule => simp

namespace Sensing

omit takes in
theorem sends_touches (look : P .look) (record : ∀ call, P (.record call)) (what : Value) :
    (touches me what).Sends I P fun _ => True := by
  refine .look_bind look fun w => .ite ?_ (.ite (by simp) ?_)
  · simp [touchesMouse, look, record]
  · refine .lift_bind fun found => ?_
    split <;> simp [touchesSprite, look]

variable (own : ∀ r, Sensing.Makes r → P r)

include own

theorem sends_act (b : Sensing) : (b.act me flag).Sends I P fun _ => True := by
  have look := own .look trivial
  cases b with
  | timer | loudness => simp [Sensing.act, look, own (.log .loudnessMissing) rfl]
  | resetTimer => simp [Sensing.act, look, own (.resetTimer _) trivial]
  | keyPressed | username =>
    refine takes.bind fun args => .look_bind look fun w => ?_
    split <;> simp
  | touchingObject =>
    refine takes.bind fun args => ?_
    simp [sends_touches look fun call => own (.record call) trivial]
  | distanceToMenu =>
    refine takes.bind fun args => .lift_bind fun what => ?_
    refine .look_bind look fun w => .ite (by simp) ?_
    refine .lift_bind fun found => ?_
    cases found <;> simp
  | distanceTo =>
    refine takes.bind fun args => .lift_bind fun goal => ?_
    unfold distance
    split <;> simp [look]
  | _ =>
    refine takes.bind fun args => ?_
    simp [look]

end Sensing

end

/-! ## Data -/

namespace Data

def setsVariable : List Data := [setVariable, changeVariable]

def setsList : List Data :=
  [addToList, deleteOfList, deleteAllOfList, insertAtList, replaceItemOfList]

def Makes (b : Data) : Request → Prop
  | .look | .showMonitor _ _ => True
  | .setVariable _ _ _ => b ∈ setsVariable
  | .setList _ _ _ => b ∈ setsList
  | _ => False

variable {I : World → Prop} {P : Request → Prop} {me : Nat} {flag : Value}

theorem sends_assign (look : P .look) (set : ∀ holder id text, P (.setVariable holder id text))
    (id value : Value) : (assign me id value).Sends I P fun _ => True := by
  refine .look_bind look fun w => .lift_bind fun found => ?_
  split <;> simp [set]

theorem sends_findList (look : P .look) (name : Value) : (findList me name).Sends I P fun _ => True := by
  refine .look_bind look fun w => .ite (by simp) ?_
  split
  · simp
  · refine .lift_bind fun stage => ?_
    split <;> simp

theorem sends_showMonitors (shows : ∀ n visible, P (.showMonitor n visible)) (id : Except Fault Value)
    (visible : Bool) (monitors : List Monitor) (n : Nat) :
    (showMonitors id visible monitors n).Sends I P fun _ => True := by
  induction monitors generalizing n with
  | nil => simp [showMonitors]
  | cons m rest ih => simp [showMonitors, shows, ih]

theorem sends_onList (args : Arguments) (list : Found) {b : Data} (own : ∀ r, b.Makes r → P r) :
    (onList args list b).Sends I P fun _ => True := by
  have store : b ∈ setsList → ∀ items, (store list items).Sends I P fun _ => True :=
    fun sets items => ⟨own (.setList _ _ items) sets, fun _ _ => trivial⟩
  cases b with
  | replaceItemOfList =>
    refine .lift_bind fun item => ?_
    dsimp only
    split <;> simp [store (by decide)]
  | itemNumberOfList =>
    refine .lift_bind fun items => .ite (by simp) (.lift_bind fun item => ?_)
    dsimp only
    split <;> simp
  | addToList | deleteOfList | deleteAllOfList | insertAtList => simp [onList, store (by decide)]
  | _ => simp [onList]

theorem sends_act (takes : (Arguments.eval me flag).Sends I P fun _ => True) {b : Data}
    (own : ∀ r, b.Makes r → P r) : (b.act me flag).Sends I P fun _ => True := by
  have look := own .look trivial
  have set : b ∈ setsVariable → ∀ id value, (assign me id value).Sends I P fun _ => True :=
    fun sets => sends_assign look fun holder id text => own (.setVariable holder id text) sets
  refine takes.bind fun args => ?_
  cases b with
  | setVariable | changeVariable => simp [look, set (by decide)]
  | showList | hideList =>
    simp [look, sends_showMonitors fun n visible => own (.showMonitor n visible) trivial]
  | _ => exact .lift_bind fun name => (sends_findList look name).bind fun list => sends_onList args list own

end Data

/-! ## Control -/

namespace Control

/-- The blocks that go round until something happens. -/
def loops : List Control := [forever, waitUntil]

def Makes (me : Nat) (b : Control) : Request → Prop
  | .look | .start _ _ | .sleep _ | .stop => True
  | .tick => b ∈ loops
  | .run i _ => i = me
  | .delete i => i = me ∧ b = deleteClone
  | .addClone i => i = me ∧ b = createClone
  | _ => False

/-- The names under which a block is given what it runs. -/
def runs : Control → List String
  | ifThen => ["CONDITION", "SUBSTACK"]
  | ifThenElse => ["SUBSTACK", "SUBSTACK2"]
  | waitUntil => ["CONDITION"]
  | _ => []

variable {I : World → Prop} {P : Request → Prop} {me : Nat} {flag : Value} {b : Control} {G : Value → Prop}
  (own : ∀ r, b.Makes me r → (∀ flag, r = .run me flag → G flag) → P r)

include own

theorem sends_run {flag : Value} (h : G flag) : P (.run me flag) :=
  own (.run me flag) rfl fun _ same => by cases same; exact h

theorem sends_branch {flag : Value} (h : G flag) : (branch me flag).Sends I P fun _ => True := by
  simp [branch, sends_run own h]

theorem sends_isDeleted : (isDeleted me).Sends I P fun _ => True := by
  simp [isDeleted, own .look trivial]

theorem sends_rounds {body : Value} (h : G body) (n : Nat) : (rounds me body n).Sends I P fun _ => True := by
  induction n with
  | zero => simp [rounds]
  | succ n ih =>
    exact (sends_isDeleted own).bind fun _ => .ite trivial ((sends_branch own h).bind fun _ => ih)

theorem sends_endlessRounds (ticks : P .tick)
    (body : ∀ w blk v, I w → w.block? me flag = .ok blk → blk.branch? "SUBSTACK" = .ok v → G v) (n : Nat) :
    (endlessRounds me flag n).Sends I P fun _ => True := by
  induction n with
  | zero => exact ticks
  | succ n ih =>
    refine (sends_isDeleted own).bind fun _ => .ite trivial ?_
    simp only [sends_bind, sends_look, sends_lift]
    refine ⟨own .look trivial (by simp), fun w hw blk hblk v hv => ?_⟩
    exact (sends_branch own (body w blk v hw hblk hv)).answer fun _ _ => by simp [ticks, ih]

theorem sends_tests (ticks : P .tick) {condition : Value} (h : G condition) (n : Nat) :
    (tests me condition n).Sends I P fun _ => True := by
  induction n with
  | zero => exact ticks
  | succ n ih => simp [tests, sends_run own h, ih]

theorem sends_startScripts (clone : Nat) (blocks : List (String × Block)) :
    (startScripts clone blocks).Sends I P fun _ => True := by
  induction blocks with
  | nil => simp [startScripts]
  | cons b rest ih =>
    simp [startScripts, own .look trivial, own (.start clone (.text b.1)) trivial, ih]

/-- A control block runs the reporters in its inputs, what it is given to run, its branch, or what comes
next. -/
theorem sends_steered (takes : (Arguments.eval me flag).Sends I P (Arguments.Given G (· ∈ b.runs)))
    (turns : b ∈ [repeatTimes, forever, startAsClone] → ∀ w blk v, I w → w.block? me flag = .ok blk →
      blk.branch? "SUBSTACK" = .ok v ∨ blk.get? "next" = .ok v → G v) :
    (b.act me flag).Sends I P fun _ => True := by
  have look := own .look trivial (by simp)
  have ticks : b ∈ loops → P .tick := fun loops => own .tick loops (by simp)
  cases b with
  | ifThen =>
    simp only [act, sends_bind, sends_lift]
    refine takes.answer fun args given => (given.need (by decide)).mono fun condition hc => ?_
    have body := (given.need (show "SUBSTACK" ∈ ifThen.runs by decide)).mono fun v hv =>
      sends_branch (I := I) own hv
    simp [sends_run own hc, body]
  | ifThenElse =>
    simp only [act, sends_bind, sends_lift]
    refine takes.answer fun args given condition _ => ?_
    have body := (given.need (show "SUBSTACK" ∈ ifThenElse.runs by decide)).mono fun v hv =>
      sends_branch (I := I) own hv
    have other := (given.need (show "SUBSTACK2" ∈ ifThenElse.runs by decide)).mono fun v hv =>
      sends_branch (I := I) own hv
    simp [body, other]
  | forever =>
    have rounds := fun n => sends_endlessRounds own (ticks (by decide))
      (fun w blk v hw hblk hv => turns (by decide) w blk v hw hblk (.inl hv)) n
    simp [act, look, rounds]
  | waitUntil =>
    simp only [act, sends_bind, sends_lift, sends_look]
    refine takes.answer fun args given => (given.need (by decide)).mono fun condition hc => ⟨look, fun w _ => ?_⟩
    exact (sends_tests own (ticks (by decide)) hc _).answer fun _ _ => trivial
  | repeatTimes =>
    simp only [act, sends_bind, sends_lift, sends_look]
    refine takes.answer fun args _ => ⟨look, fun w hw blk hblk v hv => ?_⟩
    simp [sends_rounds own (turns (by decide) w blk v hw hblk (.inl hv))]
  | startAsClone =>
    simp only [act, sends_bind, sends_lift, sends_look]
    refine ⟨look, fun w hw blk hblk v hv => ?_⟩
    exact (sends_branch own (turns (by decide) w blk v hw hblk (.inr hv))).answer fun _ _ => trivial
  | stop => simp [act, own .stop trivial]
  | deleteClone => simp [act, look, own (.delete me) ⟨rfl, rfl⟩]
  | createClone =>
    refine (sends_bind _ _).2 (takes.answer fun _ _ => ?_)
    simp [look, own (.addClone me) ⟨rfl, rfl⟩, sends_startScripts own]
  | wait | createCloneMenu =>
    refine (sends_bind _ _).2 (takes.answer fun args _ => ?_)
    simp [own (.sleep _) trivial]

omit own in
theorem sends_act (own : ∀ r, b.Makes me r → P r) (takes : (Arguments.eval me flag).Sends I P fun _ => True) :
    (b.act me flag).Sends I P fun _ => True :=
  sends_steered (G := fun _ => True) (fun r makes _ => own r makes)
    (takes.answer fun _ _ _ _ _ _ => trivial) fun _ _ _ _ _ _ _ => trivial

end Control

/-! ## All blocks -/

/-- What a block asks for beside taking its arguments. -/
def Opcode.Makes (me : Nat) : Opcode → Request → Prop
  | motion _ => Motion.Makes
  | looks b => b.Makes
  | operator _ => Operator.Makes
  | data b => b.Makes
  | control b => b.Makes me
  | sensing _ => Sensing.Makes
  | custom _ => (· = .look)
  | flagClicked => (· = .log .flagClicked)

theorem Opcode.sends_act {I : World → Prop} {P : Request → Prop} {me : Nat} {flag : Value} {op : Opcode}
    (other : op ≠ .custom .call) (takes : (Arguments.eval me flag).Sends I P fun _ => True)
    (own : ∀ r, op.Makes me r → P r) : (op.act me flag).Sends I P fun _ => True := by
  cases op with
  | motion b => exact b.sends_act takes own
  | looks b => exact b.sends_act takes own
  | operator b => exact b.sends_act takes own
  | data b => exact Data.sends_act takes own
  | control b => exact Control.sends_act own takes
  | sensing b => exact b.sends_act takes own
  | custom b =>
    cases b with
    | call => exact absurd rfl other
    | argument =>
      refine takes.bind fun args => .lift_bind fun name => ?_
      exact .look_bind (own .look rfl) fun w => by simp
  | flagClicked => simp [Opcode.act, own (.log .flagClicked) rfl]

/-! ## Ordinary requests and others -/

/-- What the blocks of a sprite ask for beside ordinary requests and the end of a round. -/
def Request.Asked (me : Nat) : Request → Prop
  | .run i _ => i = me
  | .addClone _ | .start _ _ | .delete _ | .stop => True
  | _ => False

/-- The blocks that run none but the reporters in their inputs. -/
def Opcode.isPlain : Opcode → Bool
  | control _ | custom .call => false
  | _ => true

section

variable {I : World → Prop} {X : Request → Prop} {me : Nat} {flag : Value} {op : Opcode} {r : Request}

/-- Whatever the arguments are, they are taken within what is allowed. -/
abbrev TakesWithin (I : World → Prop) (X : Request → Prop) (me : Nat) (flag : Value) : Prop :=
  (Arguments.eval me flag).Within I X fun _ => True

theorem TakesWithin.of_asked (asks : ∀ r, Request.Asked me r → X r) : TakesWithin I X me flag := by
  refine Arguments.sends_eval fun r makes => ?_
  cases r with
  | run _ _ => exact .inr (asks _ makes)
  | look | log _ => exact .inl makes
  | _ => exact makes.elim

theorem Opcode.Makes.ordinary (plain : op.isPlain = true) (makes : op.Makes me r) : r.Ordinary := by
  cases op <;> cases r <;> simp_all [Opcode.Makes, Motion.Makes, Looks.Makes, Operator.Makes, Data.Makes,
    Sensing.Makes, Request.Ordinary, isPlain, LogLine.isEntry]

theorem Opcode.within_plain (takes : TakesWithin I X me flag) (plain : op.isPlain = true) :
    (op.act me flag).Within I X fun _ => True :=
  sends_act (by rintro rfl; cases plain) takes fun _ makes => .inl (makes.ordinary plain)

@[simp] theorem Sensing.within_touches (what : Value) :
    (Sensing.touches me what).Within I X fun _ => True :=
  sends_touches (.inl trivial) (fun _ => .inl trivial) what

/-- What any block asks for, the call of a custom block apart. -/
theorem Opcode.within_act (asks : ∀ r, Request.Asked me r → X r) (other : op ≠ .custom .call)
    (rounds : ∀ b ∈ Control.loops, op = .control b → X .tick) :
    (op.act me flag).Within I X fun _ => True := by
  have takes : TakesWithin I X me flag := .of_asked asks
  by_cases plain : op.isPlain
  · exact within_plain takes plain
  refine sends_act other takes fun r makes => ?_
  cases op with
  | control b =>
    cases r with
    | look | sleep _ => exact .inl trivial
    | tick => exact .inr (rounds b makes rfl)
    | run _ _ => exact .inr (asks _ makes)
    | start _ _ | delete _ | stop | addClone _ => exact .inr (asks _ trivial)
    | _ => exact makes.elim
  | custom b =>
    cases b with
    | call => exact absurd rfl other
    | argument => exact absurd rfl plain
  | _ => exact absurd rfl plain

end

/-! ## Custom blocks -/

theorem Custom.perform_call (p : Player) (me : Nat) (flag : Value) : (Custom.call.act me flag).perform p = (do
    let args ← (Arguments.eval me flag).perform p
    let callee ← callee? (← get) me flag
    (enter me callee args).perform p) := by
  simp only [Custom.act, Act.perform_bind, Act.perform_look, Act.perform_lift]

theorem Custom.callee?_eq_ok {w : World} {me : Nat} {flag : Value} {callee : Callee}
    (h : callee? w me flag = .ok callee) :
    (∃ b, w.block? me flag = .ok b) ∧ prototype? (w.blocks me) = some callee.prototype := by
  have yields : Yields (fun callee => (∃ b, w.block? me flag = .ok b) ∧
      prototype? (w.blocks me) = some callee.prototype) (callee? w me flag) := by
    simp only [callee?, Yields.bind]
    intro b hb mutation _ code _
    cases prototype? (w.blocks me) with
    | none => exact .error _
    | some prototype =>
      refine (Yields.ok _).2 fun definition _ _ _ => ?_
      exact (Yields.pure _).2 ⟨⟨b, hb⟩, rfl⟩
  exact yields callee h

end BlockStage
