import BlockStage.Proofs.Run.Kept
import BlockStage.Proofs.Run.Limits
import BlockStage.Stage.Session

/-!
# What a world can come to

Whatever happens in a world happens by single requests of blocks, or it is no matter of the sprites and their
data: `World.Moves`. Beside that the program only goes on by itself (`World.Aside`). So what sessions keep is
what these keep: `Session.Upholds`. `World.Later` is a first fact of this kind.
-/

namespace BlockStage

open Run

variable {w : World}

/-! ## Moves -/

/-- The requests that are answered without running a script. -/
def Request.Single : Request → Prop
  | .run _ _ | .attempt _ _ _ | .invoke _ _ _ => False
  | _ => True

/-- A world with the same sprites and the same data. -/
structure World.Apart (w w' : World) : Prop where
  sprites : w'.sprites = w.sprites
  kits : w'.kits = w.kits
  listIds : w'.listIds = w.listIds
  stage : w'.stage = w.stage
  latest : w'.latest = w.latest

/-- The log has grown by lines of which none says that a block is entered. -/
def World.Adds (w w' : World) : Prop :=
  ∃ new, w'.log.toList = w.log.toList ++ new ∧ ∀ line ∈ new, line.isEntry = false

/-- A world in which the program has gone on by itself: the sprites, their data and the clones are as they
were, and no block was entered. If the program was to end, it still is. -/
structure World.Aside (w w' : World) : Prop extends w.Apart w' where
  cast : w'.cast = w.cast
  clones : w'.clones = w.clones
  done : w.done = true → w'.done = true
  adds : w.Adds w'

/-- The roster of the scripts that the end of the program waits for is as it was, and the scripts that wait were
there or were started since. -/
structure World.Enlists (w w' : World) : Prop where
  managed : w'.managed = w.managed := by rfl
  threads : w.threads ≤ w'.threads := by exact Nat.le_refl _
  queue : ∀ t ∈ w'.queue, t ∈ w.queue ∨ w.threads < t.id := by exact fun _ => .inl

namespace World

/-- What a world becomes by one request in `X`, or by what is no matter of the sprites. -/
inductive Moves (X : Request → Prop) : World → World → Prop
  | ask {r : Request} (p : Player) (w : World) (single : r.Single) (allowed : X r) :
    Moves X w ((r.perform p).play w).2
  | apart {w w' : World} (h : w.Apart w') : Moves X w w'

def Stable (X : Request → Prop) (J : World → Prop) : Prop := ∀ ⦃w w'⦄, J w → w.Moves X w' → J w'

variable {X : Request → Prop} {J : World → Prop} {w w' w'' : World}

theorem Adds.of_log (h : w'.log = w.log) : w.Adds w' := ⟨[], by rw [h, List.append_nil], nofun⟩

theorem Adds.push {line : LogLine} (h : w'.log = w.log.push line) (other : line.isEntry = false) :
    w.Adds w' :=
  ⟨[line], by rw [h, Array.toList_push], fun _ mem => by cases List.mem_singleton.1 mem; exact other⟩

theorem Adds.trans (h : w.Adds w') (h' : w'.Adds w'') : w.Adds w'' := by
  obtain ⟨new, log, other⟩ := h
  obtain ⟨new', log', other'⟩ := h'
  refine ⟨new ++ new', by rw [log', log, List.append_assoc], fun line mem => ?_⟩
  exact (List.mem_append.1 mem).elim (other line) (other' line)

theorem Enlists.trans (h : w.Enlists w') (h' : w'.Enlists w'') : w.Enlists w'' where
  managed := h'.managed.trans h.managed
  threads := Nat.le_trans h.threads h'.threads
  queue t mem := by
    rcases h'.queue t mem with earlier | later
    · exact h.queue t earlier
    · exact .inr (Nat.lt_of_le_of_lt h.threads later)

theorem Enlists.start (w : World) (i : Nat) (flag : Value) : w.Enlists (w.start i flag) where
  threads := Nat.le_succ _
  queue t mem := by
    rcases List.mem_append.1 mem with earlier | new
    · exact .inl earlier
    · cases List.mem_singleton.1 new
      exact .inr (Nat.lt_succ_self _)

theorem Enlists.records (w : World) (calls : List Call) : w.Enlists (calls.foldl World.record w) := by
  obtain ⟨calls, printed, noted⟩ := w.records_eq calls
  rw [noted]
  exact {}

theorem Stable.apart (stable : Stable X J) (hw : J w) (h : w.Apart w') : J w' := stable hw (.apart h)

/-- What is no matter of the log and of the blocks that a script has left. -/
def Unlogged (J : World → Prop) : Prop := ∀ ⦃w⦄, J w → ∀ log fuel, J { w with log, fuel }

theorem Stable.unlogged (stable : Stable X J) : Unlogged J :=
  fun _ hw _ _ => stable.apart hw ⟨rfl, rfl, rfl, rfl, rfl⟩

theorem hosts_records (w : World) (calls : List Call) : (calls.foldl World.record w).hosts = w.hosts := by
  obtain ⟨_, _, noted⟩ := w.records_eq calls
  rw [noted]
  rfl

theorem Apart.refl (w : World) : w.Apart w := ⟨rfl, rfl, rfl, rfl, rfl⟩

theorem Apart.trans (h : w.Apart w') (h' : w'.Apart w'') : w.Apart w'' :=
  ⟨h'.sprites.trans h.sprites, h'.kits.trans h.kits, h'.listIds.trans h.listIds, h'.stage.trans h.stage,
    h'.latest.trans h.latest⟩

namespace Aside

/-- The program goes on, and the log and the clones stay. -/
theorem of_log (apart : w.Apart w') (cast : w'.cast = w.cast) (clones : w'.clones = w.clones)
    (done : w.done = true → w'.done = true) (log : w'.log = w.log) : w.Aside w' :=
  ⟨apart, cast, clones, done, .of_log log⟩

theorem refl (w : World) : w.Aside w := .of_log (.refl w) rfl rfl id rfl

theorem trans (h : w.Aside w') (h' : w'.Aside w'') : w.Aside w'' :=
  ⟨h.toApart.trans h'.toApart, h'.cast.trans h.cast, h'.clones.trans h.clones,
    fun done => h'.done (h.done done), h.adds.trans h'.adds⟩

theorem records (w : World) (calls : List Call) : w.Aside (calls.foldl World.record w) := by
  obtain ⟨calls, printed, noted⟩ := w.records_eq calls
  rw [noted]
  exact .of_log ⟨rfl, rfl, rfl, rfl, rfl⟩ rfl rfl id rfl

theorem record (w : World) (call : Call) : w.Aside (w.record call) := records w [call]

theorem push (w : World) {line : LogLine} (other : line.isEntry = false) :
    w.Aside { w with log := w.log.push line } :=
  ⟨⟨rfl, rfl, rfl, rfl, rfl⟩, rfl, rfl, id, .push rfl other⟩

theorem refuel (w : World) (thread : Nat) : w.Aside (w.refuel thread) :=
  .of_log ⟨rfl, rfl, rfl, rfl, rfl⟩ rfl rfl id rfl

theorem start (w : World) (i : Nat) (flag : Value) : w.Aside (w.start i flag) :=
  .of_log ⟨rfl, rfl, rfl, rfl, rfl⟩ rfl rfl id rfl

theorem finish (w : World) : w.Aside (Stage.finish w) :=
  ⟨⟨rfl, rfl, rfl, rfl, rfl⟩, rfl, rfl, fun _ => rfl, .push rfl rfl⟩

end Aside

end World

open World

/-! ## Runs -/

namespace Run.Always

variable {J : World → Prop}

theorem log (logs : Unlogged J) (line : LogLine) : (log line).Always J := fun w hw => logs hw _ w.fuel

theorem contain (logs : Unlogged J) (flag : Value) {block : Run Value} (h : block.Always J) :
    (contain flag block).Always J :=
  h.contain_of fun w _ hw => logs hw _ w.fuel

theorem enterBlock (logs : Unlogged J) (sprite opcode : String) :
    (enterBlock sprite opcode).Always J := fun w hw => by
  rw [enterBlock_play]
  exact logs hw _ _

end Run.Always

/-! ## What stays true -/

/-- A world and one that comes later: sprites are only added and keep their kits, no name of a list is
noted any more, and the stage is the same. -/
structure World.Later (w w' : World) : Prop where
  length : w.sprites.length ≤ w'.sprites.length
  kits : ∀ i < w.sprites.length, (w'.sprite i).kit = (w.sprite i).kit
  listIds : ∀ e ∈ w'.listIds, e ∈ w.listIds
  stage : w'.stage = w.stage

namespace World.Later

variable {w w' w'' : World}

theorem of_sprites (sprites : w'.sprites = w.sprites) (listIds : ∀ e ∈ w'.listIds, e ∈ w.listIds)
    (stage : w'.stage = w.stage) : w.Later w' :=
  ⟨Nat.le_of_eq (by rw [sprites]), fun i _ => by rw [sprite, sprite, sprites], listIds, stage⟩

theorem refl (w : World) : w.Later w := of_sprites rfl (fun _ h => h) rfl

theorem trans (h : w.Later w') (h' : w'.Later w'') : w.Later w'' where
  length := Nat.le_trans h.length h'.length
  kits i hi := (h'.kits i (Nat.lt_of_lt_of_le hi h.length)).trans (h.kits i hi)
  listIds e he := h.listIds e (h'.listIds e he)
  stage := h'.stage.trans h.stage

theorem updateSprite (w : World) (i : Nat) {f : Sprite → Sprite} (hf : ∀ s, (f s).kit = s.kit) :
    w.Later (w.updateSprite i f) where
  length := by simp [World.updateSprite]
  kits j _ := by
    rcases w.sprite_updateSprite i j f with same | same <;> rw [same]
    exact hf _
  listIds _ h := h
  stage := rfl

theorem append {s : Sprite} (sprites : w'.sprites = w.sprites ++ [s]) (listIds : w'.listIds = w.listIds)
    (stage : w'.stage = w.stage) : w.Later w' where
  length := by simp [sprites]
  kits i hi := by
    rw [sprite, sprite, sprites, List.getD_eq_getElem?_getD, List.getElem?_append_left hi,
      List.getD_eq_getElem?_getD]
  listIds e he := listIds ▸ he
  stage := stage

end World.Later

/-! ## Scripts -/

variable {J : World → Prop}

theorem always_walk {enter : Value → Run Value} (h : ∀ flag, (enter flag).Always J) (me n : Nat)
    (flag : Value) : (walk enter me n flag).Always J := by
  induction n generalizing flag with
  | zero =>
    rw [walk]
    split
    · exact .pure _
    · exact .throw _
  | succ n ih =>
    rw [walk]
    split
    · exact .pure _
    · refine .bind .get fun w => .bind (.lift _) fun deleted => ?_
      split
      · exact .pure _
      · exact .bind (h flag) fun _ => .bind .get fun w => .bind (.lift _) fun block => ih _

/-- A script keeps what its first block keeps, and the blocks that come next. -/
theorem always_runWith {p : Player} (logs : Unlogged J) {me : Nat} {flag : Value} (next : Bool)
    (runs : ∀ flag, (p.run me flag false).Always J)
    (acts : ∀ w b opcode, J w → w.block? me flag = .ok b → b.opcode? = .ok (.text opcode) →
      (actBlock p me flag opcode).Always J) : (runWith p me flag next).Always J := by
  refine .get_bind fun w hw => ?_
  split
  · exact .pure _
  · refine .bind (.lift _) fun v => .bind (.lift _) fun name => .lift_bind fun b hb => ?_
    refine .lift_bind fun opcode hop => .bind (.lift _) fun shown => ?_
    refine .bind (.enterBlock logs _ _) fun _ => ?_
    split
    · refine .bind (acts w b _ hw hb hop) fun result => ?_
      split
      · refine .bind .get fun w => .bind (.lift _) fun block => ?_
        exact .bind (always_walk runs _ _ _) fun _ => .pure _
      · exact .pure _
    · exact .throw _

/-! ## Sessions

A step of a session may use a name of a sprite directly, which is a matter of its own. -/

namespace World

/-- The program has looked at something, or shown it: nothing changes but what it notes of that, and how
far a list is scrolled. -/
inductive Sees (w : World) : World → Prop
  | notes (calls : Array Call) (printed : String) (keys : Option (List Value)) (event : Option Event)
    (pointer : Pointer) (memory : Expression.Memory) :
    Sees w { w with calls, printed, keys, event, pointer, memory }
  | scrolls (index : Nat) (v : Value) :
    Sees w { w with monitors := w.monitors.modify index (·.put "show_y" v) }

/-- The program has gone on by itself, and has not ended. -/
structure Onward (w w' : World) : Prop extends w.Aside w' where
  hosts : w'.hosts = w.hosts := by rfl
  enlists : w.Enlists w' := by exact {}

theorem Sees.records (w : World) (calls : List Call) : w.Sees (calls.foldl World.record w) := by
  obtain ⟨calls, printed, noted⟩ := w.records_eq calls
  rw [noted]
  exact .notes _ _ w.keys w.event w.pointer w.memory

theorem Sees.onward {w' : World} (h : w.Sees w') : w.Onward w' := by
  cases h with
  | notes => exact .mk (.of_log ⟨rfl, rfl, rfl, rfl, rfl⟩ rfl rfl id rfl)
  | scrolls index v => exact .mk (.of_log ⟨rfl, rfl, rfl, rfl, rfl⟩ rfl rfl id rfl) (w.hosts_modify index _ _)

theorem Onward.start (w : World) (i : Nat) (flag : Value) : w.Onward (w.start i flag) :=
  .mk (.start w i flag) rfl (.start w i flag)

end World

/-- What drawing keeps. Monitors ask the sprites that they were made for. -/
structure Session.Draws (J : World → Prop) : Prop where
  sees : ∀ {w w' : World}, J w → w.Sees w' → J w'
  reports : ∀ {w : World}, J w → ∀ m ∈ w.monitors, ∀ name, m.get? "opcode" = .ok (.text name) →
    ∀ s member, Member.ofName? s name = some member → (runAct (member.invoke m.sprite [.null])).Always J
  draws : ∀ i, (runAct (Stage.drawSprite i)).Always J

/-- What everything keeps as long as the program does not end. -/
structure Session.Carries (J : World → Prop) : Prop extends Session.Draws J where
  onward : ∀ {w w' : World}, J w → w.Onward w' → J w'
  sees hw h := onward hw h.onward
  runs : ∀ me flag next, (runBlock me flag next).Always J
  takes : ∀ me flag, (runAct (Arguments.eval me flag)).Always J
  assigns : ∀ me id v, (runAct (Data.assign me id v)).Always J

structure Session.Upholds (J : World → Prop) : Prop extends Session.Carries J where
  ends : ∀ {w : World}, J w → J (Stage.finish w)

/-- A step that uses no name of a sprite directly. -/
def Step.Scripted : Step → Prop
  | .ask _ (.invoke _ _) => False
  | _ => True

/-! ### Drawing -/

namespace Session.Draws

variable {α : Type} {J : World → Prop} (h : Session.Draws J)

include h

theorem record (call : Call) : (Run.record call).Always J := fun w hw => h.sees hw (.records w [call])

theorem paint (p : Paint α) : (Run.paint p).Always J :=
  .bind (fun w hw => h.sees hw (.records w _)) fun _ => .lift _

theorem pointAt (p : Reaction Pointer Call α) : (Run.pointAt p).Always J := by
  refine .bind .get fun w => .bind (fun w hw => ?_) fun _ => .lift _
  exact h.sees (h.sees hw (.notes w.calls w.printed w.keys w.event _ w.memory)) (.records _ _)

theorem always_giveNames (names : List (String × Expression.Datum)) : (Stage.giveNames names).Always J :=
  fun w hw => h.sees hw (.notes w.calls w.printed w.keys w.event w.pointer _)

omit h in
theorem always_forPresent {f : Nat → Run Unit} (each : ∀ i, (f i).Always J) (sprites : List Nat) :
    (Stage.forPresent f sprites).Always J := by
  induction sprites with
  | nil => exact .pure _
  | cons i rest ih =>
    refine .bind .get fun w => .bind (.lift _) fun deleted => ?_
    dsimp only
    split
    · exact .bind (each i) fun _ => ih
    · exact ih

theorem always_drawMonitor {w0 : World} (hw0 : J w0) (index : Nat) {m : Monitor} (mem : m ∈ w0.monitors) :
    (Stage.drawMonitor index m).Always J := by
  unfold Stage.drawMonitor
  dsimp only
  split
  · exact fun w hw => hw
  refine .bind (.lift _) fun visible => ?_
  split
  · exact .pure _
  refine .bind (.lift _) fun id => .lift_bind fun opcode known => .bind .get fun w => ?_
  split
  · exact .bind (.lift _) fun value => h.paint _
  split
  · refine .bind (.lift _) fun shown => .bind (h.pointAt _) fun moved => ?_
    split
    · exact fun w hw => h.sees hw (.scrolls index _)
    · exact .pure _
  · refine .bind (.bind .get fun w => ?_) fun value => .bind .get fun w => h.paint _
    dsimp only
    split
    · split
      · exact .throw _
      · next found =>
        exact .bind (h.reports hw0 m mem _ known _ _ found) fun value => .bind (.lift _) fun title => .lift _
    · exact .throw _

theorem always_drawMonitors {w0 : World} (hw0 : J w0) {monitors : List Monitor}
    (mem : ∀ m ∈ monitors, m ∈ w0.monitors) (n : Nat) : (Stage.drawMonitors monitors n).Always J := by
  induction monitors generalizing n with
  | nil => exact .pure _
  | cons m rest ih =>
    exact .bind (h.always_drawMonitor hw0 n (mem m (.head _))) fun _ =>
      ih (fun m later => mem m (.tail _ later)) _

theorem always_redraw : Stage.redraw.Always J := by
  refine .bind (h.record _) fun _ => .bind .get fun w => ?_
  refine .bind (always_forPresent (fun i => ?_) _) fun _ => .get_bind fun w hw => ?_
  · exact .bind .get fun w => .bind (.lift _) fun _ => h.draws i
  refine .bind (h.always_drawMonitors hw (fun _ mem => mem) _) fun _ => .bind .get fun w => ?_
  refine .bind (h.always_giveNames _) fun _ => .bind (h.record _) fun _ => ?_
  exact .bind (h.always_giveNames _) fun _ => .bind (h.record _) fun _ => h.record _

end Session.Draws

namespace Session.Carries

variable {J : World → Prop} (h : Session.Carries J)

include h

/-! ### Scripts that wait -/

theorem always_runThread (t : Thread) (hw : J w) : J (runThread t w) := by
  have ran := h.runs t.sprite t.flag true (w.refuel t.id) (h.onward hw (.mk (.refuel w t.id)))
  unfold runThread
  rcases hr : (runBlock t.sprite t.flag).run.run (w.refuel t.id) with ⟨(_ | _ | _) | _, w'⟩ <;>
    rw [Run.play, hr] at ran <;> exact h.onward ran (.mk (.of_log ⟨rfl, rfl, rfl, rfl, rfl⟩ rfl rfl id rfl))

theorem always_drain (n : Nat) (hw : J w) : J (drain n w) := by
  induction n generalizing w with
  | zero => exact hw
  | succ n ih =>
    rw [drain]
    split
    · exact hw
    · next t rest waiting =>
      refine ih (h.always_runThread _ (h.onward hw (.mk ?_ rfl (.mk rfl (Nat.le_refl _) fun t mem => .inl ?_))))
      · exact .of_log ⟨rfl, rfl, rfl, rfl, rfl⟩ rfl rfl id rfl
      · rw [waiting]
        exact .tail _ mem

/-! ### Rounds of the program -/

theorem always_startKeyScripts (sprite : Nat) (held : List Value) (blocks : List (String × Block)) :
    (Stage.startKeyScripts sprite held blocks).Always J := by
  induction blocks with
  | nil => exact .pure _
  | cons p rest ih =>
    refine .bind (.lift _) fun awaited => ?_
    dsimp only
    split
    · split
      · refine .bind (.lift _) fun next => .bind .get fun w => .bind (.lift _) fun _ => ?_
        split
        · exact .bind (fun w hw => h.onward hw (.start w _ _)) fun _ => ih
        · exact .bind (.throw _) fun _ => ih
      · exact ih
    · exact ih

theorem always_dispatchKeys (held : List Value) : (Stage.dispatchKeys held).Always J := by
  refine .bind (fun w hw => h.sees hw (.notes w.calls w.printed _ w.event w.pointer w.memory)) fun _ => ?_
  split
  · exact .pure _
  · refine .bind .get fun w => .bind (h.always_giveNames _) fun _ => .bind .get fun w => ?_
    refine Draws.always_forPresent (fun i => .bind .get fun w => .bind (.lift _) fun blocks => ?_) _
    exact h.always_startKeyScripts _ _ _

theorem always_round (moment : Moment) : (Stage.round moment).Always J := by
  have shows : Run.Always J (do Stage.dispatchKeys moment.keys; Stage.redraw) :=
    .bind (h.always_dispatchKeys _) fun _ => h.always_redraw
  have closes : Run.Always J (modify fun w => { w with done := true }) := fun w hw =>
    h.onward hw (.mk (.of_log ⟨rfl, rfl, rfl, rfl, rfl⟩ rfl rfl (fun _ => rfl) rfl))
  refine .bind (fun w hw => h.sees hw (.notes w.calls w.printed w.keys _ w.pointer w.memory)) fun _ => ?_
  dsimp only
  split
  · refine .bind (.lift _) fun key => .bind (.lift _) fun shown => .bind (h.paint _) fun _ => ?_
    split
    · exact .bind closes fun _ => shows
    · exact shows
  · split
    · exact .bind closes fun _ => shows
    · exact shows

/-! ### Steps and turns -/

theorem always_answerQuery (me : Nat) {q : Query} (invokes : ∀ name args, q = .invoke name args →
      ∀ depth name args, ((player depth).invoke me name args).Always J) :
    (answerQuery me q).Always J := by
  cases q with
  | run flag next => exact .bind (h.runs me flag next) fun _ => .pure _
  | thread flag => exact .bind (fun w hw => h.onward hw (.start w _ _)) fun _ => .pure _
  | arguments flag => exact .bind (h.takes _ _) fun args => .pure _
  | invoke name args =>
    cases name with
    | text name =>
      refine .bind (.lift _) fun items => .bind ?_ fun _ => .pure _
      refine .bind .get fun w => .bind (invokes _ _ rfl _ _ _) fun result => ?_
      split
      · exact .bind .get fun w => .bind (.lift _) fun _ => .pure _
      · exact .pure _
    | _ => exact .throw _
  | getVariable id => exact .bind .get fun w => .bind (.lift _) fun _ => .pure _
  | setVariable id value => exact .bind (h.assigns _ _ _) fun _ => .pure _
  | getList id => exact .bind .get fun w => .bind (.lift _) fun found => .pure _
  | describe => exact .bind .get fun w => .bind (.lift _) fun title => .pure _

theorem always_perform {step : Step} (invokes : ¬ step.Scripted →
    ∀ depth me name args, ((player depth).invoke me name args).Always J) : (perform step).Always J := by
  cases step with
  | ask sprite q =>
    refine .bind .get fun w => .bind (.lift _) fun me => h.always_answerQuery me ?_
    rintro name args rfl depth
    exact invokes (fun h => h) depth me
  | monitorNames texts =>
    exact .bind .get fun w => .bind (.mapM (fun _ => .lift _) _) fun _ => .pure _
  | monitorPlaces => exact .bind .get fun w => .bind (.mapM (fun _ => .lift _) _) fun _ => .pure _
  | mouse place buttons =>
    exact .bind (fun w hw => h.onward hw (.mk (.of_log ⟨rfl, rfl, rfl, rfl, rfl⟩ rfl rfl id rfl))) fun _ => .pure _
  | advance ms =>
    exact .bind (fun w hw => h.onward hw (.mk (.of_log ⟨rfl, rfl, rfl, rfl, rfl⟩ rfl rfl id rfl))) fun _ => .pure _
  | turn t => exact .pure _

theorem always_answerStep {step : Step} (invokes : ¬ step.Scripted →
    ∀ depth me name args, ((player depth).invoke me name args).Always J) (hw : J w) :
    J (answerStep step w).2 := by
  have done := h.always_perform invokes (w.refuel 0) (h.onward hw (.mk (.refuel w 0)))
  unfold answerStep
  rcases hr : (perform step).run.run (w.refuel 0) with ⟨_ | _, w'⟩ <;> rw [Run.play, hr] at done <;>
    exact done

end Session.Carries

/-- A turn in which a round is played: the program goes on with what came of the round, or it ends. -/
theorem Session.playTurn_round (moment : Moment) (w : World) :
    (∃ w', (Stage.round moment).play (w.refuel 0) = (.ok (), w') ∧ w'.done = false ∧
        playTurn (.round moment) w = (true, w')) ∨
      ∃ r w' log, (Stage.round moment).play (w.refuel 0) = (r, w') ∧ (r = .ok () → w'.done = true) ∧
        playTurn (.round moment) w = (false, Stage.finish { w' with log }) := by
  unfold playTurn Run.play
  dsimp only
  rcases (Stage.round moment).run.run (w.refuel 0) with ⟨(_ | _ | _) | _, w'⟩
  · exact .inr ⟨_, w', _, rfl, nofun, rfl⟩
  · exact .inr ⟨_, w', w'.log, rfl, nofun, rfl⟩
  · exact .inr ⟨_, w', w'.log, rfl, nofun, rfl⟩
  · cases ends : w'.done with
    | false => exact .inl ⟨w', rfl, ends, if_neg (by simp [ends])⟩
    | true => exact .inr ⟨_, w', w'.log, rfl, fun _ => ends, if_pos ends⟩

namespace Session.Upholds

variable {J : World → Prop} (h : Session.Upholds J)

include h

theorem always_playTurn (t : Turn) (hw : J w) : J (playTurn t w).2 := by
  have noted : ∀ {w line}, J w → line.isEntry = false → J { w with log := w.log.push line } :=
    fun hw other => h.onward hw (.mk (.push _ other))
  cases t with
  | interrupt => exact h.ends (noted hw rfl)
  | round moment =>
    have played := h.always_round moment (w.refuel 0) (h.onward hw (.mk (.refuel w 0)))
    unfold playTurn
    dsimp only
    rcases hr : (Stage.round moment).run.run (w.refuel 0) with ⟨(_ | _ | _) | _, w'⟩ <;>
      rw [Run.play, hr] at played
    · exact h.ends (noted played rfl)
    · exact h.ends played
    · exact h.ends played
    · dsimp only
      split
      · exact h.ends played
      · exact played

/-- The scripts that wait are run when an answer is closed. -/
theorem always_close (cleared : ∀ w, J w → J { w with log := #[], calls := #[] }) (reply : Reply)
    (hw : J w) : J (close reply w).2 :=
  cleared _ (h.always_drain patience hw)

end Session.Upholds

end BlockStage
