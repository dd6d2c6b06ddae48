import BlockStage.Proofs.Data.Store

/-!
# Drawing only reads

A round in which nothing happens and no key is held only draws. `World.Redrawn` says what it can come to: the
attributes of sprites stay, their pictures apart, as do data, parameters and clones, and no script is started.
A monitor uses a block without its id, which then only looks at the world, or fails before it does more
(`Opcode.sends_reporter`).
-/

namespace BlockStage

open Run Act World

/-! ## Blocks that report -/

/-- The blocks that answer with a value and are no part of a script. -/
def Opcode.isReporter : Opcode → Bool
  | motion b => b ∈ [.goToMenu, .pointTowardsMenu, .xPosition, .yPosition, .direction]
  | looks b => b ∈ [.costumeMenu, .costumeNumberName, .size, .backdropNumberName]
  | operator _ => true
  | data b => b ∈ [.itemOfList, .itemNumberOfList, .lengthOfList, .listContainsItem]
  | control b => b = .createCloneMenu
  | sensing b => b ≠ .resetTimer
  | custom b => b = .argument
  | flagClicked => false

/-- What is asked for to see something. -/
def Request.Glances : Request → Prop
  | .look | .record _ => True
  | .log line => line.isEntry = false
  | _ => False

theorem Request.Glances.admits {r : Request} (h : r.Glances) (a : r.Reply) : r.Admits (fun _ => True) a := by
  cases r with
  | look | record _ | log _ => trivial
  | _ => exact h.elim

@[simp] theorem Arguments.eval_null (me : Nat) : Arguments.eval me .null = return [] := rfl

/-- Without inputs, whatever needs one fails. -/
@[simp] theorem Arguments.need_nil (key : String) : Arguments.need [] key = .error .missingKey := rfl

section

variable {I : World → Prop} {me : Nat}

/-- A block that reports only looks, if it is used without its id. -/
theorem Opcode.sends_reporter {op : Opcode} (reports : op.isReporter = true) :
    (op.act me .null).Sends I Request.Glances fun _ => True := by
  have look : Request.Glances .look := trivial
  cases op with
  | motion b =>
    cases b with
    | goToMenu | pointTowardsMenu => exact nofun
    | xPosition | yPosition | direction => simp [Opcode.act, Motion.act, Motion.shown, sends_attr look]
    | _ => cases reports
  | looks b =>
    cases b with
    | size => simp [Opcode.act, Looks.act, sends_attr look]
    | costumeMenu | costumeNumberName | backdropNumberName => exact nofun
    | _ => cases reports
  | operator b =>
    cases b with
    | random => exact nofun
    | _ => simp [Opcode.act, Operator.act, Operator.rule?]
  | data b =>
    cases b with
    | itemOfList | itemNumberOfList | lengthOfList | listContainsItem => exact nofun
    | _ => cases reports
  | control b =>
    cases b with
    | createCloneMenu => exact nofun
    | _ => cases reports
  | sensing b =>
    cases b with
    | resetTimer => cases reports
    | keyPressed | username =>
      refine .look_bind look fun w => ?_
      split <;> simp
    | loudness => exact ⟨rfl, fun _ _ => trivial⟩
    | _ => simp [Opcode.act, Sensing.act, look]
  | custom b =>
    cases b with
    | argument => exact nofun
    | call => cases reports
  | flagClicked => cases reports

end

/-! ## What drawing leaves as it was -/

/-- A monitor of which nothing has changed but how far its list is scrolled. -/
structure Monitor.Scrolled (m m' : Monitor) : Prop where
  place : m'.place = m.place
  sprite : m'.sprite = m.sprite
  fields : ∀ key, key ≠ "show_y" → m'.get? key = m.get? key

theorem Monitor.Scrolled.scroll {m m' : Monitor} (h : m.Scrolled m') (v : Value) :
    m.Scrolled (m'.put "show_y" v) where
  place := h.place
  sprite := h.sprite
  fields key other := by
    rw [← h.fields key other]
    simp only [Monitor.get?, Monitor.put, Table.get?_put_of_ne _ _ other.symm]

/-- A world in which nothing has happened but that it was drawn. -/
structure World.Redrawn (w w' : World) : Prop where
  length : w'.sprites.length = w.sprites.length
  attributes : ∀ i key, key ≠ "image" → key ≠ "rect" → (w'.sprite i).get? key = (w.sprite i).get? key
  kit : ∀ i, (w'.sprite i).kit = (w.sprite i).kit
  arguments : ∀ i, (w'.sprite i).arguments = (w.sprite i).arguments
  kits : w'.kits = w.kits
  listIds : w'.listIds = w.listIds
  cast : w'.cast = w.cast
  clones : w'.clones = w.clones
  stage : w'.stage = w.stage
  monitors : List.Forall₂ Monitor.Scrolled w.monitors w'.monitors
  queue : w'.queue = w.queue
  threads : w'.threads = w.threads
  host : w'.host = w.host

theorem World.Sees.done {w w' : World} (h : w.Sees w') : w'.done = w.done := by
  cases h <;> rfl

namespace World.Redrawn

variable {w0 w w' : World}

theorem refl (w : World) : w.Redrawn w := by
  refine ⟨rfl, fun _ _ _ _ => rfl, fun _ => rfl, fun _ => rfl, rfl, rfl, rfl, rfl, rfl, ?_, rfl, rfl, rfl⟩
  exact List.forall₂_same.2 fun m _ => ⟨rfl, rfl, fun _ _ => rfl⟩

theorem paint (h : w0.Redrawn w) (i : Nat) (image : Surface) (rect : Rect) :
    w0.Redrawn (w.updateSprite i (·.paint image rect)) where
  length := by simpa [World.updateSprite] using h.length
  attributes j key away off := by
    rw [← h.attributes j key away off]
    rcases w.sprite_updateSprite i j (·.paint image rect) with same | same <;> rw [same]
    simp only [Sprite.get?, Sprite.paint, Sprite.put, Table.get?_put_of_ne _ _ off.symm,
      Table.get?_put_of_ne _ _ away.symm]
  kit j := by
    rw [← h.kit j]
    rcases w.sprite_updateSprite i j (·.paint image rect) with same | same <;> rw [same]
    rfl
  arguments j := by
    rw [← h.arguments j]
    rcases w.sprite_updateSprite i j (·.paint image rect) with same | same <;> rw [same]
    rfl
  __ := h

theorem sees (h : w0.Redrawn w) (seen : w.Sees w') : w0.Redrawn w' := by
  cases seen with
  | notes => exact { h with }
  | scrolls index v =>
    refine { h with monitors := List.forall₂_iff_get.2 ⟨?_, fun n hn hn' => ?_⟩ }
    · simpa using h.monitors.length_eq
    · have same := (List.forall₂_iff_get.1 h.monitors).2 n hn (by simpa using hn')
      simp only [List.get_eq_getElem, List.getElem_modify] at same ⊢
      split
      · exact same.scroll v
      · exact same

/-- A monitor is drawn with the opcode that it had before. -/
theorem exists_monitor (h : w0.Redrawn w) {m : Monitor} (mem : m ∈ w.monitors) :
    ∃ m0 ∈ w0.monitors, m.get? "opcode" = m0.get? "opcode" := by
  obtain ⟨n, hn, rfl⟩ := List.getElem_of_mem mem
  have earlier : n < w0.monitors.length := h.monitors.length_eq ▸ hn
  refine ⟨w0.monitors[n], List.getElem_mem _, ?_⟩
  exact ((List.forall₂_iff_get.1 h.monitors).2 n earlier hn).fields "opcode" (by decide)

end World.Redrawn

/-! ## Rounds that only draw -/

/-- The opcode of a variable, of a list or of a block that reports. -/
def Monitor.Reads (name : String) : Prop :=
  name ∈ ["data_variable", "data_listcontents"] ∨ ∃ op, Opcode.ofName? name = some op ∧ op.isReporter = true

def Monitor.IsReader (m : Monitor) : Prop := ∀ name, m.get? "opcode" = .ok (.text name) → Monitor.Reads name

namespace Session

theorem Draws.always_idle {J : World → Prop} (h : Draws J) {moment : Moment}
    (idle : moment.event.kind = Value.int Event.noEvent) (free : moment.keys = []) :
    (Stage.round moment).Always J := by
  have looks : Run.Always J (modify fun w => { w with event := some moment.event }) := fun w hw =>
    h.sees hw (.notes w.calls w.printed w.keys _ w.pointer w.memory)
  have holdsNone : Run.Always J (modify fun w => { w with keys := some [] }) := fun w hw =>
    h.sees hw (.notes w.calls w.printed _ w.event w.pointer w.memory)
  have unpressed : moment.event.isKind Event.keyDown = false := by
    rw [Event.isKind, idle]
    rfl
  have unclosed : moment.event.isKind Event.windowClosed = false := by
    rw [Event.isKind, idle]
    rfl
  rw [Stage.round, free]
  simp only [unpressed, unclosed]
  exact .bind looks fun _ => .bind (.bind holdsNone fun _ => .pure _) fun _ => h.always_redraw

variable {J : World → Prop} {name : String} {s : Sprite} {member : Member}

/-- What a monitor can ask a sprite for by a name that reads: nothing, or a block that reports. -/
theorem reader_cases (reads : Monitor.Reads name) (found : Member.ofName? s name = some member) :
    member = .property ∨ ∃ op, member = .block op ∧ op.isReporter = true := by
  unfold Member.ofName? at found
  split at found
  · exact .inl (Option.some.inj found).symm
  rcases reads with data | ⟨op, named, reports⟩
  · rcases List.mem_pair.1 data with rfl | rfl <;> cases found
  · split at found
    case h_7 =>
      rw [named] at found
      exact .inr ⟨op, (Option.some.inj found).symm, reports⟩
    all_goals cases named

/-- A monitor that reads only looks at its sprite. -/
theorem always_reader (glances : ∀ p (r : Request), r.Glances → (r.perform p).Always J)
    (reads : Monitor.Reads name) (found : Member.ofName? s name = some member) (i : Nat) :
    (runAct (member.invoke i [.null])).Always J := by
  rcases reader_cases reads found with rfl | ⟨op, rfl, reports⟩
  · exact .bind .get fun _ => .throw _
  · exact .bind .get fun w =>
      (Opcode.sends_reporter reports).always (fun _ h => h.admits) fun r h => glances (player w.depth) r h

theorem draws_redrawn {w : World} (readers : ∀ m ∈ w.monitors, m.IsReader) :
    Draws fun w' => w.Redrawn w' ∧ w'.done = w.done := by
  have recorded {w' : World} (h : w.Redrawn w' ∧ w'.done = w.done) (call : Call) :
      w.Redrawn (w'.record call) ∧ (w'.record call).done = w.done :=
    ⟨h.1.sees (.records w' [call]), (Sees.records w' [call]).done.trans h.2⟩
  constructor
  case sees => exact fun h seen => ⟨h.1.sees seen, seen.done.trans h.2⟩
  case reports =>
    intro w' h m mem name known s member found
    obtain ⟨m0, mem0, same⟩ := h.1.exists_monitor mem
    refine always_reader (fun p r glances => ?_) (readers m0 mem0 name (same ▸ known)) found m.sprite
    cases r with
    | look => exact .get
    | record call => exact fun w' h => recorded h call
    | log line => exact fun w' h => ⟨{ h.1 with }, h.2⟩
    | _ => exact glances.elim
  case draws =>
    exact fun i => .bind .get fun _ => Stage.always_drawSprite recorded _ i
      fun h image rect => ⟨h.1.paint i image rect, h.2⟩

/-- A turn in which nothing happens and no key is held changes nothing that scripts could have made: it only
draws. The program goes on unless the drawing fails. -/
theorem playTurn_idle (w : World) (moment : Moment) (idle : moment.event.kind = Value.int Event.noEvent)
    (free : moment.keys = []) (readers : ∀ m ∈ w.monitors, m.IsReader) :
    w.Redrawn (playTurn (.round moment) w).2 ∧
      ((playTurn (.round moment) w).2.done = w.done ∨
        ∃ why, ((Stage.round moment).play (w.refuel 0)).1 = .error why) := by
  have round := (draws_redrawn (w := w) readers).always_idle idle free (w.refuel 0) ⟨{ World.Redrawn.refl w with }, rfl⟩
  rcases playTurn_round moment w with ⟨w', played, -, turn⟩ | ⟨r, w', log, played, ends, turn⟩ <;>
    rw [played] at round <;> rw [turn, played]
  · exact ⟨round.1, .inl round.2⟩
  · refine ⟨{ round.1 with }, ?_⟩
    cases r with
    | ok => exact .inl ((ends rfl).symm.trans round.2)
    | error why => exact .inr ⟨why, rfl⟩

end Session

/-- A monitor that shows something of the second sprite. -/
def Monitor.panel (opcode id : String) (params : Table Value) : Monitor where
  fields := [("id", .text id), ("opcode", .text opcode), ("params", .record params), ("width", Value.int 100),
    ("height", Value.int 100), ("visible", .bool true), ("show_y", Value.int 0)]
  place := (0, 0)
  sprite := 1

def Archive.costumed (file : String) : Table Value :=
  [("currentCostume", Value.int 0),
    ("costumes", .list [.record [("md5ext", .text file), ("dataFormat", .text "png")]])]

/-- A stage, a hidden sprite with a variable and a list, and monitors of these and of its place. -/
def World.withReaders : World :=
  { (Archive.ofTargets [Archive.target "Stage" true [] [] [] (Archive.costumed "a.png"),
      Archive.target "Cat" false [("v", .list [.text "V", .text "7"])]
        [("l", .list [.text "L", .list [.text "a"]])] []
        ([("x", Value.int 5), ("visible", .bool false)] ++ Archive.costumed "a.png")]).world with
    host := { images := [("a.png", { width := 8, height := 8 })] }
    monitors := [.panel "data_variable" "v" [("VARIABLE", .text "V")],
      .panel "data_listcontents" "l" [("LIST", .text "L")],
      .panel "motion_xposition" "x" [("VARIABLE", .text "x")]] }

theorem Session.playTurn_idle_withReaders : let turn := playTurn (.round ⟨⟨[]⟩, []⟩) withReaders
    (∀ m ∈ withReaders.monitors, m.IsReader) ∧ withReaders.Redrawn turn.2 ∧ turn.1 = true ∧
      withReaders.calls.size + 20 < turn.2.calls.size := by
  have readers : ∀ m ∈ withReaders.monitors, m.IsReader := by
    rintro m (⟨⟩ | ⟨_, ⟨⟩ | ⟨_, ⟨⟩ | ⟨_, ⟨⟩⟩⟩⟩) name ⟨⟩
    · exact .inl (by decide)
    · exact .inl (by decide)
    · exact .inr ⟨.motion .xPosition, rfl, rfl⟩
  exact ⟨readers, (playTurn_idle withReaders ⟨⟨[]⟩, []⟩ rfl rfl readers).1, by decide +kernel, by decide +kernel⟩

end BlockStage
