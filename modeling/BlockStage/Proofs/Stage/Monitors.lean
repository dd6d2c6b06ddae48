import BlockStage.Proofs.Stage.ListPanels
import BlockStage.Proofs.Stage.Rendering

/-!
# Drawing the monitors

A monitor of a variable or of a list that is there is drawn without a fault, and changes nothing but the record,
the last look at the mouse and how far lists are scrolled (`Stage.drawMonitors_ok`). A project gives a monitor of
a reporter no name for its label. So as long as one is to be seen, drawing fails (`Stage.redraw_fails`), and the
first round is the last (`Stage.monitors_are_drawn_iff_named`).
-/

namespace BlockStage

open Run World

/-! ## Drawing -/

namespace Paint

variable {α β : Type}

/-- What drawing answers, whatever it records. -/
def answer (p : Paint α) : Except Fault α := (p.react ()).1

@[simp] theorem answer_pure (a : α) : (pure a : Paint α).answer = .ok a := rfl

@[simp] theorem answer_bind (p : Paint α) (f : α → Paint β) :
    (p >>= f).answer = p.answer >>= fun a => (f a).answer := by
  rw [answer, answer, Reaction.react_bind]
  rcases p.react () with ⟨_ | _, _, _⟩ <;> rfl

@[simp] theorem answer_ofExcept (e : Except Fault α) : (ofExcept e).answer = e := rfl

@[simp] theorem answer_blit (on source : Surface) (dest : Spot) : (blit on source dest).answer = .ok () := rfl

theorem react_lift {σ : Type} {p : Paint α} {a : α} {calls : List Call} (h : p.react () = (.ok a, (), calls)) (s : σ) :
    p.lift.react s = (.ok a, s, calls) := by
  rw [lift, h]
  exact congrArg (fun out => (Except.ok a, s, out)) calls.append_nil

end Paint

@[simp] theorem Paint.answer_render (s : String) (color : Value) :
    (render stageFont (.text s) color).answer = .ok ⟨s.length * 15, 30, true⟩ := by
  rw [answer, react_render]
  rfl

variable {w w1 w' : World} {m : Monitor}

namespace Panel

variable {p : Panel}

theorem answer_textBox {x y : Value} {a b : Int} (hx : x.toInt? = .ok a) (hy : y.toInt? = .ok b)
    (on : Surface) (color : Value) (image : Surface) (style : List Value) :
    (textBox on color x y image style).answer = .ok ⟨a, b, image.width, image.height⟩ := by
  rw [Paint.answer, react_textBox hx hy]

/-- A panel has a label, and its corner and the point beside the label can be drawn at. -/
def Fits (p : Panel) : Prop :=
  ∃ label x y right x' a b a', p.label? = .ok (.text label) ∧ scaled? p.x = .ok x ∧ scaled? p.y = .ok y ∧
    Arith.add x (Value.int (label.length * 15)) = .ok right ∧ Arith.add right (Value.int 5) = .ok x' ∧
    x.toInt? = .ok a ∧ y.toInt? = .ok b ∧ x'.toInt? = .ok a'

theorem answer_drawVariable {v : Value} (visible : p.visible = .ok v) (holds : v.holds = true) (fits : p.Fits)
    (on : Surface) (shown : String) : (drawVariable on p (.text shown)).answer = .ok () := by
  obtain ⟨label, x, y, right, x', a, b, a', named, hx, hy, wide, beside, across, upright, further⟩ := fits
  have display : (Value.text shown).display? = .ok shown := rfl
  have texts : ∀ s t : String, Value.add? (.text s) (.text t) = .ok (.text (s ++ t)) := fun _ _ => rfl
  simp [drawVariable, visible, holds, named, display, hx, hy, Except.ok_bind, texts, wide, beside,
    answer_textBox across upright, answer_textBox further upright]

/-- How far a panel may be scrolled: by a number that can be added to, so that the first row has a place. -/
def Scrolls (v : Value) : Prop :=
  ∃ (n first : Number) (x : Float) (k : Int), v = .num n ∧ n.toFloat? = .ok x ∧ n.add (.int 30) = .ok first ∧
    first.truncate? = .ok k

/-- A panel of a list with a place, a size, a title and a scroll. -/
structure Lists (p : Panel) : Prop where
  place : ∃ x y : Int, p.x = .ok (Value.int x) ∧ p.y = .ok (Value.int y)
  size : ∃ a b : Nat, p.width = .ok (Value.int a) ∧ p.height = .ok (Value.int b)
  title : ∃ params title, p.params = .ok params ∧ params.field? "LIST" = .ok (.text title)
  scroll : ∃ v, p.scroll = .ok v ∧ Scrolls v

theorem Lists.stands (lists : p.Lists) : ∃ l, p.Stands l := by
  obtain ⟨⟨x, y, hx, hy⟩, ⟨a, b, wide, high⟩, ⟨params, title, titled⟩, _, scroll, n, first, z, k, rfl, float, add,
    pixel⟩ := lists
  exact ⟨⟨Value.int x, Value.int y, ⟨x, y, a, b⟩, .int b, first, title⟩, hx, hy, rfl, rfl, ⟨_, wide, rfl⟩, high, rfl,
    ⟨a.cast_nonneg, b.cast_nonneg⟩, ⟨params, titled⟩, ⟨n, z, scroll, float, add⟩, fun _ => ⟨k, pixel⟩⟩

/-- A hand with a button, at a place that can be halved. -/
structure Hand.Rests (hand : Hand) : Prop where
  place : ∃ x y, hand.mouse.1.div (.int 2) = .ok x ∧ hand.mouse.2.div (.int 2) = .ok y
  button : ∃ v, hand.held = .ok v

/-- The hand has a speed since the last look. -/
def Hand.Follows (hand : Hand) (p : Pointer) : Prop :=
  ∃ x y, p.look hand.mouse hand.now = .ok ((.float x, .float y), ⟨hand.mouse, hand.now⟩)

theorem Hand.follows_self (hand : Hand) : hand.Follows ⟨hand.mouse, hand.now⟩ := by
  have stays : ∀ n : Number, ∃ d, n.sub n = .ok d := fun n => by cases n <;> exact ⟨_, rfl⟩
  obtain ⟨dx, hx⟩ := stays hand.mouse.1
  obtain ⟨dy, hy⟩ := stays hand.mouse.2
  have still : ∃ z, ∀ d, Pointer.rate d 0 = .ok (.float z) := ⟨_, fun _ => rfl⟩
  obtain ⟨z, still⟩ := still
  refine ⟨z, z, ?_⟩
  simp [Pointer.look, hx, hy, still, bind, Except.bind, pure, Except.pure]

theorem scrolled?_ok {n : Number} {x : Float} (h : n.toFloat? = .ok x) (y : Float) :
    ∃ v, scrolled? (.num n) (.float y) = .ok v := by
  have tenth : ∃ z, Number.div (.float y) (.int 10) = .ok (.float z) := ⟨_, rfl⟩
  obtain ⟨z, tenth⟩ := tenth
  have moved : ∃ s : Float, n.add (.float z) = .ok (.float s) := by
    cases n <;> simp only [Number.add, Number.lift, h] <;> exact ⟨_, rfl⟩
  obtain ⟨s, moved⟩ := moved
  have sum : Arith.add (Value.num n) (.num (.float z)) = .ok (.num (.float s)) := by
    show (n.add (.float z)).map Value.num = _
    rw [moved]
    rfl
  have order : Value.lt? (Value.int 0) (.num (.float s)) = .ok (Number.lt (.int 0) (.float s)) := rfl
  simp only [scrolled?, tenth, sum, order, Except.ok_bind]
  split <;> exact ⟨_, rfl⟩

/-- The panel of a list is drawn. If it is dragged, the hand is looked at, and the answer is how far the panel is
scrolled; otherwise the last look stays as it was. -/
theorem react_drawList {l : Layout} (stands : p.Stands l) (texts : List String) {hand : Hand} {d : Bool}
    (drags : dragged? l.area hand = .ok d) {s : Pointer} (follows : hand.Follows s) (on : Surface) :
    ∃ n scroll, Reached l.height l.first texts.length n ∧ scroll.isSome = d ∧
      (drawList on p (.list (texts.map .text)) hand).react s = (.ok scroll,
        if d then ⟨hand.mouse, hand.now⟩ else s, l.drawing on (texts.take n) ++ [.blit on l.board (.rect l.area)]) := by
  obtain ⟨n, reached, drawn⟩ := react_drawBoard stands on texts
  rw [drawList, Reaction.react_bind_ok (Paint.react_lift drawn s)]
  simp only [drags, Reaction.ok_bind]
  cases d with
  | false => exact ⟨n, none, reached, rfl, rfl⟩
  | true =>
    obtain ⟨m, x, scroll, whole, -⟩ := stands.scroll
    obtain ⟨dx, dy, look⟩ := follows
    obtain ⟨v, moved⟩ := scrolled?_ok whole dy
    have sped : (speed hand).react s = (.ok (.float dx, .float dy), ⟨hand.mouse, hand.now⟩, []) := by
      rw [speed, Reaction.react_bind_ok (Reaction.react_state s), look]
      rfl
    simp only [scroll, if_true, Reaction.ok_bind, Reaction.react_bind_ok sped, moved]
    exact ⟨n, some v, reached, rfl, rfl⟩

/-- A list is drawn, and the hand can still be followed. -/
theorem drawList_ok (lists : p.Lists) {items : List Value} (texts : ∀ item ∈ items, ∃ s, item = .text s)
    {hand : Hand} (rests : hand.Rests) {s : Pointer} (follows : hand.Follows s) (on : Surface) :
    ∃ scroll s' calls, (drawList on p (.list items) hand).react s = (.ok scroll, s', calls) ∧ hand.Follows s' := by
  obtain ⟨shown, rfl⟩ : items ∈ Set.range (List.map Value.text) := by
    rw [Set.range_list_map]
    exact fun item mem => (texts item mem).imp fun s same => same.symm
  obtain ⟨l, stands⟩ := lists.stands
  obtain ⟨⟨hx, hy, half, half'⟩, held, pressed⟩ := rests
  have drags : ∃ d, dragged? l.area hand = .ok d := by
    rw [dragged?, half, half', pressed]
    exact ⟨_, rfl⟩
  obtain ⟨d, drags⟩ := drags
  obtain ⟨n, scroll, -, -, drawn⟩ := react_drawList stands shown drags follows on
  refine ⟨scroll, _, _, drawn, ?_⟩
  cases d with
  | false => exact follows
  | true => exact hand.follows_self

end Panel

/-! ## Monitors -/

/-- A world in which only the record, the look at the mouse and the monitors may have changed. -/
def World.Drawn (w w' : World) : Prop :=
  ∃ calls printed pointer monitors, w' = { w with calls, printed, pointer, monitors }

theorem World.Drawn.trans {w'' : World} (h : w.Drawn w') (h' : w'.Drawn w'') : w.Drawn w'' := by
  obtain ⟨_, _, _, _, rfl⟩ := h
  obtain ⟨calls, printed, pointer, monitors, rfl⟩ := h'
  exact ⟨calls, printed, pointer, monitors, rfl⟩

/-- The mouse has a place, a button and a speed. -/
structure World.Follows (w : World) : Prop where
  rests : (Stage.hand w).Rests
  follows : (Stage.hand w).Follows w.pointer

/-- A monitor that is to be seen, with its id and its opcode. -/
structure Monitor.Seen (m : Monitor) (id : Value) (opcode : String) : Prop where
  plain : Table.has m.fields "draw" = false
  visible : ∃ v, m.get? "visible" = .ok v ∧ v.holds = true
  id : m.get? "id" = .ok id
  opcode : m.get? "opcode" = .ok (.text opcode)

/-- A monitor of a variable that is there, or of a list that is there. -/
inductive World.Shows (w : World) (m : Monitor) : Prop
  | ofVariable {id v : Value} {holder : Holder} (seen : m.Seen id "data_variable")
    (there : w.visible? m.sprite .vars id = .ok (some (holder, v))) (fits : (Stage.panel w m).Fits)
  | ofList {id : Value} {holder : Holder} {items : List Value} (seen : m.Seen id "data_listcontents")
    (there : w.visible? m.sprite .lists id = .ok (some (holder, .list items)))
    (texts : ∀ item ∈ items, ∃ s, item = .text s) (lists : (Stage.panel w m).Lists)

theorem World.Shows.of_drawn (h : w.Shows m) (drawn : w.Drawn w') : w'.Shows m := by
  obtain ⟨_, _, _, _, rfl⟩ := drawn
  cases h with
  | ofVariable seen there fits => exact .ofVariable seen there fits
  | ofList seen there texts lists => exact .ofList seen there texts lists

theorem Run.paint_play {α : Type} {p : Paint α} {e : Except Fault α} (h : p.answer = e) (w : World) :
    ∃ calls printed, (Run.paint p).play w = (e.mapError (.fault ·), { w with calls, printed }) := by
  obtain ⟨calls, printed, noted⟩ := w.records_eq (p.react ()).2.2
  refine ⟨calls, printed, ?_⟩
  rw [← noted, ← h]
  show (Run.paint p).play w = (((p.react ()).1).mapError fun (f : Fault) => Stop.fault f, _)
  rw [Run.paint]
  rcases p.react () with ⟨_ | _, _, _⟩ <;> rfl

/-- A world in which a monitor is scrolled, if it is. -/
def World.scrolled (w : World) (n : Nat) (scroll : Option Value) : World :=
  scroll.elim w fun v => { w with monitors := w.monitors.modify n (·.put "show_y" v) }

theorem Stage.drawMonitor_list {id items : Value} {holder : Holder} (seen : m.Seen id "data_listcontents")
    (there : w.visible? m.sprite .lists id = .ok (some (holder, items))) {e : Except Fault (Option Value)}
    {pointer : Pointer} {out : List Call}
    (drawn : (Panel.drawList screen (panel w m) items (hand w)).react w.pointer = (e, pointer, out)) (n : Nat) :
    (drawMonitor n m).play w = ((e.map fun _ => ()).mapError (.fault ·),
      (out.foldl World.record { w with pointer := pointer }).scrolled n e.toOption.join) := by
  obtain ⟨plain, ⟨shown, visible, holds⟩, named, opcode⟩ := seen
  have found : w.list? m.sprite id = .ok (holder, items) := by
    rw [list?, there]
    rfl
  have pointed : (Run.pointAt (Panel.drawList screen (panel w m) items (hand w))).play w =
      (e.mapError (.fault ·), out.foldl World.record { w with pointer := pointer }) := by
    rw [Run.pointAt, play_get_bind, drawn]
    cases e <;> rfl
  rw [drawMonitor, plain, if_neg Bool.false_ne_true, visible, lift_ok_bind, holds, if_neg (by decide), named,
    lift_ok_bind, opcode, lift_ok_bind, play_get_bind, if_neg (by decide), if_pos (by decide),
    found, lift_ok_bind, play_bind, pointed]
  rcases e with _ | _ | _ <;> rfl

theorem Stage.drawMonitor_ok (follows : w.Follows) (shows : w.Shows m) (n : Nat) :
    ∃ w', (drawMonitor n m).play w = (.ok (), w') ∧ w.Drawn w' ∧ w'.Follows := by
  cases shows with
  | @ofVariable id v holder seen there fits =>
    obtain ⟨plain, ⟨shown, visible, holds⟩, named, opcode⟩ := seen
    have found : w.variableValue? m.sprite id = .ok (.text v.asText) := by
      rw [variableValue?, there]
      rfl
    obtain ⟨calls, printed, drawn⟩ :=
      Run.paint_play (Panel.answer_drawVariable visible holds fits screen v.asText) w
    refine ⟨_, ?_, ⟨calls, printed, w.pointer, w.monitors, rfl⟩, follows.rests, follows.follows⟩
    rw [drawMonitor, plain, if_neg Bool.false_ne_true, visible, lift_ok_bind, holds,
      if_neg (by decide), named, lift_ok_bind, opcode, lift_ok_bind, play_get_bind,
      if_pos (by decide), found, lift_ok_bind]
    exact drawn
  | ofList seen there texts lists =>
    obtain ⟨scroll, pointer, out, drawn, followed⟩ :=
      Panel.drawList_ok lists texts follows.rests follows.follows screen
    obtain ⟨calls, printed, noted⟩ := World.records_eq { w with pointer := pointer } out
    rw [drawMonitor_list seen there drawn, noted]
    cases scroll with
    | none => exact ⟨_, rfl, ⟨calls, printed, pointer, w.monitors, rfl⟩, follows.rests, followed⟩
    | some v => exact ⟨_, rfl, ⟨calls, printed, pointer, _, rfl⟩, follows.rests, followed⟩

theorem Stage.drawMonitors_ok {monitors : List Monitor} (follows : w.Follows)
    (shows : ∀ m ∈ monitors, w.Shows m) (n : Nat) :
    ∃ w', (drawMonitors monitors n).play w = (.ok (), w') ∧ w.Drawn w' := by
  induction monitors generalizing w n with
  | nil => exact ⟨w, rfl, _, _, _, _, rfl⟩
  | cons m rest ih =>
    obtain ⟨w1, first, drawn, follows⟩ := drawMonitor_ok follows (shows m (.head _)) n
    obtain ⟨w2, later, drawn'⟩ := ih follows (fun m mem => (shows m (.tail _ mem)).of_drawn drawn) (n + 1)
    exact ⟨w2, by rw [drawMonitors, play_bind_ok first, later], drawn.trans drawn'⟩

/-! ## Reporters -/

/-- A run that does not come to its end in some worlds. -/
def Run.Fails {α : Type} (J : World → Prop) (r : Run α) : Prop :=
  ∀ w, J w → ∃ why w', r.play w = (.error why, w')

namespace Run.Fails

variable {α β : Type} {J : World → Prop} {r : Run α} {f : α → Run β}

theorem bind (h : r.Fails J) : (r >>= f).Fails J := fun w hw => by
  obtain ⟨why, w', failed⟩ := h w hw
  exact ⟨why, w', play_bind_error failed f⟩

theorem after (keeps : r.Always J) (h : ∀ a, (f a).Fails J) : (r >>= f).Fails J := fun w hw => by
  have kept := keeps w hw
  rcases played : r.play w with ⟨why | a, w'⟩ <;> rw [played] at kept
  · exact ⟨why, w', play_bind_error played f⟩
  · rw [play_bind_ok played]
    exact h a w' kept

end Run.Fails

/-- A monitor that is to be seen, of neither a variable nor a list, without a name. -/
structure Monitor.Unnamed (m : Monitor) : Prop where
  visible : ∃ v, m.get? "visible" = .ok v ∧ v.holds = true
  opcode : ∃ op, m.get? "opcode" = .ok op ∧ op.isText "data_variable" = false ∧
    op.isText "data_listcontents" = false
  name : ∃ fault, m.name? = .error fault

namespace Stage

theorem drawVariable_unnamed (h : m.Unnamed) (w : World) (value : Value) :
    ∃ fault, (Panel.drawVariable screen (panel w m) value).answer = .error fault := by
  obtain ⟨⟨v, visible, holds⟩, -, why, unnamed⟩ := h
  have label : ∃ fault, (panel w m).label? = .error fault := by
    simp only [Panel.label?, panel, unnamed]
    rcases (w.sprite m.sprite).get? "isStage" with fault | stage
    · exact ⟨fault, rfl⟩
    rcases (w.sprite m.sprite).title? with fault | title
    · by_cases h : stage.holds
      · exact ⟨why, by simp [h, Except.ok_bind]⟩
      · exact ⟨fault, by simp [h, Except.ok_bind]; rfl⟩
    · by_cases h : stage.holds
      · exact ⟨why, by simp [h, Except.ok_bind]⟩
      · exact ⟨why, by simp [h, Except.ok_bind]; rfl⟩
  obtain ⟨fault, label⟩ := label
  have visible : (panel w m).visible = .ok v := visible
  exact ⟨fault, by simp [Panel.drawVariable, visible, holds, label, Except.ok_bind]; rfl⟩

theorem drawMonitor_fails (h : m.Unnamed) (n : Nat) : (drawMonitor n m).Fails fun _ => True := by
  obtain ⟨⟨v, visible, holds⟩, ⟨op, opcode, noVariable, noList⟩, -⟩ := id h
  intro w _
  unfold drawMonitor
  rw [visible, opcode]
  simp only [lift_ok_bind, holds, noVariable, noList]
  split
  · exact ⟨_, _, rfl⟩
  rcases m.get? "id" with fault | id
  · exact ⟨_, _, rfl⟩
  rcases reported : (reporterText m op).play w with ⟨why | value, w'⟩
  · exact ⟨why, w', play_bind_error reported _⟩
  · obtain ⟨fault, failed⟩ := drawVariable_unnamed h w' value
    obtain ⟨calls, printed, failed⟩ := Run.paint_play failed w'
    exact ⟨.fault fault, _, (play_bind_ok reported _).trans failed⟩

theorem drawMonitors_fails {monitors : List Monitor} (mem : m ∈ monitors) (h : m.Unnamed) (n : Nat) :
    (drawMonitors monitors n).Fails fun _ => True := by
  induction monitors generalizing n with
  | nil => cases mem
  | cons first rest ih =>
    rw [drawMonitors]
    rcases List.mem_cons.1 mem with rfl | later
    · exact (drawMonitor_fails h n).bind
    · exact .after (fun _ _ => trivial) fun _ => ih later (n + 1)

/-- What is drawn before the monitors leaves them alone, so that the one without a name is come to. -/
theorem redraw_fails (h : m.Unnamed) : redraw.Fails fun w => m ∈ w.monitors := by
  have recorded {w : World} (mem : m ∈ w.monitors) (call : Call) : m ∈ (w.record call).monitors := by
    obtain ⟨_, _, noted⟩ := w.record_eq call
    rw [noted]
    exact mem
  refine .after (fun w mem => recorded mem _) fun _ => .after .get fun _ => .after ?_ fun _ w mem => ?_
  · refine Session.Draws.always_forPresent (fun i => .bind .get fun w => .bind (.lift _) fun _ => .bind .get fun w => ?_) _
    exact always_drawSprite recorded _ i fun mem image rect => mem
  · rw [play_get_bind]
    exact (drawMonitors_fails mem h 0).bind w trivial

theorem round_fails (h : m.Unnamed) {moment : Moment} (free : moment.keys = []) :
    (Stage.round moment).Fails fun w => m ∈ w.monitors := by
  have draws : Run.Fails (fun w => m ∈ w.monitors) (do dispatchKeys []; redraw) :=
    .after (.bind (fun _ mem => mem) fun _ => .pure _) fun _ => redraw_fails h
  have printed {α : Type} (p : Paint α) : (Run.paint p).Always fun w => m ∈ w.monitors := by
    intro w mem
    obtain ⟨_, _, painted⟩ := Run.paint_play (p := p) rfl w
    rw [painted]
    exact mem
  rw [Stage.round, free]
  refine .after (fun _ mem => mem) fun _ => ?_
  dsimp only
  split
  · refine .after (.lift _) fun _ => .after (.lift _) fun _ => .after (printed _) fun _ => ?_
    split
    · exact .after (fun _ mem => mem) fun _ => draws
    · exact draws
  · split
    · exact .after (fun _ mem => mem) fun _ => draws
    · exact draws

end Stage

/-- Where the monitors that are to be seen are those of variables and lists that are there, or reporters without
a name, they are all drawn if and only if none is such a reporter. With such a reporter, every round in which no
key is held ends the program. -/
theorem Stage.monitors_are_drawn_iff_named (follows : w.Follows)
    (known : ∀ m ∈ w.monitors, w.Shows m ∨ m.Unnamed) :
    ((∃ w', (drawMonitors w.monitors 0).play w = (.ok (), w') ∧ w.Drawn w') ↔ ∀ m ∈ w.monitors, ¬ m.Unnamed) ∧
      ((∃ m ∈ w.monitors, m.Unnamed) → ∀ moment : Moment, moment.keys = [] →
        ∃ w', Session.playTurn (.round moment) w = (false, w') ∧ w'.done = true) := by
  refine ⟨⟨?_, fun named => ?_⟩, ?_⟩
  · rintro ⟨w', drawn, -⟩ m mem h
    obtain ⟨why, w'', failed⟩ := drawMonitors_fails mem h 0 w trivial
    cases failed.symm.trans drawn
  · exact drawMonitors_ok follows (fun m mem => (known m mem).resolve_right (named m mem)) 0
  · rintro ⟨m, mem, h⟩ moment free
    obtain ⟨why, w', failed⟩ := round_fails h free (w.refuel 0) mem
    rcases Session.playTurn_round moment w with ⟨_, played, -⟩ | ⟨_, w', log, -, -, turn⟩
    · cases failed.symm.trans played
    · exact ⟨_, turn, rfl⟩

/-- A variable and a list of the second sprite are shown, and then its place. -/
def World.withPlace : World :=
  { withReaders with monitors := withReaders.monitors.take 2 ++ [.panel "motion_xposition" "x" []] }

/-- The variable and the list alone are drawn; with the place, the program ends. -/
theorem Stage.monitors_are_drawn_iff_named_withPlace :
    let w := { withPlace with monitors := withPlace.monitors.take 2 }
    (w.Follows ∧ (∀ m ∈ w.monitors, w.Shows m ∨ m.Unnamed)) ∧
      (∃ w', (drawMonitors w.monitors 0).play w = (.ok (), w') ∧ w.Drawn w') ∧
      ∃ w', Session.playTurn (.round ⟨⟨[]⟩, []⟩) withPlace = (false, w') ∧ w'.done = true := by
  intro w
  have follows : withPlace.Follows := ⟨⟨⟨_, _, rfl, rfl⟩, _, rfl⟩, _, _, rfl⟩
  have shows : ∀ m ∈ w.monitors, withPlace.Shows m ∧ ¬ m.Unnamed := by
    rintro m (⟨⟩ | ⟨_, ⟨⟩ | ⟨_, ⟨⟩⟩⟩)
    · refine ⟨.ofVariable ⟨rfl, ⟨_, rfl, rfl⟩, rfl, rfl⟩ rfl ?_, ?_⟩
      · exact ⟨_, _, _, _, _, _, _, _, rfl, rfl, rfl, rfl, rfl, rfl, rfl, rfl⟩
      · rintro ⟨-, ⟨_, ⟨⟩, ⟨⟩, -⟩, -⟩
    · refine ⟨.ofList ⟨rfl, ⟨_, rfl, rfl⟩, rfl, rfl⟩ rfl ?_ ?_, ?_⟩
      · rintro item (⟨⟩ | ⟨_, ⟨⟩⟩)
        exact ⟨_, rfl⟩
      · exact ⟨⟨_, _, rfl, rfl⟩, ⟨100, 100, rfl, rfl⟩, ⟨_, _, rfl, rfl⟩, _, rfl, _, _, _, _, rfl, rfl, rfl, rfl⟩
      · rintro ⟨-, ⟨_, ⟨⟩, -, ⟨⟩⟩, -⟩
  have unnamed : (Monitor.panel "motion_xposition" "x" []).Unnamed :=
    ⟨⟨_, rfl, rfl⟩, ⟨_, rfl, rfl, rfl⟩, _, rfl⟩
  have drawn : withPlace.Drawn w := ⟨_, _, _, _, rfl⟩
  have known : ∀ m ∈ w.monitors, w.Shows m ∨ m.Unnamed := fun m mem => .inl ((shows m mem).1.of_drawn drawn)
  have known' : ∀ m ∈ withPlace.monitors, withPlace.Shows m ∨ m.Unnamed := by
    intro m mem
    rcases List.mem_append.1 mem with mem | mem
    · exact .inl (shows m mem).1
    · exact .inr (List.mem_singleton.1 mem ▸ unnamed)
  have follows' : w.Follows := ⟨follows.rests, follows.follows⟩
  refine ⟨⟨follows', known⟩, (monitors_are_drawn_iff_named follows' known).1.2 fun m mem => (shows m mem).2, ?_⟩
  exact (monitors_are_drawn_iff_named follows known').2 ⟨_, .tail _ (.tail _ (.head _)), unnamed⟩ _ rfl

/-- A project that shows the place of its hidden sprite, as projects write it. -/
def Archive.withPlaceMonitor : Archive :=
  .holding (.ok (.record [
    ("monitors", .list [.record [("id", .text "cat_xposition"), ("mode", .text "default"),
      ("opcode", .text "motion_xposition"), ("params", .record []), ("spriteName", .text "Cat"),
      ("width", Value.int 0), ("height", Value.int 0), ("x", Value.int 5), ("y", Value.int 5),
      ("visible", .bool true)]]),
    ("targets", .list [target "Stage" true [] [] [] (costumed "a.png"),
      target "Cat" false [] [] [] ([("x", Value.int 5), ("visible", .bool false)] ++ costumed "a.png")])])) false

/-- The reporter answers a text, but showing it ends the program in the first round. -/
theorem Session.place_monitor_ends_program :
    let host : Host := { images := [("a.png", { width := 8, height := 8 })] }
    let w := ((Load.project Archive.withPlaceMonitor).play (World.empty host)).2
    let turn := playTurn (.round ⟨⟨[]⟩, []⟩) w
    ((runAct (Opcode.act 1 .null (.motion .xPosition))).play w).1.toOption.map Value.asText = some "5" ∧
      w.done = false ∧ turn.1 = false ∧ turn.2.done = true ∧
      turn.2.log.toList.drop w.log.size = [.loopFailed .missingKey, .ended] := by
  decide +kernel

end BlockStage
