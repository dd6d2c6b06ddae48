import BlockStage.Widget.TextBox

/-!
# What is typed into a text box

Only keys that are pressed while a text box is active change its text. So the text is what they write when they are
typed on a stack of characters: `TextBox.text_is_replayed`.
-/

namespace BlockStage

/-- An event as the window reports it: a key that is pressed has a code and writes at most one character. -/
structure Event.Reported (e : Event) : Prop where
  kind : ∃ n, e.kind = Value.int n
  key : e.isKind keyDown → ∃ code letter, e.key? = .ok code ∧ e.written? = .ok (.text letter) ∧ letter.length ≤ 1

def Event.isBackspace (e : Event) : Bool := e.key?.toOption.any (·.same (Value.int Key.backspace))

def Event.letters (e : Event) : List Char :=
  match e.written? with
  | .ok (.text s) => s.toList
  | _ => []

theorem Event.Reported.isKind_keyDown {e : Event} (formed : e.Reported) (up : e.isKind Event.mouseUp = true) :
    e.isKind Event.keyDown = false := by
  obtain ⟨n, kind⟩ := formed.kind
  rw [Event.isKind, kind] at up ⊢
  have same : n = Event.mouseUp := by
    simpa [Value.same, Value.int, Number.same, Number.compare?] using up
  rw [same]
  rfl

namespace Widget.TextBox

open Reaction (react_bind react_bind_ok react_state react_ofExcept)

/-! ## Using a text box -/

inductive Step where
  | draw (window : Surface) (mouse : Number × Number) (now : Float)
  | press (e : Event)
  | typing (e : Event)
  | events (e : Event)

namespace Step

def event? : Step → Option Event
  | draw _ _ _ => none
  | press e | typing e | events e => some e

/-- The text box after a step, which may have failed. -/
def after : Step → TextBox → TextBox
  | draw window mouse now, b => ((TextBox.draw window mouse now).react b).2.1
  | press e, b => ((TextBox.press e).react b).2.1
  | typing e, b => ((TextBox.typing e).react b).2.1
  | events e, b => ((TextBox.handle e).react b).2.1

/-- The key that a text box takes in a step. -/
def key? (b : TextBox) : Step → Option Event
  | typing e | events e => if b.active.holds && e.isKind Event.keyDown then some e else none
  | _ => none

theorem key?_eq_some {b : TextBox} {step : Step} {e : Event} (h : step.key? b = some e) :
    (step = typing e ∨ step = events e) ∧ (b.active.holds && e.isKind Event.keyDown) = true := by
  cases step with
  | draw | press => cases h
  | typing e' | events e' =>
    rw [key?, Option.ite_none_right_eq_some] at h
    obtain ⟨takes, ⟨⟩⟩ := h
    exact ⟨by simp, takes⟩

end Step

def run (steps : List Step) (b : TextBox) : TextBox := steps.foldl (fun b step => step.after b) b

/-- The keys that a text box takes in some steps. -/
def received : List Step → TextBox → List Event
  | [], _ => []
  | step :: rest, b => (step.key? b).toList ++ received rest (step.after b)

/-- What is typed after one more key, where `limit` is the greatest length; none if not positive. -/
def typed (limit : Int) (cs : List Char) (e : Event) : List Char :=
  if e.isBackspace then cs.dropLast else if limit ≤ 0 ∨ cs.length < limit then cs ++ e.letters else cs

def replay (limit : Int) (keys : List Event) : List Char := keys.foldl (typed limit) []

/-- A text box with some text, as using it leaves it. -/
structure Holds (limit : Int) (cs : List Char) (b : TextBox) : Prop where
  text : b.text = .text (String.ofList cs)
  maxLength : b.maxLength = Value.int limit
  active : ∃ a, b.active = .bool a
  added : b.added = []
  fits : 0 < limit → cs.length ≤ limit

variable {limit : Int} {cs : List Char} {b : TextBox} {e : Event}

/-! ## Drawing -/

/-- A reaction that changes only what drawing changes. -/
def Draws {α : Type} (r : Reaction TextBox Call α) : Prop :=
  ∀ b, ∃ hover counter, (r.react b).2.1 = { b with hover, counter }

namespace Draws

variable {α β : Type}

theorem of_state_eq {r : Reaction TextBox Call α} (h : ∀ b, (r.react b).2.1 = b) : Draws r :=
  fun b => ⟨b.hover, b.counter, h b⟩

theorem bind {r : Reaction TextBox Call α} {f : α → Reaction TextBox Call β} (h : Draws r) (k : ∀ a, Draws (f a)) :
    Draws (r >>= f) := by
  intro b
  obtain ⟨hover, counter, first⟩ := h b
  rw [react_bind]
  generalize r.react b = reacted at first ⊢
  rcases reacted with ⟨_ | a, t, out⟩
  · exact ⟨hover, counter, first⟩
  · obtain ⟨hover, counter, second⟩ := k a t
    cases first
    exact ⟨hover, counter, second⟩

theorem lift (p : Paint α) : Draws (p.lift : Reaction TextBox Call α) := of_state_eq fun _ => rfl

theorem ofExcept (x : Except Fault α) : Draws (Reaction.ofExcept x) := of_state_eq fun _ => rfl

end Draws

theorem draws_draw (window : Surface) (mouse : Number × Number) (now : Float) : Draws (draw window mouse now) := by
  have state : Draws (Reaction.state : Reaction TextBox Call TextBox) := .of_state_eq fun _ => rfl
  have notice : Draws (notice mouse) := by
    refine .bind state fun b => .bind (.ofExcept _) fun hovered => .bind (fun b => ⟨_, b.counter, rfl⟩) fun _ => ?_
    cases hovered <;> exact .of_state_eq fun _ => rfl
  refine .bind (.bind state fun b => .ofExcept _) fun _ => .bind notice fun _ => .bind state fun b => ?_
  refine .bind (.lift (drawText window b)) fun place => .bind (.ofExcept _) fun waited =>
    .bind (.ofExcept _) fun shows => ?_
  cases shows with
  | true => exact .lift (drawCaret window b place.1 place.2)
  | false =>
    refine .bind (.ofExcept _) fun late => ?_
    cases late with
    | true => exact fun b => ⟨b.hover, _, rfl⟩
    | false => exact .of_state_eq fun _ => rfl

/-! ## Typing -/

theorem Holds.can (h : b.Holds limit cs) (name : String) : (can name).react b = (.ok (), b, []) := by
  have free : Attributed.can? b name = .ok () := by
    rw [Attributed.can?, show Attributed.added b = [] from h.added]
    rfl
  simp only [TextBox.can, react_bind, react_state, react_ofExcept, free]
  rfl

theorem Holds.hasRoom? (h : b.Holds limit cs) : b.hasRoom? = .ok (decide (limit ≤ 0 ∨ cs.length < limit)) := by
  have shorter : Arith.lt (Value.int (String.ofList cs).length) (Value.int limit) =
      .ok (decide ((cs.length : Int) < limit)) := by
    rw [String.length_ofList]
    exact congrArg Except.ok (Number.lt_int _ _)
  have unlimited : Arith.le (Value.int limit) (Value.int 0) = .ok (decide (limit ≤ 0)) :=
    congrArg Except.ok (Number.le_int _ _)
  simp only [TextBox.hasRoom?, h.text, h.maxLength, typedLength?, bind, Except.bind, shorter, unlimited,
    decide_eq_true_eq]
  split
  · simp [*]
    rfl
  · simp [*]

/-- What typing does to the text. -/
theorem Holds.typing (h : b.Holds limit cs) (formed : e.Reported) :
    ((typing e).react b).2.1 = { b with text := .text (String.ofList
      (if b.active.holds && e.isKind Event.keyDown then typed limit cs e else cs)) } := by
  obtain ⟨active, held⟩ := h.active
  have asks : holds? b.active = .ok active := by rw [held]; rfl
  have same : b.active.holds = active := by rw [held]; rfl
  simp only [TextBox.typing, react_bind, react_state, react_ofExcept, asks, same]
  cases acts : active && e.isKind Event.keyDown
  · simp only [Bool.false_eq_true, if_false, ← h.text]
    rfl
  obtain ⟨code, letter, key, written, -⟩ := formed.key (by simp_all)
  have backspaces : e.isBackspace = code.same (Value.int Key.backspace) := by
    rw [Event.isBackspace, key]
    rfl
  have letters : e.letters = letter.toList := by rw [Event.letters, written]
  simp only [if_true, react_bind, react_ofExcept, key, typed, backspaces, letters]
  cases code.same (Value.int Key.backspace) with
  | true =>
    simp only [if_true, react_bind, react_state, react_ofExcept, h.can, backspace, h.text, shortened?,
      String.toList_ofList]
    rfl
  | false =>
    have more : extended? (.text (String.ofList cs)) (if limit ≤ 0 ∨ cs.length < limit then [.text letter] else []) =
        .ok (String.ofList (if limit ≤ 0 ∨ cs.length < limit then cs ++ letter.toList else cs)) := by
      split
      · rw [String.ofList_append, String.ofList_toList]
        rfl
      · rfl
    simp only [Bool.false_eq_true, if_false, react_bind, react_state, react_ofExcept, h.can, written,
      append, h.hasRoom?, h.text, decide_eq_true_eq, more]
    rfl

theorem Holds.of_typing (h : b.Holds limit cs) (formed : e.Reported) : ((TextBox.typing e).react b).2.1.Holds limit
    (if b.active.holds && e.isKind Event.keyDown then typed limit cs e else cs) := by
  rw [h.typing formed]
  refine ⟨rfl, h.maxLength, h.active, h.added, fun limited => ?_⟩
  have fits := h.fits limited
  split
  · next takes =>
    obtain ⟨_, letter, -, written, short⟩ := formed.key (Bool.and_eq_true_iff.1 takes).2
    have letters : e.letters = letter.toList := by rw [Event.letters, written]
    rw [typed, letters]
    split
    · rw [List.length_dropLast]
      omega
    · split
      · rw [List.length_append, String.length_toList]
        omega
      · exact fits
  · exact fits

/-! ## The mouse -/

theorem press_of_not_up (up : e.isKind Event.mouseUp = false) (b : TextBox) :
    (press e).react b = (.ok none, b, []) := by
  simp only [press, up, Bool.false_eq_true, if_false]
  rfl

theorem Holds.press (h : b.Holds limit cs) (e : Event) : ((press e).react b).2.1.Holds limit cs := by
  cases up : e.isKind Event.mouseUp
  · rw [press_of_not_up up]
    exact h
  · simp only [TextBox.press, up, if_true, react_bind, react_state, react_ofExcept]
    rcases holds? b.hover with _ | hover
    · exact h
    · exact ⟨h.text, h.maxLength, ⟨_, rfl⟩, h.added, h.fits⟩

theorem Step.holds_after (h : b.Holds limit cs) {step : Step} (formed : ∀ e, step.event? = some e → e.Reported) :
    (step.after b).Holds limit ((step.key? b).elim cs (typed limit cs)) := by
  cases step with
  | draw window mouse now =>
    obtain ⟨hover, counter, drawn⟩ := draws_draw window mouse now b
    rw [after, drawn]
    exact ⟨h.text, h.maxLength, h.active, h.added, h.fits⟩
  | press e => exact h.press e
  | typing e =>
    rw [key?, apply_ite (Option.elim · cs (typed limit cs))]
    exact h.of_typing (formed e rfl)
  | events e =>
    have formed := formed e rfl
    rw [after, handle, react_bind_ok (h.can _), key?, apply_ite (Option.elim · cs (typed limit cs))]
    cases up : e.isKind Event.mouseUp with
    | false =>
      rw [react_bind_ok (press_of_not_up up b), react_bind_ok (h.can _)]
      exact h.of_typing formed
    | true =>
      have pressed := h.press e
      rw [formed.isKind_keyDown up, Bool.and_false, if_neg Bool.false_ne_true, react_bind]
      generalize (TextBox.press e).react b = reacted at pressed ⊢
      rcases reacted with ⟨_ | _, b', out⟩
      · exact pressed
      · have typed := pressed.of_typing formed
        rw [formed.isKind_keyDown up, Bool.and_false, if_neg Bool.false_ne_true] at typed
        dsimp only
        rw [react_bind_ok (pressed.can _)]
        exact typed

theorem holds_run {steps : List Step} (h : b.Holds limit cs)
    (formed : ∀ step ∈ steps, ∀ e, step.event? = some e → e.Reported) :
    (b.run steps).Holds limit ((b.received steps).foldl (typed limit) cs) := by
  induction steps generalizing b cs with
  | nil => exact h
  | cons step rest ih =>
    have next := ih (step.holds_after h (formed step (.head _))) fun s hs => formed s (.tail _ hs)
    rw [received, List.foldl_append]
    cases key : step.key? b <;> rw [key] at next <;> exact next

/-- A text box as it is made. -/
structure Made (limit : Int) (b : TextBox) : Prop where
  text : b.text = ""
  maxLength : b.maxLength = Value.int limit
  active : b.active = .bool false
  added : b.added = []

theorem Made.holds (made : b.Made limit) : b.Holds limit [] :=
  ⟨made.text, made.maxLength, ⟨_, made.active⟩, made.added, fun limited => Int.le_of_lt limited⟩

/-- However a text box is used, its text is what the keys write that it received while it was active, and is not longer
than it may be. The text changes only when such a key is received. -/
theorem text_is_replayed (made : b.Made limit) {steps : List Step}
    (formed : ∀ step ∈ steps, ∀ e, step.event? = some e → e.Reported) :
    ∃ cs, (b.run steps).text = .text (String.ofList cs) ∧ cs = replay limit (b.received steps) ∧
      (0 < limit → cs.length ≤ limit) ∧
      ∀ step, (∀ e, Step.event? step = some e → e.Reported) → (step.after (b.run steps)).text ≠ (b.run steps).text →
        ∃ e, (step = .typing e ∨ step = .events e) ∧ e.isKind Event.keyDown ∧ (b.run steps).active = .bool true := by
  have h := holds_run made.holds formed
  refine ⟨_, h.text, rfl, h.fits, fun step formed changed => ?_⟩
  have after := (step.holds_after h formed).text
  cases key : step.key? (b.run steps) with
  | none => exact absurd (after.trans (by rw [key, h.text]; rfl)) changed
  | some e =>
    obtain ⟨typing, takes⟩ := Step.key?_eq_some key
    obtain ⟨active, held⟩ := h.active
    rw [held, Bool.and_eq_true_iff] at takes
    exact ⟨e, typing, takes.2, held.trans (congrArg Value.bool takes.1)⟩

def keyPress (code : Int) (letter : String) : Event :=
  ⟨[("type", Value.int Event.keyDown), ("key", Value.int code), ("unicode", .text letter)]⟩

/-- A box for two letters, under the mouse. -/
def shortBox : TextBox where
  area := ⟨Value.int 0, Value.int 0, Value.int 9, Value.int 9⟩
  maxLength := Value.int 2
  hover := .bool true
  counter := Value.int 0

def shortSteps : List Step := [.press ⟨[("type", Value.int Event.mouseUp)]⟩, .events (keyPress 97 "a"),
  .typing (keyPress 98 "b"), .events (keyPress 99 "c"), .events (keyPress Key.backspace "")]

theorem shortBox_text : (shortBox.run shortSteps).text = "a" := by
  have reported (code : Int) (letter : String) (short : letter.length ≤ 1) : (keyPress code letter).Reported :=
    ⟨⟨_, rfl⟩, fun _ => ⟨_, _, rfl, rfl, short⟩⟩
  have formed : ∀ step ∈ shortSteps, ∀ e, step.event? = some e → e.Reported := by
    simp only [shortSteps, List.forall_mem_cons, Step.event?, Option.some.injEq, forall_eq']
    exact ⟨⟨⟨_, rfl⟩, fun down => absurd down (by decide)⟩, reported _ _ (by decide), reported _ _ (by decide),
      reported _ _ (by decide), reported _ _ (by decide), by simp⟩
  obtain ⟨cs, text, replayed, -⟩ := text_is_replayed (b := shortBox) ⟨rfl, rfl, rfl, rfl⟩ formed
  have letters : replay 2 (shortBox.received shortSteps) = ['a'] := by decide +kernel
  rw [text, replayed, letters]

end Widget.TextBox

end BlockStage
