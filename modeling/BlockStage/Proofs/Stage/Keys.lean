import BlockStage.Proofs.Data.Store

/-!
# Scripts that wait for a key

In each round the hats whose key is held are looked through, those of the sprites and then those of the clones,
but for deleted clones. A script is started for each of them, until one has no block below it. That ends the
program: `Stage.keys_start_scripts`.
-/

namespace BlockStage

open Run World

variable {w w' : World} {i : Nat} {held : List Value} {b : Block} {hats : List (Nat × Block)}

/-! ## Hats -/

/-- The id of the block below a hat. -/
def Block.below? (b : Block) : Except Fault String := do
  match ← b.get? "next" with
  | .text id => return id
  | _ => throw .wrongKind

def Block.isPressed (held : List Value) (b : Block) : Bool :=
  (Stage.awaitedKey? b).toOption.join.any (Keys.isHeld held)

def World.isPresent (w : World) (i : Nat) : Bool := decide ((w.sprite i).hasMode? .deleted = .ok false)

def Stage.pressed (held : List Value) (i : Nat) (blocks : Table Block) : List (Nat × Block) :=
  (blocks.filter fun p => p.2.isPressed held).map fun p => (i, p.2)

/-- The hats whose key is held, each with its sprite. -/
def World.pressed (w : World) (held : List Value) (sprites : List Nat) : List (Nat × Block) :=
  (sprites.filter w.isPresent).flatMap fun i => Stage.pressed held i (w.blocks i)

/-- A sprite with a mode, a name and blocks, whose hats wait for keys that there are. -/
structure World.Attends (w : World) (i : Nat) : Prop where
  mode : ∃ deleted, (w.sprite i).hasMode? .deleted = .ok deleted
  title : ∃ name, (w.sprite i).title? = .ok name
  blocks : ∃ t, w.blocks? i = .ok t
  keys : ∀ p ∈ w.blocks i, ∃ key, Stage.awaitedKey? p.2 = .ok key

/-! ## Starting scripts -/

/-- Starts the scripts below some hats, up to a hat that has none. -/
def Stage.startBelow : List (Nat × Block) → Run Unit
  | [] => return ()
  | (i, b) :: rest => do
    let id ← b.below?
    modify fun w => w.start i (.text id)
    startBelow rest

theorem Stage.startBelow_append (hats rest : List (Nat × Block)) :
    startBelow (hats ++ rest) = (do startBelow hats; startBelow rest) := by
  induction hats with
  | nil => rfl
  | cons hat hats ih =>
    rw [List.cons_append, startBelow, startBelow, ih]
    simp only [bind_assoc]

/-- Scripts wait that did not, and nothing else has changed. -/
def World.Started (w : World) (scripts : List (Nat × Value)) (w' : World) : Prop :=
  ∃ new : List Thread, new.map (fun t => (t.sprite, t.flag)) = scripts ∧
    w' = { w with queue := w.queue ++ new, threads := w.threads + scripts.length }

/-- The scripts below some hats. -/
def Stage.scripts (hats : List (Nat × Block)) : List (Nat × Value) := hats.map fun hat => (hat.1, hat.2.next)

theorem Block.next_of_below? {id : String} (h : b.below? = .ok id) : b.next = .text id := by
  rw [below?, get?, Value.field?] at h
  rw [next]
  split at h
  · next v found =>
    rw [found]
    cases v <;> cases h
    rfl
  · cases h

theorem Stage.startBelow_ok (h : ∀ hat ∈ hats, ∃ id, hat.2.below? = .ok id) (w : World) :
    ∃ w', (startBelow hats).play w = (.ok (), w') ∧ w.Started (scripts hats) w' := by
  induction hats generalizing w with
  | nil => exact ⟨w, rfl, [], rfl, by simp [scripts]⟩
  | cons hat rest ih =>
    obtain ⟨id, below⟩ := h hat (.head _)
    obtain ⟨w', played, new, told, rfl⟩ := ih (fun hat mem => h hat (.tail _ mem)) (w.start hat.1 (.text id))
    refine ⟨_, ?_, ⟨w.threads + 1, hat.1, .text id⟩ :: new, ?_, rfl⟩
    · rw [startBelow, below, lift_ok_bind, play_modify_bind, played]
      simp [World.start, scripts, Nat.add_comm, Nat.add_left_comm]
    · rw [List.map_cons, told, scripts, scripts, List.map_cons, Block.next_of_below? below]

theorem Stage.startBelow_error {before after : List (Nat × Block)} {f : Fault}
    (h : ∀ hat ∈ before, ∃ id, hat.2.below? = .ok id) (none : b.below? = .error f) (w : World) :
    ∃ w', (startBelow (before ++ (i, b) :: after)).play w = (.error (.fault f), w') ∧
      w.Started (scripts before) w' := by
  obtain ⟨w', played, started⟩ := startBelow_ok h w
  refine ⟨w', ?_, started⟩
  rw [startBelow_append, play_bind_ok played, startBelow, none]
  rfl

theorem Stage.apart_startBelow (hats : List (Nat × Block)) : (startBelow hats).Always w.Apart := by
  induction hats with
  | nil => exact .pure _
  | cons hat rest ih =>
    refine .bind (.lift _) fun id => .bind (.modify fun w' apart => ?_) fun _ => ih
    exact apart.trans ⟨rfl, rfl, rfl, rfl, rfl⟩

/-! ## Looking through the hats -/

theorem Stage.startKeyScripts_play {blocks : Table Block} (title : ∃ name, (w.sprite i).title? = .ok name)
    (keys : ∀ p ∈ blocks, ∃ key, awaitedKey? p.2 = .ok key) :
    (startKeyScripts i held blocks).play w = (startBelow (pressed held i blocks)).play w := by
  induction blocks generalizing w with
  | nil => rfl
  | cons p rest ih =>
    obtain ⟨key, hkey⟩ := keys p (.head _)
    have later : ∀ w' : World, w'.sprites = w.sprites →
        (startKeyScripts i held rest).play w' = (startBelow (pressed held i rest)).play w' := by
      intro w' same
      refine ih ?_ fun q mem => keys q (.tail _ mem)
      rwa [sprite, same]
    rw [startKeyScripts, hkey, lift_ok_bind]
    have pressed : p.2.isPressed held = key.any (Keys.isHeld held) := by rw [Block.isPressed, hkey]; rfl
    rw [Stage.pressed, List.filter_cons, pressed]
    cases key with
    | none => exact later w rfl
    | some k =>
      by_cases down : Keys.isHeld held k = true
      · simp only [Option.any_some, down, if_true, List.map_cons, startBelow, Block.below?]
        obtain ⟨name, named⟩ := title
        rcases p.2.get? "next" with f | next
        · rfl
        rw [lift_ok_bind, play_get_bind, named, lift_ok_bind]
        cases next with
        | text id => exact later _ rfl
        | _ => rfl
      · simp only [Option.any_some, down]
        exact later w rfl

/-- The sprites that are there are asked one after the other, and nothing but scripts changes meanwhile. -/
theorem Stage.forPresent_play {sprites : List Nat} (attends : ∀ i ∈ sprites, w.Attends i)
    (apart : w.Apart w') :
    (forPresent (fun i => do startKeyScripts i held (← (← get).blocks? i)) sprites).play w' =
      (startBelow (w.pressed held sprites)).play w' := by
  induction sprites generalizing w' with
  | nil => rfl
  | cons i rest ih =>
    obtain ⟨⟨deleted, mode⟩, title, ⟨t, blocks⟩, keys⟩ := attends i (.head _)
    have same : w'.sprite i = w.sprite i := by rw [sprite, sprite, apart.sprites]
    have later : ∀ {w'' : World}, w.Apart w'' → _ = _ :=
      fun apart => ih (fun j mem => attends j (.tail _ mem)) apart
    rw [forPresent, play_get_bind, same, mode, lift_ok_bind, World.pressed, List.filter_cons]
    cases deleted with
    | true =>
      have absent : w.isPresent i = false := by simp [isPresent, mode]
      rw [absent]
      exact later apart
    | false =>
      have present : w.isPresent i = true := by simp [isPresent, mode]
      have kits : w'.blocks? i = w.blocks? i := by rw [blocks?, blocks?, same, kit, kit, apart.kits]
      have owned : w.blocks i = t := by rw [World.blocks, blocks]; rfl
      rw [present, if_pos rfl, List.flatMap_cons, startBelow_append, owned]
      simp only [Bool.not_false, if_true, bind_assoc]
      rw [play_get_bind, kits, blocks, lift_ok_bind]
      refine play_bind_congr (startKeyScripts_play (same ▸ title) (owned ▸ keys)) fun _ w'' started => ?_
      have kept := apart_startBelow (Stage.pressed held i t) w' apart
      rw [started] at kept
      exact later kept

theorem Stage.dispatchKeys_play (attends : ∀ i ∈ w.players, w.Attends i) (apart : w.Apart w')
    (players : w'.players = w.players) (held : List Value) : ∃ memory, (dispatchKeys held).play w' =
      (startBelow (w.pressed held w.players)).play { w' with keys := some held, memory := memory } := by
  rw [dispatchKeys, play_bind_ok (play_modify _ w')]
  by_cases none : held.isEmpty = true
  · obtain rfl := List.isEmpty_iff.1 none
    have pressed : w.pressed [] w.players = [] := by
      simp [World.pressed, Stage.pressed, Block.isPressed, Keys.isHeld, Option.any_eq_false]
    rw [pressed]
    exact ⟨w'.memory, rfl⟩
  · rw [if_neg none, play_get_bind, giveNames, play_modify_bind,
      play_get_bind, ← players]
    refine ⟨_, forPresent_play (players ▸ attends) (apart.trans ⟨rfl, rfl, rfl, rfl, rfl⟩)⟩

theorem Stage.round_error {f : Fault}
    (h : (dispatchKeys held).play { w with event := some ⟨[]⟩ } = (.error (.fault f), w')) :
    (round ⟨⟨[]⟩, held⟩).play w = (.error (.fault f), w') := by
  have typed : (⟨[]⟩ : Event).isKind Event.keyDown = false := by decide
  have closed : (⟨[]⟩ : Event).isKind Event.windowClosed = false := by decide
  rw [round, play_modify_bind, if_neg (by simp [typed]), if_neg (by simp [closed])]
  exact play_bind_error h _

theorem Session.playTurn_fault {moment : Moment} {f : Fault}
    (h : (Stage.round moment).play (w.refuel 0) = (.error (.fault f), w')) :
    playTurn (.round moment) w = (false, Stage.finish { w' with log := w'.log.push (.loopFailed f) }) := by
  rw [playTurn, show (Stage.round moment).run.run (w.refuel 0) = _ from h]
  rfl

/-- The hats of the sprites and clones wait for keys that there are. If each hat whose key is held has a block
below it, a script is started for each of them, in order, and nothing else changes. If not, they are started up
to the first that has none. There the look at the keys fails, and a round in which nothing happens but that the
keys are held ends the program. -/
theorem Stage.keys_start_scripts (attends : ∀ i ∈ w.players, w.Attends i) (held : List Value) :
    ((∀ hat ∈ w.pressed held w.players, ∃ id, hat.2.below? = .ok id) →
      ∃ memory w', (dispatchKeys held).play w = (.ok (), w') ∧
        World.Started { w with keys := some held, memory := memory } (scripts (w.pressed held w.players)) w') ∧
    ∀ before i b after (f : Fault), w.pressed held w.players = before ++ (i, b) :: after →
      (∀ hat ∈ before, ∃ id, hat.2.below? = .ok id) → b.below? = .error f →
      (∃ memory w', (dispatchKeys held).play w = (.error (.fault f), w') ∧
        World.Started { w with keys := some held, memory := memory } (scripts before) w') ∧
      ∃ w', Session.playTurn (.round ⟨⟨[]⟩, held⟩) w = (false, w') ∧ w'.done = true ∧
        w'.log = (w.log.push (.loopFailed f)).push .ended ∧
        ∃ new : List Thread, new.map (fun t => (t.sprite, t.flag)) = scripts before ∧
          w'.queue = w.queue ++ new := by
  constructor
  · intro below
    obtain ⟨memory, played⟩ := dispatchKeys_play attends (.refl w) rfl held
    obtain ⟨w', started⟩ := startBelow_ok below { w with keys := some held, memory := memory }
    exact ⟨memory, w', played ▸ started⟩
  · intro before i b after f hats below none
    have fails : ∀ {w1 : World}, w.Apart w1 → w1.players = w.players → ∃ memory w',
        (dispatchKeys held).play w1 = (.error (.fault f), w') ∧
          World.Started { w1 with keys := some held, memory := memory } (scripts before) w' := by
      intro w1 apart players
      obtain ⟨memory, played⟩ := dispatchKeys_play attends apart players held
      obtain ⟨w', stopped⟩ := startBelow_error below none { w1 with keys := some held, memory := memory }
      rw [hats] at played
      exact ⟨memory, w', played ▸ stopped⟩
    refine ⟨fails (.refl w) rfl, ?_⟩
    obtain ⟨memory, w', failed, new, told, rfl⟩ :=
      @fails { w.refuel 0 with event := some ⟨[]⟩ } ⟨rfl, rfl, rfl, rfl, rfl⟩ rfl
    exact ⟨_, Session.playTurn_fault (round_error failed), rfl, rfl, new, told, rfl⟩

/-- A hat that waits for a key. -/
def Block.whenKey (key : String) (next : Value) : Block :=
  ⟨[("opcode", .text "event_whenkeypressed"), ("next", next), ("inputs", .record []),
    ("fields", .record [("KEY_OPTION", .list [.text key, .null])])]⟩

/-- A sprite with a script below one hat and nothing below another, and a clone of it. -/
def World.withHats : World :=
  (Archive.ofBlocks [("a", .whenKey "space" (.text "n")), ("n", .plain "looks_show" []),
    ("b", .whenKey "up arrow" .null)]).world.addClone 0

/-- The space key starts a script of the sprite and one of the clone, and the arrow ends the program. -/
theorem Stage.keys_start_scripts_withHats : (∀ i ∈ withHats.players, withHats.Attends i) ∧
      (∃ memory w', (dispatchKeys [Value.int Keys.space]).play withHats = (.ok (), w') ∧
        World.Started { withHats with keys := some [Value.int Keys.space], memory := memory }
          [(0, .text "n"), (1, .text "n")] w') ∧
      ∃ w', Session.playTurn (.round ⟨⟨[]⟩, [Value.int Keys.up]⟩) withHats = (false, w') ∧ w'.done = true := by
  have attends : ∀ i ∈ withHats.players, withHats.Attends i := by
    have keys : ∀ i ∈ withHats.players, ∀ p ∈ withHats.blocks i, (awaitedKey? p.2).isOk = true := by
      decide +kernel
    intro i mem
    have known : ∀ p ∈ withHats.blocks i, ∃ key, awaitedKey? p.2 = .ok key := by
      intro p found
      have ok := keys i mem p found
      rcases h : awaitedKey? p.2 with f | key <;> rw [h] at ok
      · cases ok
      · exact ⟨key, rfl⟩
    have players : withHats.players = [0, 1] := rfl
    rw [players] at mem
    rcases List.mem_pair.1 mem with rfl | rfl <;> exact ⟨⟨false, rfl⟩, ⟨"Cat", rfl⟩, ⟨_, rfl⟩, known⟩
  have space : withHats.pressed [Value.int Keys.space] withHats.players =
      [(0, .whenKey "space" (.text "n")), (1, .whenKey "space" (.text "n"))] := rfl
  have up : withHats.pressed [Value.int Keys.up] withHats.players =
      [] ++ (0, .whenKey "up arrow" .null) :: [(1, .whenKey "up arrow" .null)] := rfl
  have started := (keys_start_scripts attends [Value.int Keys.space]).1 fun hat mem => by
    rw [space] at mem
    rcases List.mem_pair.1 mem with rfl | rfl <;> exact ⟨"n", rfl⟩
  rw [space] at started
  have failed := (keys_start_scripts attends [Value.int Keys.up]).2 [] 0 _ _ .wrongKind up (by simp) rfl
  obtain ⟨-, w', ended, done, -⟩ := failed
  exact ⟨attends, started, w', ended, done⟩

/-- A hat with nothing below it ends the program when its key is held. -/
theorem Stage.bare_hat_ends_program :
    let w := (Archive.ofBlocks [("b", .whenKey "up arrow" .null)]).world
    let turn := Session.playTurn (.round ⟨⟨[]⟩, [Value.int Keys.up]⟩) w
    (∀ p ∈ w.blocks 0, (awaitedKey? p.2).toOption.join = some Keys.up) ∧ turn.1 = false ∧
      turn.2.log.toList.drop w.log.size = [.loopFailed .wrongKind, .ended] := by
  decide +kernel

end BlockStage
