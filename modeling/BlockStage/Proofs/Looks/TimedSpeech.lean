import BlockStage.Proofs.Custom.Bound
import BlockStage.Proofs.Run.Step

/-!
# Speech for a time

A block lets a sprite say something, pauses, and then lets it say nothing. If the pause cannot be made, the block
is given up, and nothing ends what the sprite says: `Looks.speech_outlasts_failed_pause`.
-/

namespace BlockStage

open Run World

variable {w w1 : World} {me : Nat} {old : Value}

/-- What a sprite says. -/
def World.words (w : World) (i : Nat) : Option Value := Table.get? (w.sprite i).fields Sprite.wordsKey

/-- A world in which a sprite has come to say something. -/
def World.saying (w : World) (me : Nat) (words : String) : World :=
  w.updateSprite me (·.put Sprite.wordsKey (.text words))

theorem World.words_saying (h : w.words me = some old) (words : String) :
    (w.saying me words).words me = some (.text words) := by
  rw [World.words, World.saying, sprite_updateSprite_self h]
  exact Table.get?_put_self _ _ _

/-- There is no pause that is negative or no number, and none that is longer than the host allows. -/
theorem Host.pause?_refused {host : Host} {x : Float} (h : x.isNaN = true ∨ x < 0 ∨ host.longest < x) :
    ∃ f, host.pause? x = .error f := by
  by_cases first : (x.isNaN || x < 0) = true
  · exact ⟨_, if_pos first⟩
  · have long : host.longest < x := by
      rcases h with h | h | h
      · exact absurd (by rw [h]; rfl) first
      · exact absurd (by simp [h]) first
      · exact h
    exact ⟨_, (if_neg first).trans (if_pos long)⟩

namespace Looks

/-- What a sprite says once it was to say something for a time: nothing if the pause was made, and else what it
was to say. -/
def saidAfter (host : Host) (secs : Float) (message : String) : String :=
  match host.pause? secs with
  | .ok _ => ""
  | .error _ => message

/-- What the block does once its inputs are taken. -/
def speak (me : Nat) (secs : Float) (message : String) : Act Value := do
  Act.say me message
  Act.sleep secs
  Act.say me ""
  return .null

theorem speak_play (p : Player) (flag : Value) (spoken : w.words me = some old) (secs : Float) (message : String) :
    ∃ w', (contain flag ((speak me secs message).perform p)).play w = (.ok .null, w') ∧
      w'.words me = some (.text (saidAfter w.host secs message)) := by
  have speaks := World.words_saying spoken message
  have begun : ((Act.say me message).perform p).play w = (.ok (), w.saying me message) := rfl
  rw [saidAfter]
  cases paused : w.host.pause? secs with
  | error f =>
    have failed : ((speak me secs message).perform p).play w = (.error (.fault f), w.saying me message) := by
      rw [speak, Act.play_bind_ok begun, Act.sleep, Act.ask_bind, Act.perform, Request.perform,
        bind_assoc, play_get_bind, show (w.saying me message).host = w.host from rfl, paused]
      rfl
    exact ⟨_, contain_fault failed, speaks⟩
  | ok ms =>
    let later : World := { (w.saying me message).record (.sleep secs) with host := w.host.advance ms }
    have silent : ((speak me secs message).perform p).play w = (.ok .null, later.saying me "") := by
      rw [speak, Act.play_bind_ok begun, Act.sleep, Act.ask_bind, Act.perform, Request.perform,
        bind_assoc, play_get_bind, show (w.saying me message).host = w.host from rfl, paused]
      rfl
    exact ⟨_, contain_ok silent, World.words_saying (w := later) speaks ""⟩

/-- Whatever a block for timed speech is given, it comes to an end, and the sprite is silent if the pause was
made. If there is no number of seconds, it still says what it said before. But if the pause fails, it goes on
saying what it was to say for that time. -/
theorem speech_outlasts_failed_pause (p : Player) {flag secs message : Value} {name opcode : String} {b : Block}
    {args : Arguments} (begins : w.Begins me flag name opcode (.looks .sayForSecs) b)
    (taken : ((Arguments.eval me flag).perform p).play (w.enter name opcode) = (.ok args, w1))
    (timed : args.need "SECS" = .ok secs) (given : args.need "MESSAGE" = .ok message)
    (spoken : w1.words me = some old) :
    ∃ w2, (runWith p me flag false).play w = (.ok .null, w2) ∧
      (∀ f, secs.asFloat? = .error f → w2.words me = some old) ∧
      (∀ x, secs.asFloat? = .ok x → w2.words me = some (.text (saidAfter w1.host x message.asText))) ∧
      (∀ x, secs.asFloat? = .ok x → x.isNaN = true ∨ x < 0 ∨ w1.host.longest < x →
        w2.words me = some (.text message.asText)) ∧
      (w2.words me = some (.text "") ∨ w2.words me = some old ↔
        ∀ x, secs.asFloat? = .ok x → ∀ f, w1.host.pause? x = .error f →
          message.asText = "" ∨ .text message.asText = old) := by
  have acts : ((Opcode.act me flag (.looks .sayForSecs)).perform p).play (w.enter name opcode) =
      (((liftM secs.asFloat? : Act Float) >>= fun x => speak me x message.asText).perform p).play w1 := by
    rw [Opcode.act, act, Act.play_bind_ok taken, timed, given]
    rfl
  rw [begins.run p, contain_play, acts, ← contain_play]
  cases hx : secs.asFloat? with
  | error f =>
    exact ⟨_, contain_fault rfl, fun _ _ => spoken, nofun, nofun,
      ⟨fun _ => nofun, fun _ => .inr spoken⟩⟩
  | ok x =>
    obtain ⟨w2, ran, now⟩ := speak_play p flag spoken x message.asText
    refine ⟨w2, ran, nofun, ?_, ?_, ?_⟩
    · rintro _ ⟨⟩
      exact now
    · rintro _ ⟨⟩ refused
      obtain ⟨f, failed⟩ := Host.pause?_refused refused
      rw [now, saidAfter, failed]
    · rw [now, saidAfter]
      cases paused : w1.host.pause? x <;> simp [paused]

/-- A cat that is to say something for a second less than no time. -/
def speaksTooShort : World :=
  (World.ofBlocks [("s", .plain "looks_sayforsecs" [("MESSAGE", .literal "Hi"), ("SECS", .literal "-1")])]).updateSprite
    0 (·.put Sprite.wordsKey (.text ""))

theorem speech_outlasts_failed_pause_tooShort : speaksTooShort.words 0 = some (.text "") ∧
    ∃ w2, (runWith (player 4) 0 (.text "s") false).play speaksTooShort = (.ok .null, w2) ∧
      w2.words 0 = some (.text "Hi") := by
  have begins : speaksTooShort.Begins 0 (.text "s") "Cat" "looks_sayforsecs" (.looks .sayForSecs) _ :=
    ⟨⟨rfl, rfl, rfl⟩, rfl, rfl, by decide⟩
  obtain ⟨w2, ran, -, later, -⟩ := speech_outlasts_failed_pause (player 4) begins rfl rfl rfl rfl
  exact ⟨rfl, w2, ran, later _ rfl⟩

/-- The cat has said nothing before, but still speaks when the block is over. -/
theorem negative_pause_leaves_speech : let ran := (runBlock 0 (.text "s") false).play speaksTooShort
    ran.1 = .ok .null ∧ speaksTooShort.words 0 = some (.text "") ∧ ran.2.words 0 = some (.text "Hi") :=
  ⟨rfl, rfl, rfl⟩

end Looks

end BlockStage
