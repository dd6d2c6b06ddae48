import BlockStage.Proofs.Run.Unfolding
import BlockStage.Proofs.Stage.Loaded

/-!
# The course of a session

A project whose prototypes are written in literals is in order once it is loaded (`Load.orderly_project`), and
all that a session does to it then is a sequence of changes (`Session.Does.path`). The worlds that come of this
are the `Session.Course` of the project, and the answers tell some of them (`Session.Gives`).
-/

namespace BlockStage

open Run

variable {steps : List Step}

/-! ## The project -/

variable {loose : Prop} {archive : Archive} {host : Host} {w w' : World}

theorem World.sprite_mem (w : World) (i : Nat) : w.sprite i = default ∨ w.sprite i ∈ w.sprites := by
  rw [World.sprite, List.getD_eq_getElem?_getD]
  cases h : w.sprites[i]? with
  | none => exact .inl rfl
  | some s => exact .inr (List.mem_of_getElem? h)

/-- A project that was loaded is in order, if its sprites have each attribute once. -/
theorem Load.orderly_project (loads : archive.Loads host w)
    (distinct : ∀ s ∈ w.sprites, s.fields.keys.Nodup) (literal : w.Literal) (named : ¬ loose → w.Named) :
    w.Orderly loose := by
  have fresh := Load.fresh_project archive host
  rw [loads] at fresh
  refine ⟨fun i p mem key => ?_, literal, named⟩
  rcases w.sprite_mem i with none | there
  · rw [none] at mem
    cases mem
  · obtain ⟨given, -, makes⟩ := fresh.sprites _ there
    have found := Table.get?_of_mem (distinct _ there) mem
    exact Option.some.inj (found.symm.trans (makes.tables key))

namespace Session

/-! ## What a session does -/

/-- A world and what it becomes when a script is run, scripts that wait are run, a step is answered, or a
turn of the program is played. -/
inductive Does (w : World) : World → Prop
  | ran (me : Nat) (flag : Value) (next : Bool) : Does w ((runBlock me flag next).play w).2
  | threaded (t : Thread) : Does w (runThread t w)
  | drained (n : Nat) : Does w (drain n w)
  | answered {step : Step} (scripted : step.Scripted) : Does w (answerStep step w).2
  | played (t : Turn) : Does w (playTurn t w).2

theorem Upholds.does {J : World → Prop} (upholds : Upholds J) (hw : J w) (h : Does w w') : J w' := by
  cases h with
  | ran me flag next => exact upholds.runs me flag next w hw
  | threaded t => exact upholds.always_runThread t hw
  | drained n => exact upholds.always_drain n hw
  | answered scripted => exact upholds.always_answerStep (fun other => absurd scripted other) hw
  | played t => exact upholds.always_playTurn t hw

theorem Does.path (h : Does w w') (orderly : w.Orderly loose) : w.Path loose w' :=
  orderly.upholds.does .refl h

/-- A thing that a session does, a script in the midst of another one, or an answer that is closed. -/
inductive Passes : World → World → Prop
  | does {w w' : World} (h : Does w w') : Passes w w'
  | within (depth me : Nat) (flag : Value) (next : Bool) (w : World) :
    Passes w (((player depth).run me flag next).play w).2
  | cleared (w : World) : Passes w { w with log := #[], calls := #[] }

/-- A world and what sessions can make of it. -/
abbrev Reaches : World → World → Prop := Relation.ReflTransGen Passes

/-- One change, or an answer that is closed. -/
inductive Changes (loose : Prop) : World → World → Prop
  | goes {w w' : World} (h : w.Goes loose w') : Changes loose w w'
  | cleared (w : World) : Changes loose w { w with log := #[], calls := #[] }

abbrev Course (loose : Prop) : World → World → Prop := Relation.ReflTransGen (Changes loose)

theorem Course.of_path (h : w.Path loose w') : Course loose w w' :=
  h.lift id fun _ _ => .goes

theorem Passes.course (h : Passes w w') (orderly : w.Orderly loose) : Course loose w w' := by
  cases h with
  | does h => exact .of_path (h.path orderly)
  | within depth me flag next => exact .of_path ((unfolds_player depth orderly me flag next).always w .refl).path
  | cleared => exact .single (.cleared w)

theorem cleared_orderly (h : w.Orderly loose) : World.Orderly loose { w with log := #[], calls := #[] } :=
  ⟨h.tabled, h.literal, h.named⟩

theorem Course.orderly (h : Course loose w w') (orderly : w.Orderly loose) : w'.Orderly loose := by
  induction h with
  | refl => exact orderly
  | tail _ change ih =>
    cases change with
    | goes goes => exact goes.orderly ih
    | cleared => exact cleared_orderly ih

theorem Course.later (h : Course loose w w') : w.Later w' := by
  induction h with
  | refl => exact .refl w
  | tail _ change ih =>
    cases change with
    | goes goes => exact ih.trans goes.later
    | cleared => exact ⟨ih.length, ih.kits, ih.listIds, ih.stage⟩

theorem Reaches.course (h : Reaches w w') (orderly : w.Orderly loose) : Course loose w w' := by
  induction h with
  | refl => exact .refl
  | tail _ passes ih => exact ih.trans (passes.course (ih.orderly orderly))

/-! ## What a session tells -/

/-- Answers that tell what a world comes to. -/
inductive Gives (loose : Prop) : World → List Answer → Prop
  | nil (w : World) : Gives loose w []
  | cons {w w' : World} (path : w.Path loose w') (reply : Reply) {rest : List Answer}
    (later : Gives loose (close reply w').2 rest) : Gives loose w ((close reply w').1 :: rest)

theorem close_path (orderly : w.Orderly loose) (reply : Reply) :
    w.Path loose (close reply w).1.world ∧ (close reply w).2.Orderly loose := by
  have path : w.Path loose (drain patience w) := (Does.drained patience).path orderly
  exact ⟨path, cleared_orderly (path.orderly orderly)⟩

/-- When an answer is closed, the log begins anew, and nothing else changes. -/
theorem close_eq (reply : Reply) (w : World) :
    (close reply w).2 = { (close reply w).1.world with log := #[], calls := #[] } := rfl

/-- The answers of a session, each after at most one thing that it does. -/
inductive Tells : World → List Answer → Prop
  | nil (w : World) : Tells w []
  | cons {w w' : World} (does : Relation.ReflGen Does w w') (reply : Reply) {rest : List Answer}
    (later : Tells (close reply w').2 rest) : Tells w ((close reply w').1 :: rest)

theorem tells_afterEnd (scripted : ∀ step ∈ steps, step.Scripted) (w : World) :
    Tells w (afterEnd steps w) := by
  induction steps generalizing w with
  | nil => exact .nil w
  | cons step rest ih =>
    have later := fun step mem => scripted step (.tail _ mem)
    exact .cons (.single (.answered (scripted step (.head _)))) _ (ih later _)

theorem tells_whileRunning (scripted : ∀ step ∈ steps, step.Scripted) (w : World) :
    Tells w (whileRunning steps w) := by
  induction steps generalizing w with
  | nil => exact .cons (.single (.played (.round Moment.quit))) .nothing (.nil _)
  | cons step rest ih =>
    have later := fun step mem => scripted step (.tail _ mem)
    by_cases turn : ∃ t, step = .turn t
    · obtain ⟨t, rfl⟩ := turn
      have answers : whileRunning (.turn t :: rest) w = (close .nothing (playTurn t w).2).1 ::
          (if (playTurn t w).1 then whileRunning rest (close .nothing (playTurn t w).2).2
          else afterEnd rest (close .nothing (playTurn t w).2).2) := rfl
      rw [answers]
      refine .cons (.single (.played t)) _ ?_
      split
      · exact ih later _
      · exact tells_afterEnd later _
    · have does := Does.answered (w := w) (scripted step (.head _))
      cases step with
      | turn t => exact absurd ⟨t, rfl⟩ turn
      | _ => exact .cons (.single does) _ (ih later _)

theorem tells_play (loads : archive.Loads host w)
    (scripted : ∀ step ∈ steps, step.Scripted) {answers : List Answer}
    (h : play host archive steps = .ok answers) : Tells w answers := by
  unfold play at h
  rw [show (Load.project archive).run.run (World.empty host) = (.ok (), w) from loads] at h
  cases h
  exact .cons .refl _ (tells_whileRunning scripted _)

/-- The answers of a session tell what the project comes to. -/
theorem gives_play (loads : archive.Loads host w)
    (orderly : w.Orderly loose) (scripted : ∀ step ∈ steps, step.Scripted)
    {answers : List Answer} (h : play host archive steps = .ok answers) : Gives loose w answers := by
  have tells := tells_play loads scripted h
  clear loads h
  induction tells with
  | nil w => exact .nil w
  | @cons w w' does reply _ _ ih =>
    have path : w.Path loose w' := by
      cases does with
      | refl => exact .refl
      | single does => exact does.path orderly
    exact .cons path reply (ih (close_path (path.orderly orderly) reply).2)

/-- What all that a session does keeps holds of the world in each of its answers. -/
theorem answers_keep {J : World → Prop} (does : ∀ {w w' : World}, J w → Does w w' → J w')
    (cleared : ∀ w, J w → J { w with log := #[], calls := #[] })
    (loads : archive.Loads host w) (hw : J w)
    (scripted : ∀ step ∈ steps, step.Scripted) {answers : List Answer}
    (played : play host archive steps = .ok answers) : ∀ answer ∈ answers, J answer.world := by
  have tells := tells_play loads scripted played
  clear loads played
  induction tells with
  | nil w => simp
  | @cons w w' step reply _ _ ih =>
    have reached : J w' := by
      cases step with
      | refl => exact hw
      | single step => exact does hw step
    have drained := does reached (.drained patience)
    exact List.forall_mem_cons.2 ⟨drained, ih (cleared _ drained)⟩

end Session

end BlockStage
