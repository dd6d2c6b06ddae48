import BlockStage.Proofs.Stage.Keys

/-!
# The scripts that the end of the program waits for

Loading puts the scripts below the green flag on the roster of scripts that the end of the program waits for. A
script that a clone, a key or another step starts is only made to wait (`World.Enlists`). So the roster stays as
it is until the program ends, which clears it (`World.Musters`).
-/

namespace BlockStage

open Run World

variable {loose : Prop} {w0 w w' : World}

/-! ## Turns of the program -/

namespace Session

/-- A turn leaves the roster alone, and clears it if the program ends with it. -/
theorem playTurn_enlists (orderly : w.Orderly loose) (t : Turn) :
    w.Enlists (playTurn t w).2 ∨ ∃ w1, w.Enlists w1 ∧ playTurn t w = (false, Stage.finish w1) := by
  cases t with
  | interrupt => exact .inr ⟨{ w with log := w.log.push .interrupted }, {}, rfl⟩
  | round moment =>
    have round := orderly.carries.always_round moment (w.refuel 0) (.single ⟨.aside (.refuel w 0), {}⟩)
    rcases playTurn_round moment w with ⟨w', played, -, turn⟩ | ⟨_, w', log, played, -, turn⟩ <;> rw [played] at round
    · rw [turn]
      exact .inl round.enlists
    · exact .inr ⟨{ w' with log }, round.enlists.trans {}, turn⟩

/-- All that a session does leaves the roster alone, up to a turn with which the program ends. -/
theorem Passes.enlists (h : Passes w w') (orderly : w.Orderly loose) :
    w.Enlists w' ∨ ∃ t w1, playTurn t w = (false, w') ∧ w.Enlists w1 ∧ w' = Stage.finish w1 := by
  have carries := orderly.carries
  cases h with
  | cleared => exact .inl {}
  | within depth me flag next => exact .inl ((unfolds_player depth orderly me flag next).always w .refl).enlists
  | does h =>
    cases h with
    | ran me flag next => exact .inl (carries.runs me flag next w .refl).enlists
    | threaded t => exact .inl (carries.always_runThread t .refl).enlists
    | drained n => exact .inl (carries.always_drain n .refl).enlists
    | answered scripted => exact .inl (carries.always_answerStep (fun other => absurd scripted other) .refl).enlists
    | played t =>
      rcases playTurn_enlists orderly t with enlists | ⟨w1, enlists, ends⟩
      · exact .inl enlists
      · rw [ends]
        exact .inr ⟨t, w1, ends, enlists, rfl⟩

end Session

/-! ## The roster -/

/-- A world and what it can come to: the roster is as it was or cleared, and the scripts that wait were there
or were started since. -/
structure World.Musters (w0 w : World) : Prop where
  managed : w.managed = w0.managed ∨ w.managed = {}
  threads : w0.threads ≤ w.threads
  queue : ∀ t ∈ w.queue, t ∈ w0.queue ∨ w0.threads < t.id

namespace World.Musters

theorem enlists (h : w0.Musters w) (enlists : w.Enlists w') : w0.Musters w' where
  managed := enlists.managed ▸ h.managed
  threads := Nat.le_trans h.threads enlists.threads
  queue t mem := by
    rcases enlists.queue t mem with earlier | later
    · exact h.queue t earlier
    · exact .inr (Nat.lt_of_le_of_lt h.threads later)

theorem reaches (orderly : w0.Orderly loose) (h : Session.Reaches w0 w) : w0.Musters w := by
  induction h with
  | refl => exact ⟨.inl rfl, Nat.le_refl _, fun _ => .inl⟩
  | tail reached passes ih =>
    rcases passes.enlists ((Session.Reaches.course reached orderly).orderly orderly) with
      enlists | ⟨t, w1, -, enlists, rfl⟩
    · exact ih.enlists enlists
    · exact ⟨.inr rfl, (ih.enlists enlists).threads, (ih.enlists enlists).queue⟩

end World.Musters

theorem Load.enrolled_project (archive : Archive) (host : Host) :
    ((project archive).play (World.empty host)).2.Enrolled :=
  always_loaded (J := World.Enrolled) (fun enrolled h => h.enrolls enrolled) (fun _ _ _ _ _ _ h _ _ _ => h)
    (fun _ _ _ _ _ h _ => h) _ ⟨rfl, nofun⟩

/-- A project in which each sprite has each attribute once and prototypes are written in literals. The roster
holds the scripts that the green flag starts and no others, until the program ends: a script that is started
later is never waited for. -/
theorem Session.only_flagged_scripts_are_managed {archive : Archive} {host : Host}
    (loads : archive.Loads host w0)
    (distinct : ∀ s ∈ w0.sprites, s.fields.keys.Nodup) (literal : w0.Literal) :
    w0.managed.threads = w0.queue.map Thread.id ∧
      ∀ w, Reaches w0 w →
        (∀ w', Passes w w' → w'.managed = w.managed ∨ ∃ t, playTurn t w = (false, w') ∧ w'.managed = {}) ∧
        (w.managed = w0.managed ∨ w.managed = {}) ∧
        ∀ t ∈ w.queue, t ∈ w0.queue ∨ t.id ∉ w0.managed.threads ∧
          ∀ alive, Call.join t.id Roster.timeout ∉ (w.managed.stopAll alive).1 := by
  have enrolled := Load.enrolled_project archive host
  rw [loads] at enrolled
  have orderly : w0.Orderly True := Load.orderly_project loads distinct literal fun strict => absurd trivial strict
  refine ⟨enrolled.1, fun w reaches => ?_⟩
  have musters := Musters.reaches orderly reaches
  refine ⟨fun w' passes => ?_, musters.managed, fun t mem => ?_⟩
  · rcases passes.enlists ((Reaches.course reaches orderly).orderly orderly) with
      enlists | ⟨t, w1, ends, -, rfl⟩
    · exact .inl enlists.managed
    · exact .inr ⟨t, ends, rfl⟩
  refine (musters.queue t mem).imp_right fun later => ?_
  have absent : t.id ∉ w0.managed.threads := fun listed => by
    rw [enrolled.1] at listed
    obtain ⟨u, waits, same⟩ := List.mem_map.1 listed
    exact absurd (same ▸ enrolled.2 u waits) (Nat.not_le.2 later)
  refine ⟨absent, fun alive joined => ?_⟩
  obtain ⟨u, listed, same⟩ := List.mem_map.1 joined
  have listed : u ∈ w.managed.threads := (List.mem_filter.1 listed).1
  obtain rfl : u = t.id := (Call.join.inj same).1
  rcases musters.managed with kept | cleared
  · exact absent (kept ▸ listed)
  · rw [cleared] at listed
    cases listed

/-- A sprite with a script below the green flag, a block that makes a clone, and a script for the clone. -/
def Archive.cloner : Archive :=
  .ofBlocks [("g", .plain "event_whenflagclicked" []), ("m", .plain "control_create_clone_of" []),
    ("h", .plain "control_start_as_clone" [])]

/-- The script of the clone waits beside that of the green flag, and is not on the roster. -/
theorem Session.only_flagged_scripts_are_managed_cloner : let w0 := Archive.cloner.world
    let w := ((runBlock 0 (.text "m")).play w0).2
    w0.managed.threads = [1] ∧ w0.Literal ∧ Reaches w0 w ∧ w.queue.map Thread.id = [1, 2] ∧
      ∀ t ∈ w.queue, t.id = 1 ∨ ∀ alive, Call.join t.id Roster.timeout ∉ (w.managed.stopAll alive).1 := by
  intro w0 w
  have loads : (Load.project Archive.cloner).play (World.empty {}) = (.ok (), w0) := Prod.ext rfl rfl
  have reaches : Reaches w0 w := .single (.does (.ran 0 (.text "m") true))
  have literal : w0.Literal := (World.named_of_bare (by decide +kernel)).1
  obtain ⟨-, scripts⟩ := only_flagged_scripts_are_managed loads (by decide +kernel) literal
  refine ⟨by decide +kernel, literal, reaches, by decide +kernel, fun t mem => ?_⟩
  refine ((scripts w reaches).2.2 t mem).imp (fun first => ?_) And.right
  have ids : ∀ t ∈ w0.queue, t.id = 1 := by decide +kernel
  exact ids t first

/-- The scripts that a key or a clone starts are not waited for. -/
theorem Session.later_scripts_are_not_managed :
    let pressed := ((Stage.dispatchKeys [Value.int Keys.space]).play withHats).2
    let cloned := ((runBlock 0 (.text "m")).play Archive.cloner.world).2
    (pressed.queue.map Thread.id = [1, 2] ∧ pressed.managed.threads = []) ∧
      cloned.queue.map Thread.id = [1, 2] ∧ cloned.managed.threads = [1] := by
  decide +kernel

end BlockStage
