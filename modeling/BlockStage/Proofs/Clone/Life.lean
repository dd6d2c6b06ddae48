import BlockStage.Proofs.Script.Chain
import BlockStage.Proofs.Stage.Course

/-!
# The life of clones

Whether a sprite is one of the project file, a clone, or a deleted clone is its mode. Only the deletion of
a clone changes it (`World.Goes.mode`), so a deleted clone stays so, and the list of clones only grows at
its end: `Session.clones_live_and_end`. No target may replace what it has said of the mode, and no name of
a parameter may be read by changing a sprite: `mode_is_written`.
-/

namespace BlockStage

open Run

variable {w w' : World} {i : Nat} {m : CloneMode}

/-! ## Modes -/

namespace World

def HasMode (w : World) (i : Nat) (m : CloneMode) : Prop :=
  Table.get? (w.sprite i).fields CloneMode.key = some m.value

theorem HasMode.lt (h : w.HasMode i m) : i < w.sprites.length := lt_of_attribute h

theorem HasMode.hasMode? (h : w.HasMode i m) (other : CloneMode) :
    (w.sprite i).hasMode? other = .ok (m.value.same other.value) := by
  rw [Sprite.hasMode?, Sprite.get?, h]
  rfl

theorem HasMode.deleted_of (h : w.HasMode i .clone ∨ w.HasMode i .deleted)
    (dead : (w.sprite i).hasMode? .clone = .ok false) : w.HasMode i .deleted :=
  h.resolve_left fun clone => absurd ((clone.hasMode? .clone).symm.trans dead) (by decide)

end World

/-- A sprite keeps its mode, or it is a clone and is deleted. -/
theorem Sprite.Turns.mode {s s' : Sprite} (h : s.Turns False s')
    (hm : Table.get? s.fields CloneMode.key = some m.value) :
    Table.get? s'.fields CloneMode.key = some m.value ∨
      m = .clone ∧ Table.get? s'.fields CloneMode.key = some CloneMode.deleted.value := by
  have put : ∀ {t : Table Value} {key : String} {v : Value}, key ≠ CloneMode.key →
      Table.get? t CloneMode.key = some m.value →
        Table.get? (Table.put t key v) CloneMode.key = some m.value :=
    fun other hm => (Table.get?_put_of_ne _ _ other).trans hm
  cases h with
  | same => exact .inl hm
  | give key v changing =>
    exact .inl (put ((by decide : ∀ key ∈ changingKeys, key ≠ CloneMode.key) key changing) hm)
  | paint image rect => exact .inl (put (by decide) (put (by decide) hm))
  | rebind bindings => exact .inl hm
  | delete clone =>
    refine .inr ⟨?_, Table.get?_put_self _ _ _⟩
    rw [Sprite.hasMode?, Sprite.get?, hm] at clone
    have same : m.value.same CloneMode.clone.value = true := Except.ok.inj clone
    cases m with
    | clone => rfl
    | principal | deleted => exact absurd same (by decide)
  | drop never => exact never.elim
  | bare never => exact never.elim

namespace World

theorem Goes.mode (h : w.Goes False w') (hm : w.HasMode i m) :
    w'.HasMode i m ∨ m = .clone ∧ w'.HasMode i .deleted := by
  cases h with
  | aside h => exact .inl (by rw [HasMode, sprite, h.sprites]; exact hm)
  | @turn j f turns =>
    unfold HasMode
    rcases w.sprite_updateSprite j i f with same | same <;> rw [same]
    · exact .inl hm
    · exact (turns _).mode hm
  | clone j => exact .inl (by rw [HasMode, w.sprite_addClone_of_lt j hm.lt]; exact hm)
  | enter _ _ _ | data _ _ _ _ | write _ _ _ => exact .inl hm

theorem Goes.cast (h : w.Goes False w') : w'.cast = w.cast := by
  cases h with
  | aside h => exact h.cast
  | enter _ _ _ | turn _ _ | clone _ | data _ _ _ _ | write _ _ _ => rfl

theorem Goes.latest (h : w.Goes False w') : w'.latest = w.latest := by
  cases h with
  | aside h => exact h.latest
  | enter _ _ _ | turn _ _ | clone _ | data _ _ _ _ | write _ _ _ => rfl

/-- The clones are those of before, or there is one more. -/
theorem Goes.clones (h : w.Goes False w') :
    w'.clones = w.clones ∨ w'.clones = w.clones ++ [w.sprites.length] ∧ w'.HasMode w.sprites.length .clone := by
  cases h with
  | aside h => exact .inl h.clones
  | clone j =>
    refine .inr ⟨rfl, ?_⟩
    rw [HasMode, w.sprite_addClone j]
    exact Table.get?_put_self _ _ _
  | enter _ _ _ | turn _ _ | data _ _ _ _ | write _ _ _ => exact .inl rfl

/-- The sprites of the project file are no clones, and the clones are clones. -/
structure Peopled (w : World) : Prop where
  cast : ∀ i ∈ w.cast, w.HasMode i .principal
  clones : ∀ i ∈ w.clones, w.HasMode i .clone ∨ w.HasMode i .deleted

theorem Goes.peopled (h : w.Goes False w') (peopled : w.Peopled) : w'.Peopled where
  cast i mem := by
    rw [h.cast] at mem
    exact (h.mode (peopled.cast i mem)).resolve_right fun never => by cases never.1
  clones i mem := by
    have stays : i ∈ w.clones → w'.HasMode i .clone ∨ w'.HasMode i .deleted := by
      intro mem
      rcases peopled.clones i mem with clone | deleted
      · exact (h.mode clone).imp_right And.right
      · exact .inr ((h.mode deleted).resolve_right fun never => by cases never.1)
    rcases h.clones with same | ⟨more, made⟩
    · exact stays (same ▸ mem)
    · rw [more] at mem
      rcases List.mem_append.1 mem with mem | mem
      · exact stays mem
      · rw [List.mem_singleton.1 mem]
        exact .inl made

/-- The same sprites of the project file; clones are only added at the end, and those that were deleted
stay so. -/
structure Ages (w w' : World) : Prop where
  cast : w'.cast = w.cast
  clones : w.clones <+: w'.clones
  deleted : ∀ i, w.HasMode i .deleted → w'.HasMode i .deleted

theorem Ages.refl (w : World) : w.Ages w := ⟨rfl, List.prefix_rfl, fun _ h => h⟩

theorem Ages.trans {w'' : World} (h : w.Ages w') (h' : w'.Ages w'') : w.Ages w'' :=
  ⟨h'.cast.trans h.cast, h.clones.trans h'.clones, fun i deleted => h'.deleted i (h.deleted i deleted)⟩

theorem Goes.ages (h : w.Goes False w') : w.Ages w' where
  cast := h.cast
  clones := by
    rcases h.clones with same | ⟨more, -⟩
    · exact same ▸ List.prefix_rfl
    · exact more ▸ List.prefix_append _ _
  deleted i deleted := (h.mode deleted).resolve_right fun never => by cases never.1

end World

/-! ## Whole sessions -/

namespace Session

theorem Course.peopled (h : Course False w w') (peopled : w.Peopled) : w'.Peopled := by
  induction h with
  | refl => exact peopled
  | tail _ change ih =>
    cases change with
    | goes goes => exact goes.peopled ih
    | cleared => exact ⟨ih.cast, ih.clones⟩

theorem Course.ages (h : Course False w w') : w.Ages w' := by
  induction h with
  | refl => exact .refl w
  | tail _ change ih =>
    cases change with
    | goes goes => exact ih.trans goes.ages
    | cleared => exact ih.trans ⟨rfl, List.prefix_rfl, fun _ h => h⟩

/-- Every answer tells a world that the project comes to. -/
theorem Gives.course {loose : Prop} {answers : List Answer} (h : Gives loose w answers)
    (orderly : w.Orderly loose) : ∀ a ∈ answers, Course loose w a.world := by
  induction h with
  | nil => exact fun _ mem => absurd mem List.not_mem_nil
  | @cons w w' path reply rest _ ih =>
    have closed := close_path (path.orderly orderly) reply
    have told : Course loose w (close reply w').1.world := .of_path (path.trans closed.1)
    intro a mem
    rcases List.mem_cons.1 mem with rfl | mem
    · exact told
    · refine (told.tail ?_).trans (ih closed.2 a mem)
      rw [close_eq]
      exact .cleared _

/-- A project that was loaded has no clones, and its sprites say so, if no target replaces that. -/
theorem peopled_project {archive : Archive} {host : Host}
    (loads : archive.Loads host w)
    (ordinary : ∀ given, archive.HasTarget (.record given) → Load.IsOrdinary given) :
    w.Peopled ∧ ∀ s ∈ w.sprites, s.fields.keys.Nodup := by
  have fresh := Load.fresh_project archive host
  rw [loads] at fresh
  have made : ∀ s ∈ w.sprites, s.fields.keys.Nodup ∧
      Table.get? s.fields CloneMode.key = some CloneMode.principal.value := by
    intro s mem
    obtain ⟨given, target, makes⟩ := fresh.sprites s mem
    exact makes.mode (ordinary given target)
  refine ⟨⟨fun i mem => ?_, fun i mem => ?_⟩, fun s mem => (made s mem).1⟩
  · have there := fresh.cast i mem
    rw [World.HasMode, World.sprite, List.getD_eq_getElem?_getD, List.getElem?_eq_getElem there]
    exact (made _ (List.getElem_mem there)).2
  · rw [fresh.clones] at mem
    cases mem

/-- A project in which no target replaces the mode of its sprite, prototypes are written in literals, and no
opcode is a name of what every object can do. Whatever a session makes of it, the sprites of the project file
are those that were loaded; and from there on clones are only added at the end, and those that were deleted stay
so. -/
theorem clones_live_and_end {archive : Archive} {host : Host} {w0 : World}
    (loads : archive.Loads host w0)
    (ordinary : ∀ given, archive.HasTarget (.record given) → Load.IsOrdinary given)
    (literal : w0.Literal) (named : w0.Named) : (∀ w, Course False w0 w →
      w.cast = w0.cast ∧ (∀ i ∈ w.cast, w.HasMode i .principal) ∧
      (∀ i ∈ w.clones, w.HasMode i .clone ∨ w.HasMode i .deleted) ∧
      ∀ w', Course False w w' →
        w.clones <+: w'.clones ∧ ∀ i, w.HasMode i .deleted → w'.HasMode i .deleted) ∧
    (∀ w, Course False w0 w → ∀ w', Does w w' → Course False w w') ∧
    ∀ steps answers, (∀ step ∈ steps, step.Scripted) → play host archive steps = .ok answers →
      ∀ a ∈ answers, Course False w0 a.world := by
  obtain ⟨peopled, distinct⟩ := peopled_project loads ordinary
  have orderly : w0.Orderly False := Load.orderly_project loads distinct literal fun _ => named
  refine ⟨fun w course => ?_, fun w course w' does => ?_, fun steps answers scripted played => ?_⟩
  · have peopled' := course.peopled peopled
    exact ⟨course.ages.cast, peopled'.cast, peopled'.clones,
      fun w' later => ⟨later.ages.clones, later.ages.deleted⟩⟩
  · exact .of_path (does.path (course.orderly orderly))
  · exact (gives_play loads orderly scripted played).course orderly

end Session

/-! ## A clone that deletes itself, beside a custom block -/

/-- A custom block, a block that makes a clone, and a script of clones that deletes them. -/
def shortLived : Table Block := customBlock "[\"n\"]" ++ [
  ("m", .plain "control_create_clone_of" []),
  ("h", .plain "control_start_as_clone" [] (.text "k")),
  ("k", .plain "control_delete_this_clone" [])]

theorem shortLived_blocks {k : Nat} {id : String} {b : Block}
    (h : (id, b) ∈ ((Archive.ofBlocks shortLived).world.kit k).blocks) : (id, b) ∈ shortLived := by
  obtain _ | k := k
  · exact h
  · cases h

theorem shortLived_literal : (Archive.ofBlocks shortLived).world.Literal := by
  intro k id o _ _ b v hb hv
  have mem := shortLived_blocks (Table.mem_of_get? hb)
  obtain ⟨⟩ | ⟨_, ⟨⟩ | ⟨_, ⟨⟩ | ⟨_, ⟨⟩ | ⟨_, ⟨⟩ | ⟨_, ⟨⟩ | ⟨_, ⟨⟩ | ⟨_, ⟨⟩⟩⟩⟩⟩⟩⟩⟩ := mem
  all_goals cases hv
  · exact customBlock_mutation customBlock_names
  · exact ⟨nofun, nofun⟩

theorem shortLived_named : (Archive.ofBlocks shortLived).world.Named := by
  intro k id o s mem hs
  obtain ⟨⟨id, b⟩, found, same⟩ := List.mem_map.1 mem
  cases same
  obtain ⟨⟩ | ⟨_, ⟨⟩ | ⟨_, ⟨⟩ | ⟨_, ⟨⟩ | ⟨_, ⟨⟩ | ⟨_, ⟨⟩ | ⟨_, ⟨⟩ | ⟨_, ⟨⟩⟩⟩⟩⟩⟩⟩⟩ := shortLived_blocks found
  all_goals
    cases hs
    decide

theorem ordinary_ofBlocks {blocks : Table Block} {given : Table Value}
    (h : (Archive.ofBlocks blocks).HasTarget (.record given)) : Load.IsOrdinary given := by
  obtain ⟨_, _, _, described, listed, elements, mem⟩ := h
  cases described
  cases listed
  cases elements
  cases List.mem_singleton.1 mem
  have keys : ["name", "isStage", "variables", "lists", "blocks"].Nodup ∧
      "__dict__" ∉ ["name", "isStage", "variables", "lists", "blocks"] := by
    decide
  exact ⟨keys.1, fun _ mem => absurd (List.mem_map_of_mem (f := Prod.fst) mem) keys.2,
    fun mem => keys.2 ((List.dropWhile_sublist _).mem mem)⟩

/-- Once a clone of that project has run its script, it is deleted for good. -/
theorem clones_live_and_end_shortLived : let archive := Archive.ofBlocks shortLived
    let w0 := archive.world
    let w := drain 9 ((runBlock 0 (.text "m")).play w0).2
    ((∀ given, archive.HasTarget (.record given) → Load.IsOrdinary given) ∧ w0.Literal ∧ w0.Named) ∧
      w.cast = [0] ∧ w.clones = [1] ∧ w.HasMode 0 .principal ∧ w.HasMode 1 .deleted ∧
      ∀ w', Session.Course False w w' → [1] <+: w'.clones ∧ w'.HasMode 1 .deleted := by
  intro archive w0 w
  have loads : archive.Loads {} w0 := Prod.ext rfl rfl
  obtain ⟨lives, does, -⟩ := Session.clones_live_and_end loads (fun _ => ordinary_ofBlocks)
    shortLived_literal shortLived_named
  have ran := does w0 .refl _ (.ran 0 (.text "m") true)
  have course := ran.trans (does _ ran w (.drained 9))
  obtain ⟨-, principal, modes, later⟩ := lives w course
  have cast : w.cast = [0] := by decide +kernel
  have clones : w.clones = [1] := by decide +kernel
  have deleted : w.HasMode 1 .deleted :=
    .deleted_of (modes 1 (clones ▸ .head _)) (by decide +kernel)
  refine ⟨⟨fun _ => ordinary_ofBlocks, shortLived_literal, shortLived_named⟩, cast, clones,
    principal 0 (cast ▸ .head _), deleted, fun w' course => ?_⟩
  exact ⟨clones ▸ (later w' course).1, (later w' course).2 1 deleted⟩

/-- A target that replaces all attributes of its sprite once it has told its mode. -/
def ownAttributes : Archive :=
  let parts : List (String × Value) := [("name", .text "Cat"), ("isStage", .bool false),
    ("variables", .record []), ("lists", .record []), ("blocks", .record []), (CloneMode.key, Value.int 7)]
  .holding (.ok (.record [("monitors", .list []), ("targets", .list [
    .record (parts ++ [("__dict__", .record parts)])])])) false

/-- Names of parameters that are read by setting the mode change it, and so does such a target: then the
sprite is neither one of the project file nor a clone. -/
theorem mode_is_written : let names := "[setattr(self,\"clone_mode\",5) or \"n\"]"
    let w := ((runBlock 0 (.text "c")).play (Archive.ofBlocks (customBlock names)).world).2
    (w.cast = [0] ∧ ∀ m ∈ [CloneMode.principal, .clone, .deleted], (w.sprite 0).hasMode? m = .ok false) ∧
      ownAttributes.world.cast = [0] ∧ ∀ m ∈ [CloneMode.principal, .clone, .deleted],
        (ownAttributes.world.sprite 0).hasMode? m = .ok false := by
  decide +kernel

end BlockStage
