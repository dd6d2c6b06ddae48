import BlockStage.Proofs.Stage.Course

/-!
# Names of lists

Which list a sprite means by a name is noted when the project is loaded, and never again. So a block of a clone
means the list of the stage, and fails if the stage has none.
-/

namespace BlockStage

open Run

variable {w w' : World}

/-! ## The list that a block means -/

namespace World

/-- The id that the stage has for the name of a list. -/
def stageMeans? (w : World) (name : Value) : Except Fault String :=
  match w.stage? with
  | .error f => .error f
  | .ok stage =>
    match w.listId? stage name with
    | some id => .ok id
    | none => .error .missingKey

/-- The id that a sprite means by the name of a list: its own, or else the one of the stage. -/
def means? (w : World) (me : Nat) (name : Value) : Except Fault String :=
  match w.listId? me name with
  | some id => .ok id
  | none => w.stageMeans? name

end World

namespace Data

/-- The blocks that work on the list of a name. -/
def listBlocks : List Data :=
  [addToList, insertAtList, replaceItemOfList, deleteOfList, deleteAllOfList, itemOfList,
    itemNumberOfList, lengthOfList, listContainsItem]

/-- What a block does with the list that is meant. -/
def onMeant (p : Player) (me : Nat) (args : Arguments) (block : Data) (w : World)
    (id : Except Fault String) : Run Value := do
  let id ← id
  let (holder, value) ← w.list? me (.text id)
  (onList args ⟨holder, id, value⟩ block).perform p

theorem findList_play (p : Player) (me : Nat) {name : Value} (hname : name.canName = true) (w : World) :
    ((findList me name).perform p).play w = (do
      let id ← w.means? me name
      let (holder, value) ← w.list? me (.text id)
      return ⟨holder, id, value⟩ : Run Found).play w := by
  have lists : ∀ id : String, (Act.perform p (do
      let (holder, value) ← w.list? me (.text id)
      return (⟨holder, id, value⟩ : Found))).play w = (do
      let (holder, value) ← w.list? me (.text id)
      return ⟨holder, id, value⟩ : Run Found).play w := fun id => by
    rcases w.list? me (.text id) with f | found <;> rfl
  rw [findList, Act.play_look_bind, World.means?]
  simp only [hname, Bool.not_true, Bool.false_eq_true, if_false]
  rcases w.listId? me name with _ | id
  · rw [World.stageMeans?]
    rcases w.stage? with f | stage
    · rfl
    · dsimp only [Act.lift_ok_bind]
      rcases w.listId? stage name with _ | id
      · rfl
      · exact lists id
  · exact lists id

theorem act_listBlock (p : Player) {me : Nat} {flag name : Value} {block : Data} {args : Arguments}
    {w1 : World} (hblock : block ∈ listBlocks)
    (taken : ((Arguments.eval me flag).perform p).play w = (.ok args, w1))
    (list : args.need "LIST" = .ok name) (hname : name.canName = true) :
    ((act me flag block).perform p).play w =
      (onMeant p me args block w1 (w1.means? me name)).play w1 := by
  have acts : act me flag block = (Arguments.eval me flag >>= fun args => do
      onList args (← findList me (← args.need "LIST")) block) := by
    simp only [listBlocks, List.mem_cons, List.not_mem_nil, or_false] at hblock
    rcases hblock with rfl | rfl | rfl | rfl | rfl | rfl | rfl | rfl | rfl <;> rfl
  rw [acts, Act.play_bind_ok taken, list, Act.lift_ok_bind, Act.perform_bind, onMeant,
    play_bind, findList_play p me hname]
  rw [← play_bind]
  simp only [bind_assoc, pure_bind]

end Data

/-! ## Names that are noted -/

/-- Names of lists are noted for sprites that there are. -/
def World.Noted (w : World) : Prop := ∀ e ∈ w.listIds, e.1.1 < w.sprites.length

theorem World.Later.noted (h : w.Later w') (noted : w.Noted) : w'.Noted :=
  fun e he => Nat.lt_of_lt_of_le (noted e (h.listIds e he)) h.length

theorem World.Apart.noted (h : w.Apart w') (noted : w.Noted) : w'.Noted := fun e he => by
  rw [h.sprites]
  exact noted e (h.listIds ▸ he)

theorem World.listId?_eq_none {me : Nat} (h : ∀ e ∈ w.listIds, e.1.1 ≠ me) (name : Value) :
    w.listId? me name = none := by
  rw [listId?, Option.map_eq_none_iff, List.find?_eq_none]
  intro e he
  simp [h e he]

namespace Load

theorem mem_noteList {ids : List ((Nat × Value) × String)} {sprite : Nat} {name : Value} {id : String}
    {e : (Nat × Value) × String} (h : e ∈ noteList ids sprite name id) :
    e.1.1 = sprite ∨ ∃ e' ∈ ids, e'.1.1 = e.1.1 := by
  induction ids with
  | nil =>
    obtain rfl : e = ((sprite, name), id) := by simpa [noteList] using h
    exact .inl rfl
  | cons e' rest ih =>
    rw [noteList] at h
    split at h
    · rcases List.mem_cons.1 h with rfl | h
      · exact .inr ⟨e', .head _, rfl⟩
      · exact .inr ⟨e, .tail _ h, rfl⟩
    · rcases List.mem_cons.1 h with rfl | h
      · exact .inr ⟨e, .head _, rfl⟩
      · exact (ih h).imp_right fun ⟨e', he', same⟩ => ⟨e', .tail _ he', same⟩

theorem mem_noteLists {named : List (String × Value × Value)} {ids : List ((Nat × Value) × String)}
    {sprite : Nat} {e : (Nat × Value) × String}
    (h : e ∈ named.foldl (fun ids l => noteList ids sprite l.2.1 l.1) ids) :
    e.1.1 = sprite ∨ ∃ e' ∈ ids, e'.1.1 = e.1.1 := by
  induction named generalizing ids with
  | nil => exact .inr ⟨e, h, rfl⟩
  | cons l rest ih =>
    rcases ih h with same | ⟨e', he', same⟩
    · exact .inl same
    · rw [← same]
      exact mem_noteList he'

theorem noted_addSprite {me : Nat} (noted : w.Noted) (hme : me ≤ w.sprites.length) (s : Sprite)
    (kit : Kit) (named : List (String × Value × Value)) (stage : Option Nat) :
    (addSprite w me s kit named stage).Noted := by
  intro e he
  rw [length_addSprite]
  rcases mem_noteLists he with same | ⟨e', he', same⟩
  · exact same ▸ Nat.lt_succ_of_le hme
  · exact same ▸ Nat.lt_succ_of_lt (noted e' he')

/-- However loading ends, names of lists are noted for sprites that there are. -/
theorem noted_project (archive : Archive) (host : Host) :
    ((project archive).play (World.empty host)).2.Noted := by
  refine always_project (fun noted h => h.noted noted) ?_ _ nofun
  intro w given s kit named stage noted _ _ _
  exact noted_addSprite noted (Nat.le_refl _) s kit named stage

end Load

/-! ## Clones -/

namespace Session

/-- Sprite `c` is a clone of sprite `s`, made directly or from another clone of it, in a world that `w0` can
come to. -/
inductive CloneOf (w0 : World) (s : Nat) : World → Nat → Prop
  | made {w : World} (came : Course True w0 w) : CloneOf w0 s (w.addClone s) w.sprites.length
  | again {w : World} {c : Nat} (h : CloneOf w0 s w c) : CloneOf w0 s (w.addClone c) w.sprites.length
  | later {w w' : World} {c : Nat} (h : CloneOf w0 s w c) (came : Course True w w') : CloneOf w0 s w' c

theorem CloneOf.unnoted {w0 : World} {s c : Nat} (noted : w0.Noted) (h : CloneOf w0 s w c) :
    w.Noted ∧ ∀ e ∈ w.listIds, e.1.1 ≠ c := by
  have added : ∀ {w : World} (i : Nat), w.Noted →
      (w.addClone i).Noted ∧ ∀ e ∈ (w.addClone i).listIds, e.1.1 ≠ w.sprites.length := fun i noted =>
    ⟨World.Later.noted (.append rfl rfl rfl) noted, fun e he => Nat.ne_of_lt (noted e he)⟩
  induction h with
  | made came => exact added s (came.later.noted noted)
  | again _ ih => exact added _ ih.1
  | later _ came ih => exact ⟨came.later.noted ih.1, fun e he => ih.2 e (came.later.listIds e he)⟩

/-- A project in which each sprite has each attribute once and prototypes are written in literals. By a name a
sprite means its own list, and a clone of it the list of the stage that has the name; if the stage has none, the
blocks of the clone fail. -/
theorem CloneOf.finds_stage_lists {archive : Archive} {host : Host} {w0 : World}
    (loads : archive.Loads host w0)
    (distinct : ∀ s ∈ w0.sprites, s.fields.keys.Nodup) (literal : w0.Literal) :
    (∀ w, Course True w0 w → ∀ w', Passes w w' → Course True w w') ∧
    ∀ s c w, CloneOf w0 s w c → ∀ name id, name.canName = true → w.listId? s name = some id →
      (∀ block ∈ Data.listBlocks, ∀ p flag args w1,
        ((Arguments.eval s flag).perform p).play w1 = (.ok args, w) → args.need "LIST" = .ok name →
          ((Data.act s flag block).perform p).play w1 =
            (Data.onMeant p s args block w (.ok id)).play w) ∧
      (∀ block ∈ Data.listBlocks, ∀ p flag args w1,
        ((Arguments.eval c flag).perform p).play w1 = (.ok args, w) → args.need "LIST" = .ok name →
          ((Data.act c flag block).perform p).play w1 =
            (Data.onMeant p c args block w (w.stageMeans? name)).play w) ∧
      (w.means? c name = w.means? s name ↔
        ∃ stage, w.stage = some stage ∧ w.listId? stage name = some id) ∧
      (∀ stage, w.stage = some stage → w.listId? stage name = none →
        ∀ block ∈ Data.listBlocks, ∀ p flag args w1,
          ((Arguments.eval c flag).perform p).play w1 = (.ok args, w) → args.need "LIST" = .ok name →
            ((Data.act c flag block).perform p).play w1 = (.error (.fault (.error .missingKey)), w)) := by
  have noted := Load.noted_project archive host
  rw [loads] at noted
  have orderly : w0.Orderly True := Load.orderly_project loads distinct literal fun strict => absurd trivial strict
  refine ⟨fun w came w' passes => passes.course (came.orderly orderly), fun s c w clone name id hname own => ?_⟩
  have ownMeant : w.means? s name = .ok id := by rw [World.means?, own]
  have cloneMeant : w.means? c name = w.stageMeans? name := by
    rw [World.means?, World.listId?_eq_none (clone.unnoted noted).2]
  have cloneActs : ∀ block ∈ Data.listBlocks, ∀ p flag args w1,
      ((Arguments.eval c flag).perform p).play w1 = (.ok args, w) → args.need "LIST" = .ok name →
        ((Data.act c flag block).perform p).play w1 =
          (Data.onMeant p c args block w (w.stageMeans? name)).play w := by
    intro block hblock p flag args w1 taken list
    rw [Data.act_listBlock p hblock taken list hname, cloneMeant]
  refine ⟨fun block hblock p flag args w1 taken list => ?_, cloneActs, ?_, ?_⟩
  · rw [Data.act_listBlock p hblock taken list hname, ownMeant]
  · rw [ownMeant, cloneMeant, World.stageMeans?, World.stage?]
    rcases w.stage with _ | stage
    · simp
    · rcases hid : w.listId? stage name with _ | id' <;> simp [hid]
  · intro stage hstage unknown block hblock p flag args w1 taken list
    have means : w.stageMeans? name = .error .missingKey := by
      simp only [World.stageMeans?, World.stage?, hstage, unknown]
    rw [cloneActs block hblock p flag args w1 taken list, means]
    rfl

/-- A project with a sprite that has a variable and a list, a block that makes a clone, one that sets the
variable, and one that adds to the list. -/
def dataKeeper : Archive :=
  let target (name : String) (isStage : Bool) (vars lists blocks : List (String × Value)) : Value :=
    .record [("name", .text name), ("isStage", .bool isStage), ("variables", .record vars),
      ("lists", .record lists), ("blocks", .record blocks)]
  let block (opcode : String) (inputs fields : List (String × Value)) : Value :=
    .record [("opcode", .text opcode), ("next", .null), ("inputs", .record inputs),
      ("fields", .record fields)]
  let literal (s : String) : Value := .list [.int 1, .list [.int 10, .text s]]
  .holding (.ok (.record [("monitors", .list []), ("targets", .list [
    target "Stage" true [] [] [],
    target "Cat" false [("v", .list [.text "V", .text "0"])] [("l", .list [.text "L", .list []])] [
      ("m", block "control_create_clone_of" [] []),
      ("s", block "data_setvariableto" [("VALUE", literal "1")] [("VARIABLE", .list [.text "V", .text "v"])]),
      ("a", block "data_addtolist" [("ITEM", literal "x")] [("LIST", .list [.text "L", .text "l"])])]])]))
    false

def dataKeeperWorld : World := ((Load.project dataKeeper).play (World.empty {})).2

theorem dataKeeper_loads : dataKeeper.Loads {} dataKeeperWorld :=
  Prod.ext rfl rfl

theorem dataKeeper_literal : dataKeeperWorld.Literal := (World.named_of_bare (by decide +kernel)).1

theorem dataKeeper_distinct : ∀ s ∈ dataKeeperWorld.sprites, s.fields.keys.Nodup := by decide +kernel

theorem CloneOf.finds_stage_lists_dataKeeper : let w := dataKeeperWorld.addClone 1
    CloneOf dataKeeperWorld 1 w 2 ∧ w.listId? 1 (.text "L") = some "l" ∧
      ((Data.act 2 (.text "a") .addToList).perform (player 9)).play w =
        (.error (.fault (.error .missingKey)), w) := by
  have clone : CloneOf dataKeeperWorld 1 (dataKeeperWorld.addClone 1) 2 := .made .refl
  have own : (dataKeeperWorld.addClone 1).listId? 1 (.text "L") = some "l" := rfl
  obtain ⟨-, -, -, fails⟩ :=
    (finds_stage_lists dataKeeper_loads dataKeeper_distinct dataKeeper_literal).2 _ _ _ clone _ _ rfl own
  exact ⟨clone, own, fails 0 rfl rfl .addToList (by decide) (player 9) (.text "a") _ _ rfl rfl⟩

theorem dataKeeper_clone_fails : let w := ((runBlock 1 (.text "m")).play dataKeeperWorld).2
    (((runBlock 1 (.text "a")).play w).2.list? 1 (.text "l")).map Prod.snd = .ok (.list [.text "x"]) ∧
      ((runBlock 2 (.text "a")).play w).2.log.toList.getLast? =
        some (.blockFailed "a" .missingKey) := by
  exact ⟨rfl, rfl⟩

end Session

end BlockStage
