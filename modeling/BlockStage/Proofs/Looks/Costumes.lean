import BlockStage.Proofs.Clone.Life
import BlockStage.Proofs.Data.Store

/-!
# Costumes

A sprite shows one of its costumes, by its number. Four blocks choose another one: one that was found, or the
next one (`Looks.advance_play`). In between the number may lie outside, but no block ends like that. So a
number that is looked up is that of a costume: `Session.costumes_are_there`.
-/

namespace BlockStage

open Run

/-! ## The costume of a sprite -/

/-- The sprite has these costumes, and shows the one with this number. -/
structure Sprite.Wears (s : Sprite) (costumes : List Value) (n : Nat) : Prop where
  has : Table.get? s.fields "costumes" = some (.list costumes)
  current : Table.get? s.fields Attribute.costume.key = some (Value.int n)
  lt : n < costumes.length

namespace Sprite.Wears

variable {s s' : Sprite} {costumes : List Value} {n m : Nat}

theorem of_same (h : s.Wears costumes n)
    (same : ∀ key ∈ ["costumes", Attribute.costume.key], Table.get? s'.fields key = Table.get? s.fields key) :
    s'.Wears costumes n :=
  ⟨(same _ (by simp)).trans h.has, (same _ (by simp)).trans h.current, h.lt⟩

theorem put (h : s.Wears costumes n) {key : String} (v : Value)
    (other : key ∉ ["costumes", Attribute.costume.key]) : (s.put key v).Wears costumes n :=
  h.of_same fun _ mem => Table.get?_put_of_ne _ _ fun same => other (same ▸ mem)

theorem set (h : s.Wears costumes n) (lt : m < costumes.length) :
    (s.set .costume (Value.int m)).Wears costumes m :=
  ⟨(Table.get?_put_of_ne _ _ (by decide)).trans h.has, Table.get?_put_self _ _ _, lt⟩

theorem get?_costumes (h : s.Wears costumes n) : s.get? "costumes" = .ok (.list costumes) := by
  rw [Sprite.get?, h.has]

theorem attribute? (h : s.Wears costumes n) : s.attribute? .costume = .ok (Value.int n) := by
  rw [Sprite.attribute?, Sprite.get?, h.current]

theorem index? (h : s.Wears costumes n) {costume : Value} (shown : costumes[n]? = some costume) :
    (Value.list costumes).index? (Value.int n) = .ok costume := by
  have position : Value.position? costumes.length (n : Int) = some n := by
    have nonneg : ¬ (n : Int) < 0 := by omega
    have lt := h.lt
    simp only [Value.position?, if_neg nonneg]
    rw [if_pos (by omega), Int.toNat_natCast]
  show (Value.list costumes).at? (n : Int) = .ok costume
  simp only [Value.at?, position, Option.bind_some, shown]

/-- A sprite is drawn in the costume that it shows. -/
theorem picture_eq (h : s.Wears costumes n) {costume : Value} (shown : costumes[n]? = some costume)
    (images : Table Surface) : Stage.picture images s = Stage.pictureIn costume images s := by
  rw [Stage.picture, h.get?_costumes, h.attribute?]
  show (Paint.ofExcept ((Value.list costumes).index? (Value.int n)) >>= _) = _
  rw [h.index? shown]
  rfl

end Sprite.Wears

/-! ## Worlds in which every sprite shows a costume -/

namespace World

/-- An orderly world in which every sprite shows one of its costumes. The monitors are on the first sprites,
which are those of the project file. -/
structure Dressed (size : Nat) (w : World) : Prop where
  orderly : w.Orderly False
  wears : ∀ i < w.sprites.length, ∃ costumes n, (w.sprite i).Wears costumes n
  players : ∀ i ∈ w.players, i < w.sprites.length
  stage : ∀ i, w.stage = some i → i < w.sprites.length
  hosts : ∀ i ∈ w.hosts, i < size
  size_le : size ≤ w.sprites.length

namespace Dressed

variable {size : Nat} {w w' : World}

theorem goes (h : w.Dressed size) (goes : w.Goes False w') (hosts : w'.hosts = w.hosts)
    (wears : ∀ i < w'.sprites.length, ∃ costumes n, (w'.sprite i).Wears costumes n) : w'.Dressed size where
  orderly := goes.orderly h.orderly
  wears := wears
  hosts := hosts ▸ h.hosts
  size_le := Nat.le_trans h.size_le goes.later.length
  players i mem := by
    have stays : i ∈ w.players → i < w'.sprites.length :=
      fun mem => Nat.lt_of_lt_of_le (h.players i mem) goes.later.length
    rw [World.players, goes.cast] at mem
    rcases goes.clones with same | ⟨more, made⟩
    · rw [same] at mem
      exact stays mem
    · rw [more, ← List.append_assoc] at mem
      rcases List.mem_append.1 mem with mem | mem
      · exact stays mem
      · rw [List.mem_singleton.1 mem]
        exact made.lt
  stage i hi := Nat.lt_of_lt_of_le (h.stage i (goes.later.stage ▸ hi)) goes.later.length

theorem idles (h : w.Dressed size) (idles : w.Idles w') : w'.Dressed size := by
  refine h.goes idles.goes idles.hosts fun i lt => ?_
  obtain ⟨costumes, n, worn⟩ := h.wears i (idles.length ▸ lt)
  refine ⟨costumes, n, worn.of_same fun key mem => ?_⟩
  exact idles.attributes i key ((by decide : ∀ key ∈ ["costumes", Attribute.costume.key], key ≠ "image") key mem)
    ((by decide : ∀ key ∈ ["costumes", Attribute.costume.key], key ≠ "rect") key mem)

theorem turn (h : w.Dressed size) (i : Nat) {f : Sprite → Sprite} (turns : ∀ s : Sprite, s.Turns False (f s))
    (wears : ∀ costumes n, (w.sprite i).Wears costumes n → ∃ m, (f (w.sprite i)).Wears costumes m) :
    (w.updateSprite i f).Dressed size := by
  refine h.goes (.turn w i turns) rfl fun j lt => ?_
  have lt : j < w.sprites.length := by simpa [World.updateSprite] using lt
  obtain ⟨costumes, n, worn⟩ := h.wears j lt
  by_cases this : i = j
  · subst this
    obtain ⟨m, worn'⟩ := wears costumes n worn
    rw [sprite_updateSprite_self worn.current f]
    exact ⟨costumes, m, worn'⟩
  · rw [w.sprite_updateSprite_of_ne this]
    exact ⟨costumes, n, worn⟩

theorem give (h : w.Dressed size) (i : Nat) {key : String} (v : Value) (changing : key ∈ changingKeys)
    (other : key ∉ ["costumes", Attribute.costume.key]) : (w.updateSprite i (·.put key v)).Dressed size :=
  h.turn i (fun _ => .give key v changing) fun _ n worn => ⟨n, worn.put v other⟩

theorem putData (h : w.Dressed size) (holder : Holder) (part : DataKind) (id : String) (v : Value) :
    (w.putData holder part id v).Dressed size := by
  have goes : w.Goes False _ := .putData w holder part id v
  cases holder with
  | kit k => exact h.goes goes rfl h.wears
  | own i =>
    refine h.turn i (fun s => ?_) fun _ n worn => ⟨n, ?_⟩
    · split
      · exact .give _ _ (by cases part <;> decide)
      · exact .same
    · split
      · exact worn.put _ (by cases part <;> decide)
      · exact worn

theorem addClone (h : w.Dressed size) {i : Nat} (there : i < w.sprites.length) :
    (w.addClone i).Dressed size := by
  refine h.goes (.clone w i) rfl fun j lt => ?_
  rcases Nat.lt_succ_iff_lt_or_eq.1 (show j < w.sprites.length + 1 by simpa [World.addClone] using lt) with
    before | rfl
  · rw [w.sprite_addClone_of_lt i before]
    exact h.wears j before
  · obtain ⟨costumes, n, worn⟩ := h.wears i there
    refine ⟨costumes, n, worn.of_same fun key mem => w.get?_addClone i ?_⟩
    exact (by decide : ∀ key ∈ ["costumes", Attribute.costume.key], key ∉ cloneKeys) key mem

theorem pose (h : w.Dressed size) {who m : Nat} {costumes : List Value} (lt : m < costumes.length)
    (found : Table.get? (w.sprite who).fields "costumes" = some (.list costumes)) :
    (w.updateSprite who (·.set .costume (Value.int m))).Dressed size := by
  refine h.turn who (fun _ => .give _ _ (by decide)) fun costumes' n worn => ⟨m, worn.set ?_⟩
  cases found.symm.trans worn.has
  exact lt

end Dressed

end World

open World

variable {p : Player} {w : World} {who me size : Nat} {flag : Value} {costumes : List Value} {n : Nat}

/-! ## Blocks that choose a costume -/

namespace Looks

theorem lt_of_costumeNamed {name : Except Fault Value} {items : List Value} {k m : Nat}
    (h : costumeNamed name items k = .ok (some m)) : m < k + items.length := by
  induction items generalizing k with
  | nil => cases h
  | cons costume rest ih =>
    rw [costumeNamed] at h
    rcases hf : costume.field? "name" with f | found <;> rw [hf] at h
    · cases h
    rcases name with f | wanted
    · cases h
    change (if found.same wanted = true then _ else _) = _ at h
    split at h
    · cases h
      simp
    · have := ih h
      simp only [List.length_cons]
      omega

theorem dressed_switchTo (who : Nat) (name : Except Fault Value) :
    ((switchTo who name).perform p).Always (Dressed size) := by
  intro w hw
  rw [switchTo, Act.play_look_bind, Act.perform_bind,
    Act.perform_lift]
  refine Load.after_lift hw fun v found => ?_
  have there : Table.get? (w.sprite who).fields "costumes" = some v := Sprite.get?_eq_ok found
  obtain ⟨costumes, n, worn⟩ := hw.wears who (lt_of_attribute there)
  cases there.symm.trans worn.has
  rw [Act.perform_bind, Act.perform_lift]
  refine Load.after_lift hw fun items elements => ?_
  cases elements
  rw [Act.perform_bind, Act.perform_lift]
  refine Load.after_lift hw fun choice named => ?_
  cases choice with
  | none => exact hw
  | some m => exact hw.pose (by simpa using lt_of_costumeNamed named) there

/-- The next costume is the one with the next number, and after the last one the first. -/
theorem advance_play (p : Player) (worn : (w.sprite who).Wears costumes n) :
    ((advance who).perform p).play w =
      (.ok (), w.updateSprite who (·.set .costume (Value.int ((n + 1) % costumes.length : Nat)))) := by
  have next : Value.arith? Number.add (Value.int n) (Value.int 1) = .ok (Value.int (n + 1 : Nat)) := rfl
  have set : Table.get? ((w.updateSprite who (·.set .costume (Value.int (n + 1 : Nat)))).sprite who).fields
      Attribute.costume.key = some (Value.int (n + 1 : Nat)) := by
    rw [sprite_updateSprite_self worn.current]
    exact Table.get?_put_self _ _ _
  have last : (Value.int (n + 1 : Nat)).same (Value.int costumes.length) = true ↔
      n + 1 = costumes.length := by
    show (Number.same (.int (n + 1 : Nat)) (.int costumes.length) = true) ↔ _
    simp only [Number.same, Number.compare?, beq_iff_eq, Option.some.injEq, compare_eq_iff_eq]
    omega
  rw [advance, Act.play_look_bind, worn.get?_costumes,
    Act.lift_ok_bind, show (Value.list costumes).length? = .ok costumes.length from rfl, Act.lift_ok_bind,
    Act.change, Act.play_bind_ok (Act.adjust_play p worn.current next), Act.play_bind_ok (Act.attr_play p set)]
  by_cases wraps : n + 1 = costumes.length
  · rw [if_pos (last.2 wraps), ← wraps, Nat.mod_self]
    show (Except.ok (), (w.updateSprite who _).updateSprite who _) = _
    rw [updateSprite_updateSprite]
    simp only [Function.comp_def, Sprite.set_set]
    rfl
  · rw [if_neg (fun same => wraps (last.1 same)), Nat.mod_eq_of_lt (by have := worn.lt; omega)]
    rfl

theorem dressed_advance (who : Nat) : ((advance who).perform p).Always (Dressed size) := by
  intro w hw
  by_cases there : who < w.sprites.length
  · obtain ⟨costumes, n, worn⟩ := hw.wears who there
    rw [advance_play p worn]
    exact hw.pose (Nat.mod_lt _ (Nat.zero_lt_of_lt worn.lt)) worn.has
  · have none : w.sprite who = default := by
      rw [World.sprite, List.getD_eq_getElem?_getD, List.getElem?_eq_none (Nat.le_of_not_lt there)]
      rfl
    rw [advance, Act.play_look_bind, none]
    exact hw

theorem updateSprite_worn (worn : (w.sprite who).Wears costumes n) :
    w.updateSprite who (·.set .costume (Value.int n)) = w :=
  updateSprite_same (congrArg (fun fields => { w.sprite who with fields }) (Table.put_of_get? worn.current))

/-- Steps to the next costume go round. -/
theorem next_iterate (p : Player) (flag : Value) (worn : (w.sprite me).Wears costumes n) (k : Nat) :
    (fun w => (((nextCostume.act me flag).perform p).play w).2)^[k] w =
      w.updateSprite me (·.set .costume (Value.int ((n + k) % costumes.length : Nat))) := by
  induction k with
  | zero =>
    rw [Nat.add_zero, Nat.mod_eq_of_lt worn.lt, updateSprite_worn worn]
    rfl
  | succ k ih =>
    have lt : (n + k) % costumes.length < costumes.length := Nat.mod_lt _ (Nat.zero_lt_of_lt worn.lt)
    have worn' := worn.set lt
    rw [← sprite_updateSprite_self worn.current fun s => s.set .costume _] at worn'
    rw [Function.iterate_succ_apply', ih]
    rw [act, Act.play_bind_ok (advance_play p worn'), updateSprite_updateSprite]
    simp only [Function.comp_def, Sprite.set_set, Nat.mod_add_mod]
    rfl

end Looks

/-! ## All other blocks -/

/-- What is asked for by blocks that neither choose a costume nor make a clone. -/
def Request.Bland : Request → Prop
  | .look | .record _ | .say _ _ | .setVariable _ _ _ | .setList _ _ _ | .showMonitor _ _ | .chance
  | .resetTimer _ | .sleep _ | .start _ _ | .delete _ | .stop | .tick | .run _ _ => True
  | .set _ a _ => a ≠ .costume
  | .log line => line.isEntry = false
  | _ => False

theorem Opcode.Makes.bland {op : Opcode} {r : Request} (h : op.Makes me r)
    (poses : ∀ b, op = .looks b → b ∉ Looks.posing) (clones : op ≠ .control .createClone) : r.Bland := by
  cases op with
  | looks b =>
    have other := poses b rfl
    cases r <;> simp_all [Opcode.Makes, Looks.Makes, Request.Bland]
    rcases h with rfl | rfl <;> simp
  | motion =>
    cases r <;> simp_all [Opcode.Makes, Motion.Makes, Request.Bland]
    rcases h with rfl | rfl | rfl <;> simp
  | operator | control | sensing | custom | flagClicked | data =>
    cases r <;> simp_all [Opcode.Makes, Operator.Makes, Control.Makes, Sensing.Makes, Data.Makes,
      Request.Bland]

theorem Arguments.Makes.bland {r : Request} (h : Arguments.Makes me r) : r.Bland := by
  cases r <;> simp_all [Arguments.Makes, Request.Bland]

theorem Request.Bland.admits {r : Request} (h : r.Bland) (a : r.Reply) : r.Admits (fun _ => True) a := by
  cases r with
  | attempt _ _ _ | invoke _ _ _ => exact h.elim
  | _ => trivial

theorem Player.Minds.dressed_bland (hp : p.Minds (Dressed size)) {r : Request} (bland : r.Bland) :
    (r.perform p).Always (Dressed size) := by
  intro w h
  have ordinary : r.Ordinary → Dressed size ((r.perform p).play w).2 := fun ordinary => by
    have alters := ordinary.alters p w
    have adds := alters.adds
    generalize ((r.perform p).play w).2 = w' at alters adds ⊢
    cases alters with
    | note _ hosts => exact h.idles (.aside ⟨⟨rfl, rfl, rfl, rfl, rfl⟩, rfl, rfl, id, adds⟩ hosts)
    | give i v changing _ costume =>
      refine h.give i v changing fun same => ?_
      obtain rfl | worn := List.mem_cons.1 same
      · exact absurd changing (by decide)
      · obtain ⟨_, rfl⟩ := costume (List.mem_singleton.1 worn)
        exact bland rfl
    | storeVariable holder id text => exact h.putData holder .vars id _
    | storeList holder id items => exact h.putData holder .lists id _
  have runtime : r.Runtime → Dressed size ((r.perform p).play w).2 := fun runtime => by
    have manages := runtime.manages p w
    generalize ((r.perform p).play w).2 = w' at manages ⊢
    cases manages with
    | goOn ended _ => exact h.idles (.aside (.of_log ⟨rfl, rfl, rfl, rfl, rfl⟩ rfl rfl ended rfl) rfl)
    | clone _ | bind _ _ _ _ => exact bland.elim
    | delete i =>
      refine h.turn i .deleteClone fun _ n worn => ⟨n, ?_⟩
      rcases deleteClone_eq (w.sprite i) with same | same <;> rw [same]
      · exact worn
      · exact worn.put _ (by decide)
  cases r with
  | run i flag => exact hp.run i flag true w h
  | look | record _ | set _ _ _ | say _ _ | setVariable _ _ _ | setList _ _ _ | showMonitor _ _ | chance
  | resetTimer _ | sleep _ => exact ordinary trivial
  | log line => exact ordinary bland
  | start _ _ | delete _ | stop | tick => exact runtime trivial
  | _ => exact bland.elim

section

variable (hp : p.Minds (Dressed size))

include hp

theorem Player.Minds.dressed_takes : ((Arguments.eval me flag).perform p).Always (Dressed size) := by
  exact (Arguments.sends_eval fun _ => Arguments.Makes.bland).always (fun _ h => h.admits) fun _ => hp.dressed_bland

/-- A clone is made by a sprite that has the block, or by that of a monitor, so the sprite is there. -/
theorem Control.dressed_createClone (given : flag.isNull = false ∨ me < size) :
    ((createClone.act me flag).perform p).Always (Dressed size) := by
  have starts : ∀ clone blocks, ((startScripts clone blocks).perform p).Always (Dressed size) := by
    intro clone blocks
    have sends : (startScripts clone blocks).Sends (fun _ => True) Request.Bland fun _ => True :=
      sends_startScripts (b := .wait) (G := fun _ => True)
        (fun r (makes : (Opcode.control .wait).Makes me r) _ => makes.bland (by simp) (by simp)) _ _
    exact sends.always (fun _ h => h.admits) fun _ => hp.dressed_bland
  intro w hw
  have taken : (((Arguments.eval me flag).perform p).play w).2.Dressed size := hp.dressed_takes w hw
  have path : w.Path False (((Arguments.eval me flag).perform p).play w).2 :=
    ((hw.orderly.stays_within hp.unfolds me (TakesWithin.of_asked fun _ => .of_asked)).always w .refl).path
  rw [act, Act.perform_bind, play_bind]
  rcases he : ((Arguments.eval me flag).perform p).play w with ⟨e | args, w'⟩ <;> rw [he] at taken path
  · exact taken
  have there : me < w'.sprites.length := by
    rcases given with given | host
    · refine Nat.lt_of_lt_of_le ?_ path.later.length
      rw [Arguments.eval, if_neg (by simp [given]), Act.play_look_bind, Act.perform_bind, Act.perform_lift] at he
      rcases hb : w.block? me flag with f | b <;> rw [hb] at he
      · cases he
      · exact lt_of_attribute (hw.orderly.block?_eq hb).1
    · exact Nat.lt_of_lt_of_le host taken.size_le
  have added : ((Act.ask (.addClone me) .ret : Act Nat).perform p).play w' =
      (.ok w'.sprites.length, w'.addClone me) := rfl
  simp only [Act.perform_bind, Act.perform_look, Act.perform_lift]
  rw [play_get_bind]
  refine Load.after_lift taken fun _ _ => ?_
  rw [play_bind_ok added]
  exact Run.Always.bind .get (fun w => .bind (.lift _) fun blocks => .bind (starts _ blocks) fun _ => .pure _)
    _ (taken.addClone there)

end

theorem upkeep_dressed (size : Nat) : World.Upkeep (· < size) (Dressed size) where
  orderly h := h.orderly
  hosts _ h := h.hosts
  rests h rests := h.idles rests.toIdles
  binds h i name v := h.idles (.bind i _ name v)
  acts {p} hp op call me flag given := by
    have takes : ((Arguments.eval me flag).perform p).Always (Dressed size) := hp.dressed_takes
    by_cases clones : op = .control .createClone
    · subst clones
      exact Control.dressed_createClone hp given
    by_cases poses : ∃ b ∈ Looks.posing, op = .looks b
    · obtain ⟨b, mem, rfl⟩ := poses
      simp only [Looks.posing, List.mem_cons, List.not_mem_nil, or_false] at mem
      rcases mem with rfl | rfl | rfl | rfl
      all_goals simp only [Opcode.act, Looks.act, Act.perform_bind, Act.perform_look, Act.perform_lift]
      · exact .bind takes fun args => .bind (Looks.dressed_switchTo me _) fun _ => .pure _
      · exact .bind (Looks.dressed_advance me) fun _ => .pure _
      · refine .bind takes fun args => .bind .get fun w => .bind (.lift _) fun stage => ?_
        exact .bind (Looks.dressed_switchTo stage _) fun _ => .pure _
      · refine .bind .get fun w => .bind (.lift _) fun stage => ?_
        exact .bind (Looks.dressed_advance stage) fun _ => .pure _
    · refine (Opcode.sends_act call (Arguments.sends_eval fun _ => Arguments.Makes.bland)
        fun r makes => ?_).always (fun _ h => h.admits) fun _ => hp.dressed_bland
      exact makes.bland (fun b same poses' => poses ⟨b, poses', same⟩) clones
  assigns p me id v := by
    have sends : (Data.assign me id v).Sends (fun _ => True)
        (fun r => r = .look ∨ ∃ holder id text, r = .setVariable holder id text) fun _ => True :=
      Data.sends_assign (.inl rfl) (fun _ _ _ => .inr ⟨_, _, _, rfl⟩) id v
    refine sends.always (by rintro _ (rfl | ⟨_, _, _, rfl⟩) a <;> trivial) ?_
    rintro _ (rfl | ⟨holder, id, text, rfl⟩) w hw
    · exact hw
    · exact hw.putData holder .vars id _

/-! ## Sessions -/

theorem Load.hosted_project (archive : Archive) (host : Host) :
    let w := ((project archive).play (World.empty host)).2
    (∀ i ∈ w.cast ++ w.hosts, i < w.sprites.length) ∧ ∀ i, w.stage = some i → i < w.sprites.length := by
  refine always_loaded (J := fun w => (∀ i ∈ w.cast ++ w.hosts, i < w.sprites.length) ∧
    ∀ i, w.stage = some i → i < w.sprites.length) ?_ ?_ ?_ _ ⟨nofun, nofun⟩
  · intro w w' h settles
    rw [settles.cast, settles.hosts, settles.sprites, settles.stage]
    exact h
  · rintro w given s kit named stage ⟨there, staged⟩ - - hstage
    rw [length_addSprite]
    refine ⟨fun i mem => ?_, fun i hi => ?_⟩
    · rw [addSprite, List.append_assoc, List.mem_append, List.mem_append, List.mem_singleton] at mem
      rcases mem with mem | rfl | mem
      · exact Nat.lt_succ_of_lt (there i (List.mem_append_left _ mem))
      · exact Nat.lt_succ_self _
      · exact Nat.lt_succ_of_lt (there i (List.mem_append_right _ mem))
    · rcases hstage with rfl | rfl
      · exact Nat.lt_succ_of_lt (staged i hi)
      · cases hi
        exact Nat.lt_succ_self _
  · rintro w stage fields place owner ⟨there, staged⟩ hstage
    refine ⟨fun i mem => ?_, staged⟩
    rw [World.hosts, List.map_append, ← List.append_assoc, List.mem_append] at mem
    rcases mem with mem | mem
    · exact there i mem
    · rw [List.map_singleton, List.mem_singleton] at mem
      subst mem
      show monitorSprite w stage owner < _
      rw [monitorSprite]
      rcases hl : List.getLast? _ with _ | j
      · exact staged stage hstage
      · exact there j (List.mem_append_left _ (List.mem_of_mem_filter (List.mem_of_getLast? hl)))

namespace Session

variable {archive : Archive} {host : Host} {w0 w' : World}

theorem Passes.dressed (h : Passes w w') (hw : w.Dressed size) : w'.Dressed size := by
  have keeps := upkeep_dressed size
  have upholds : Upholds (Dressed size) := keeps.upholds (fun hw h => hw.idles (.aside h.toAside h.hosts))
    fun hw => hw.idles (.aside (.finish _))
  cases h with
  | does h => exact upholds.does hw h
  | within depth me flag next => exact (keeps.minds_player depth).run me flag next w hw
  | cleared => exact ⟨cleared_orderly hw.orderly, hw.wears, hw.players, hw.stage, hw.hosts, hw.size_le⟩

theorem Reaches.dressed (h : Reaches w w') (hw : w.Dressed size) : w'.Dressed size := by
  induction h with
  | refl => exact hw
  | tail _ passes ih => exact passes.dressed ih

theorem numberOrName_play (p : Player) (worn : (w.sprite me).Wears costumes n) {costume : Value}
    (shown : costumes[n]? = some costume) : ((Looks.numberOrName me (.text "number")).perform p).play w =
        (.ok (.text (Value.int (n + 1)).asText), w) ∧
      ((Looks.numberOrName me (.text "name")).perform p).play w =
        (do return .text (← costume.field? "name").asText : Run Value).play w := by
  constructor
  · rw [Looks.numberOrName, if_pos (by decide), Act.play_bind_ok (Act.attr_play p worn.current)]
    rfl
  · rw [Looks.numberOrName, if_neg (by decide), if_pos (by decide), Act.play_look_bind, worn.get?_costumes,
      Act.lift_ok_bind, Act.play_bind_ok (Act.attr_play p worn.current), worn.index? shown, Act.lift_ok_bind,
      Act.perform_bind, Act.perform_lift]
    rfl

/-- A project whose prototypes are written in literals and whose opcodes name no attributes of all objects, and
whose sprites all start in one of their costumes. Whatever sessions make of it, each sprite, each clone and the
stage shows one of its costumes, which is drawn and told. As many next costumes as there are lead back to the
same world. -/
theorem costumes_are_there (loads : archive.Loads host w0)
    (distinct : ∀ s ∈ w0.sprites, s.fields.keys.Nodup) (literal : w0.Literal) (named : w0.Named)
    (start : ∀ s ∈ w0.sprites, ∃ costumes n, s.Wears costumes n) :
    (∀ steps answers, (∀ step ∈ steps, step.Scripted) → play host archive steps = .ok answers →
      ∀ answer ∈ answers, Reaches w0 answer.world) ∧
    ∀ w, Reaches w0 w → ∀ i, i ∈ w.players ∨ w.stage = some i →
      ∃ costumes n costume, (w.sprite i).Wears costumes n ∧ costumes[n]? = some costume ∧
        (∀ images, Stage.picture images (w.sprite i) = Stage.pictureIn costume images (w.sprite i)) ∧
        ∀ p,
          ((Looks.numberOrName i (.text "number")).perform p).play w =
            (.ok (.text (Value.int (n + 1)).asText), w) ∧
          ((Looks.numberOrName i (.text "name")).perform p).play w =
            (do return .text (← costume.field? "name").asText : Run Value).play w ∧
          ∀ flag, (fun w => (((Looks.nextCostume.act i flag).perform p).play w).2)^[costumes.length] w = w := by
  have orderly : w0.Orderly False := Load.orderly_project loads distinct literal fun _ => named
  obtain ⟨hosted, staged⟩ := Load.hosted_project archive host
  have fresh := Load.fresh_project archive host
  rw [loads] at hosted staged fresh
  have dressed : w0.Dressed w0.sprites.length := by
    refine ⟨orderly, fun i lt => ?_, fun i mem => ?_, staged, fun i mem => ?_, Nat.le_refl _⟩
    · have there : w0.sprite i = w0.sprites[i] := by
        rw [World.sprite, List.getD_eq_getElem?_getD, List.getElem?_eq_getElem lt]
        rfl
      exact there ▸ start _ (List.getElem_mem lt)
    · rw [World.players, fresh.clones, List.append_nil] at mem
      exact fresh.cast i mem
    · exact hosted i (List.mem_append_right _ mem)
  constructor
  · intro steps answers scripted played
    exact answers_keep (fun came does => came.tail (.does does)) (fun w came => came.tail (.cleared w)) loads
      .refl scripted played
  · intro w came i mem
    have hw := came.dressed dressed
    obtain ⟨costumes, n, worn⟩ := hw.wears i (mem.elim (hw.players i) (hw.stage i))
    have shown := List.getElem?_eq_getElem worn.lt
    refine ⟨costumes, n, _, worn, shown, worn.picture_eq shown, fun p => ?_⟩
    obtain ⟨number, name⟩ := numberOrName_play p worn shown
    refine ⟨number, name, fun flag => ?_⟩
    rw [Looks.next_iterate p flag worn, Nat.add_mod_right, Nat.mod_eq_of_lt worn.lt,
      Looks.updateSprite_worn worn]

end Session

/-! ## A wardrobe, and costumes that are not there -/

/-- What a target says of its costumes, and of the one that it starts in. -/
def Archive.dresses (names : List String) (n : Nat) : Table Value :=
  [("costumes", .list (names.map fun name => .record [("name", .text name)])), ("currentCostume", Value.int n)]

/-- A sprite in the last of its costumes, with a block for the next one, and one that makes a clone. -/
def wardrobe : Archive := .ofTargets [
  Archive.target "Stage" true [] [] [] (Archive.dresses ["day", "night"] 0),
  Archive.target "Cat" false [] [] [("m", .plain "control_create_clone_of" []), ("n", .plain "looks_nextcostume" [])]
    (Archive.dresses ["coat", "hat"] 1)]

theorem wardrobe_starts : ∀ s ∈ wardrobe.world.sprites, ∃ costumes n, s.Wears costumes n := by
  rintro s (⟨⟩ | ⟨_, ⟨⟩ | ⟨_, ⟨⟩⟩⟩)
  · exact ⟨_, 0, rfl, rfl, by decide⟩
  · exact ⟨_, 1, rfl, rfl, by decide⟩

/-- The clone goes on from the last costume to the first. -/
theorem Session.costumes_are_there_wardrobe : let w0 := wardrobe.world
    let w := w0.afterRuns [(1, .text "m", true), (2, .text "n", true)]
    ((∀ s ∈ w0.sprites, s.fields.keys.Nodup) ∧ (w0.Literal ∧ w0.Named) ∧
      ∀ s ∈ w0.sprites, ∃ costumes n, s.Wears costumes n) ∧
      Reaches w0 w ∧ ((w.sprite 1).attribute? .costume).map Value.whole? = .ok (some 1) ∧
      ∃ costumes costume, (w.sprite 2).Wears costumes 0 ∧ costumes[0]? = some costume ∧
        ∀ images, Stage.picture images (w.sprite 2) = Stage.pictureIn costume images (w.sprite 2) := by
  intro w0 w
  have loads : wardrobe.Loads {} w0 := Prod.ext rfl rfl
  have distinct : ∀ s ∈ w0.sprites, s.fields.keys.Nodup := by decide +kernel
  have bare : w0.Literal ∧ w0.Named := World.named_of_bare (by decide +kernel)
  have reaches : Reaches w0 w :=
    (Relation.ReflTransGen.single (.does (.ran 1 (.text "m") true))).tail (.does (.ran 2 (.text "n") true))
  have shows : ((w.sprite 2).attribute? .costume).map Value.whole? = .ok (some 0) := by decide +kernel
  obtain ⟨-, there⟩ := costumes_are_there loads distinct bare.1 bare.2 wardrobe_starts
  obtain ⟨costumes, n, costume, worn, shown, drawn, -⟩ := there w reaches 2 (.inl (by decide +kernel))
  rw [worn.attribute?] at shows
  obtain rfl : n = 0 := Int.ofNat_inj.1 (Option.some.inj (Except.ok.inj shows))
  exact ⟨⟨distinct, bare, wardrobe_starts⟩, reaches, by decide +kernel, costumes, costume, worn, shown,
    drawn⟩

/-- Names of parameters that are read by setting the number of the costume put it outside, and a block that
is named for the attribute removes it. Then the sprite cannot be drawn. -/
theorem costumes_are_lost :
    let project blocks := (Archive.ofTargets [Archive.target "Cat" false [] [] blocks (Archive.dresses ["coat"] 0)]).world
    let set := ((runBlock 0 (.text "c")).play
      (project (customBlock "[setattr(self,\"currentCostume\",5) or \"n\"]"))).2
    let dropped := ((runBlock 0 (.text "currentCostume")).play
      (project [("currentCostume", .plain "__delattr__" [])])).2
    ((set.sprite 0).attribute? .costume).map Value.whole? = .ok (some 5) ∧
      ((Stage.picture [] (set.sprite 0)).react ()).1.map (fun _ => ()) = .error .outOfRange ∧
      (Session.playTurn (.round ⟨⟨[]⟩, []⟩) set).1 = false ∧
      ((dropped.sprite 0).attribute? .costume).map Value.whole? = .error .missingMember := by
  decide +kernel

end BlockStage
