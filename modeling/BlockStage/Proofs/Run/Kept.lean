import BlockStage.Proofs.Run.Play
import BlockStage.Proofs.Run.Yields

/-!
# What ordinary requests keep

Most requests only look around, write into the log, or change the data and the look of a sprite. They leave
alone what decides how a script goes on. `Request.Ordinary.alters` says once what they do, and
`World.Alters.kept` what they keep, as the relation `World.Kept` between worlds.
-/

namespace BlockStage

open Run

/-- The attributes of a sprite that ordinary requests change. -/
def changingKeys : List String :=
  ["x", "y", "direction", "size", "visible", "currentCostume", "words", "time", "variables", "lists"]

theorem World.sprite_updateSprite (w : World) (i me : Nat) (f : Sprite → Sprite) :
    (w.updateSprite i f).sprite me = w.sprite me ∨
      (w.updateSprite i f).sprite me = f (w.sprite me) := by
  unfold World.sprite World.updateSprite
  rw [List.getD_eq_getElem?_getD, List.getElem?_modify, List.getD_eq_getElem?_getD]
  rcases w.sprites[me]? with _ | s <;> by_cases hi : i = me <;> simp [hi]

theorem World.sprite_addClone (w : World) (me : Nat) : (w.addClone me).sprite w.sprites.length =
      (w.sprite me).reset.put CloneMode.key CloneMode.clone.value := by
  simp [World.addClone, World.sprite]

theorem World.sprite_addClone_of_lt (w : World) (i : Nat) {j : Nat} (there : j < w.sprites.length) :
    (w.addClone i).sprite j = w.sprite j := by
  rw [World.sprite, World.sprite, World.addClone, List.getD_eq_getElem?_getD,
    List.getElem?_append_left there, List.getD_eq_getElem?_getD]

/-- A block is found by its name in the table of the sprite. -/
theorem World.block?_eq_ok {w : World} {me : Nat} {flag : Value} {b : Block} (h : w.block? me flag = .ok b) :
    ∃ t id, w.blocks? me = .ok t ∧ flag = .text id ∧ Table.get? t id = some b := by
  rw [World.block?] at h
  rcases ht : w.blocks? me with f | t <;> rw [ht] at h
  · cases h
  cases flag with
  | text id =>
    simp only [Value.find?, bind, Except.bind] at h
    split at h
    · next found =>
      cases h
      exact ⟨t, id, rfl, rfl, found⟩
    · cases h
  | _ => cases h

/-- Sprite `me` is still what it was, with the same blocks, in a program that is as it was. -/
structure World.Kept (me : Nat) (w w' : World) : Prop where
  attributes : ∀ key, key ∉ changingKeys →
    Table.get? (w'.sprite me).fields key = Table.get? (w.sprite me).fields key
  kit : (w'.sprite me).kit = (w.sprite me).kit
  blocks : ∀ k, (w'.kit k).blocks = (w.kit k).blocks
  done : w'.done = w.done
  fuel : w'.fuel ≤ w.fuel
  memory : w'.memory = w.memory

namespace World.Kept

variable {me : Nat} {w w' w'' : World}

theorem refl (me : Nat) (w : World) : w.Kept me w :=
  ⟨fun _ _ => rfl, rfl, fun _ => rfl, rfl, Int.le_refl _, rfl⟩

theorem trans (h : w.Kept me w') (h' : w'.Kept me w'') : w.Kept me w'' where
  attributes key hkey := (h'.attributes key hkey).trans (h.attributes key hkey)
  kit := h'.kit.trans h.kit
  blocks k := (h'.blocks k).trans (h.blocks k)
  done := h'.done.trans h.done
  fuel := Int.le_trans h'.fuel h.fuel
  memory := h'.memory.trans h.memory

theorem get? (h : w.Kept me w') {key : String} (hkey : key ∉ changingKeys) :
    (w'.sprite me).get? key = (w.sprite me).get? key := by
  rw [Sprite.get?, Sprite.get?, h.attributes key hkey]

theorem blocks? (h : w.Kept me w') : w'.blocks? me = w.blocks? me := by
  rw [World.blocks?, World.blocks?, h.get? (by decide), h.kit, h.blocks]

theorem name? (h : w.Kept me w') : (w'.sprite me).name? = (w.sprite me).name? :=
  h.get? (by decide)

theorem hasMode? (h : w.Kept me w') (m : CloneMode) :
    (w'.sprite me).hasMode? m = (w.sprite me).hasMode? m := by
  rw [Sprite.hasMode?, Sprite.hasMode?, h.get? (by decide)]

theorem hides (h : w.Kept me w') {name : String} (hname : name ∉ changingKeys) :
    (w'.sprite me).hides name = (w.sprite me).hides name := by
  rw [Sprite.hides, Sprite.hides, Table.has, Table.has, h.attributes name hname]

theorem enter (sprite opcode : String) : w.Kept me (w.enter sprite opcode) :=
  ⟨fun _ _ => rfl, rfl, fun _ => rfl, rfl, Int.sub_le_self _ (by decide), rfl⟩

theorem noteFailure (flag : Value) (f : Fault) : w.Kept me (w.noteFailure flag f) :=
  ⟨fun _ _ => rfl, rfl, fun _ => rfl, rfl, Int.le_refl _, rfl⟩

theorem updateSprite (i : Nat) {f : Sprite → Sprite} (attributes : ∀ s key, key ∉ changingKeys →
      Table.get? (f s).fields key = Table.get? s.fields key)
    (kit : ∀ s, (f s).kit = s.kit) : w.Kept me (w.updateSprite i f) := by
  refine ⟨fun key hkey => ?_, ?_, fun _ => rfl, rfl, Int.le_refl _, rfl⟩
  · rcases w.sprite_updateSprite i me f with h | h <;> rw [h]
    exact attributes _ key hkey
  · rcases w.sprite_updateSprite i me f with h | h <;> rw [h]
    exact kit _

theorem put (i : Nat) {key : String} (v : Value) (hkey : key ∈ changingKeys) :
    w.Kept me (w.updateSprite i (·.put key v)) :=
  updateSprite i (fun s other hother => by
    have ne : key ≠ other := fun h => hother (h ▸ hkey)
    exact Table.get?_put_of_ne s.fields v ne) fun _ => rfl

theorem putData (holder : World.Holder) (part : DataKind) (id : String) (v : Value) :
    w.Kept me (w.putData holder part id v) := by
  cases holder with
  | kit k =>
    refine ⟨fun _ _ => rfl, rfl, fun j => ?_, rfl, Int.le_refl _, rfl⟩
    unfold World.putData World.updateKit World.kit
    rw [List.getD_eq_getElem?_getD, List.getElem?_modify, List.getD_eq_getElem?_getD]
    rcases w.kits[j]? with _ | kit <;> by_cases hk : k = j <;> simp [hk]
    cases part <;> rfl
  | own i =>
    refine updateSprite i (fun s other hother => ?_) fun s => ?_
    · have ne : part.key ≠ other := by
        rintro rfl
        exact hother (by cases part <;> decide)
      split
      · exact Table.get?_put_of_ne s.fields _ ne
      · rfl
    · split <;> rfl

end World.Kept

/-- The sprites of the monitors. -/
def World.hosts (w : World) : List Nat := w.monitors.map Monitor.sprite

/-- What a monitor says of itself is no matter of its sprite. -/
theorem World.hosts_modify (w : World) (index : Nat) (key : String) (v : Value) :
    hosts { w with monitors := w.monitors.modify index (·.put key v) } = w.hosts := by
  refine List.ext_getElem? fun j => ?_
  rw [World.hosts, World.hosts, List.getElem?_map, List.getElem?_map, List.getElem?_modify]
  rcases w.monitors[j]? with _ | m <;> by_cases this : index = j <;> simp [this, Monitor.put]

/-! ## Ordinary requests -/

namespace Request

/-- The requests that only look around, note something down, or change data and looks. That a block is
entered is not theirs to note. -/
def Ordinary : Request → Prop
  | .log line => line.isEntry = false
  | .look | .record _ | .set _ _ _ | .say _ _ | .setVariable _ _ _ | .setList _ _ _
  | .showMonitor _ _ | .resetTimer _ | .chance | .sleep _ => True
  | _ => False

@[simp] theorem ordinary_look : look.Ordinary := trivial

@[simp] theorem ordinary_sleep (seconds : Float) : (sleep seconds).Ordinary := trivial

@[simp] theorem ordinary_log (line : LogLine) : (log line).Ordinary ↔ line.isEntry = false := Iff.rfl

end Request

/-- What an ordinary request does: it notes something down, gives a sprite an attribute that is no data, or
stores an entry. -/
inductive World.Alters (w : World) : Request → World → Prop
  | note {r : Request} {log : Array LogLine} {calls : Array Call} {printed : String} {host : Host}
    {monitors : List Monitor} (adds : log = w.log ∨ ∃ line, line.isEntry = false ∧ log = w.log.push line)
    (hosts : monitors.map Monitor.sprite = w.hosts) :
    Alters w r { w with log, calls, printed, host, monitors }
  | give {r : Request} (i : Nat) {key : String} (v : Value) (changing : key ∈ changingKeys)
    (other : ∀ part : DataKind, key ≠ part.key)
    (costume : key = "currentCostume" → ∃ v, r = .set i .costume v) : Alters w r (w.updateSprite i (·.put key v))
  | storeVariable (holder : World.Holder) (id text : String) :
    Alters w (.setVariable holder id text) (w.putData holder .vars id (.text text))
  | storeList (holder : World.Holder) (id : String) (items : List Value) :
    Alters w (.setList holder id items) (w.putData holder .lists id (.list items))

/-- An ordinary request keeps the sprite and its blocks, whatever comes of it. -/
theorem World.Alters.kept {w w' : World} {r : Request} (h : w.Alters r w') (me : Nat) : w.Kept me w' := by
  cases h with
  | note _ _ => exact ⟨fun _ _ => rfl, rfl, fun _ => rfl, rfl, Int.le_refl _, rfl⟩
  | give i v changing _ _ => exact .put i v changing
  | storeVariable holder id text => exact .putData holder .vars id _
  | storeList holder id items => exact .putData holder .lists id _

namespace Request

variable {r : Request}

theorem Ordinary.alters (p : Player) (h : r.Ordinary) (w : World) :
    w.Alters r ((r.perform p).play w).2 := by
  have same : ∀ {r : Request}, w.Alters r w := .note (.inl rfl) rfl
  have given : ∀ {r : Request} (i : Nat) {key : String} (v : Value), key ∈ changingKeys →
      key ∉ ["currentCostume", "variables", "lists"] → w.Alters r (w.updateSprite i (·.put key v)) := by
    intro r i key v changing other
    refine .give i v changing (fun part => ?_) ?_
    · rintro rfl
      exact other (by cases part <;> decide)
    · rintro rfl
      exact absurd other (by decide)
  cases r with
  | look => exact same
  | log line => exact .note (.inr ⟨line, h, rfl⟩) rfl
  | record call =>
    obtain ⟨calls, printed, noted⟩ := w.record_eq call
    show w.Alters _ (w.record call)
    rw [noted]
    exact .note (.inl rfl) rfl
  | set i a v =>
    refine .give i v (by cases a <;> decide) (fun part => by cases a <;> cases part <;> decide) fun costume => ⟨v, ?_⟩
    cases a <;> first | rfl | exact absurd costume (by decide)
  | say i words => exact given i _ (by decide) (by decide)
  | setVariable holder id text => exact .storeVariable holder id text
  | setList holder id items => exact .storeList holder id items
  | showMonitor index visible => exact .note (.inl rfl) (w.hosts_modify index _ _)
  | chance => exact .note (.inl rfl) rfl
  | resetTimer i =>
    rw [perform, play_get_bind]
    rcases w.host.time with f | now
    · exact same
    · exact given i _ (by decide) (by decide)
  | sleep seconds =>
    rw [perform, play_get_bind]
    rcases w.host.pause? seconds with f | ms
    · exact same
    · exact .note (.inl rfl) rfl
  | _ => exact h.elim

/-- An ordinary request fails with an error at most. -/
theorem Ordinary.mild (p : Player) (h : r.Ordinary) (w : World) {e : Stop}
    (failed : ((r.perform p).play w).1 = .error e) : ∃ f : Fault, e = .fault f := by
  cases r with
  | resetTimer i =>
    rw [perform, play_get_bind] at failed
    rcases time : w.host.time with f | now <;> rw [time] at failed <;> cases failed
    exact ⟨f, rfl⟩
  | sleep seconds =>
    rw [perform, play_get_bind] at failed
    rcases pause : w.host.pause? seconds with f | ms <;> rw [pause] at failed <;> cases failed
    exact ⟨f, rfl⟩
  | look | log _ | record _ | set _ _ _ | say _ _ | setVariable _ _ _ | setList _ _ _ | showMonitor _ _
  | chance => cases failed
  | _ => exact h.elim

end Request

end BlockStage
