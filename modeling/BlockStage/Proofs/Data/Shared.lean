import BlockStage.Proofs.Clone.Scripts
import BlockStage.Proofs.Custom.Bound
import BlockStage.Proofs.Data.ListNames
import BlockStage.Proofs.Run.Tame
import BlockStage.Proofs.Script.Chain

/-!
# The data of a sprite and its clones

A sprite and its clone keep their data in one kit, and no script gives either a table of its own
(`stable_usesKit`). So what one of them writes the other reads: `clone_shares_data`.
-/

namespace BlockStage

open Run

variable {old v : Value} {w : World} {id : String} {c : Footing}

namespace World

/-! ## Where data is kept -/

variable {w w' : World} {i j k : Nat} {part : DataKind} {holder : Holder}

theorem data?_eq_ok (h : w.data? i part = .ok (holder, v)) :
    (holder = .kit (w.sprite i).kit ∧ Table.get? (w.sprite i).fields part.key = some .shared ∧
        v = .record ((w.kit (w.sprite i).kit).get part)) ∨
      (holder = .own i ∧ Table.get? (w.sprite i).fields part.key = some v ∧ v ≠ .shared) := by
  unfold data? Sprite.get? at h
  split at h
  · next value found =>
    cases value with
    | shared => cases h; exact .inl ⟨rfl, found, rfl⟩
    | _ => cases h; exact .inr ⟨rfl, found, by simp⟩
  · cases h

theorem data?_shared (h : Table.get? (w.sprite i).fields part.key = some .shared) :
    w.data? i part = .ok (.kit (w.sprite i).kit, .record ((w.kit (w.sprite i).kit).get part)) := by
  rw [data?, Sprite.get?, h]
  rfl

theorem data?_own (h : Table.get? (w.sprite i).fields part.key = some v)
    (hv : v ≠ .shared) : w.data? i part = .ok (.own i, v) := by
  rw [data?, Sprite.get?, h]
  cases v with
  | shared => exact absurd rfl hv
  | _ => rfl

theorem data?_of_holder {u : Value} (hi : w.data? i part = .ok (holder, u))
    (hj : w.data? j part = .ok (holder, v)) : u = v := by
  rcases data?_eq_ok hi with ⟨rfl, -, rfl⟩ | ⟨rfl, found, -⟩
  · rcases data?_eq_ok hj with ⟨same, -, rfl⟩ | ⟨other, -⟩
    · rw [Holder.kit.inj same]
    · cases other
  · rcases data?_eq_ok hj with ⟨other, -⟩ | ⟨same, found', -⟩
    · cases other
    · cases same
      exact Option.some.inj (found.symm.trans found')

/-- A sprite with a table of its own gets an entry there, and one without is left alone. -/
theorem putData_own (w : World) (i : Nat) (part : DataKind) (id : String) (new : Value) :
    ∃ f : Sprite → Sprite, w.putData (.own i) part id new = w.updateSprite i f ∧
      (∀ s fields, Table.get? s.fields part.key = some (.record fields) →
        f s = s.put part.key (.record (Table.put fields id new))) ∧
      ∀ s, (∀ fields, Table.get? s.fields part.key ≠ some (.record fields)) → f s = s := by
  refine ⟨_, rfl, fun s fields h => by simp only [h], fun s h => ?_⟩
  split
  · next fields found => exact absurd found (h fields)
  · rfl

theorem data?_putData {fields : Table Value}
    (hj : w.data? j part = .ok (holder, .record fields)) (found : Table.get? fields id = some old)
    (new : Value) : (w.putData holder part id new).data? j part =
      .ok (holder, .record (Table.put fields id new)) := by
  rcases data?_eq_ok hj with ⟨rfl, shared, same⟩ | ⟨rfl, own, -⟩
  · cases same
    have there : (w.updateKit (w.sprite j).kit (·.put part id new)).kit (w.sprite j).kit =
        (w.kit (w.sprite j).kit).put part id new := by
      refine getD_modify (fun none => ?_) _
      rw [show w.kit (w.sprite j).kit = default from none] at found
      cases part <;> cases found
    have now := data?_shared (w := w.putData (.kit (w.sprite j).kit) part id new) shared
    have same : (w.putData (.kit (w.sprite j).kit) part id new).sprite j = w.sprite j := rfl
    rw [now, same, putData, there]
    cases part <;> rfl
  · obtain ⟨f, put, changes, -⟩ := w.putData_own j part id new
    refine data?_own ?_ (by simp)
    rw [put, sprite_updateSprite_self own, changes _ _ own]
    exact Table.get?_put_self _ _ _

theorem data?_putData_of_ne {other : Holder} (hj : w.data? j part = .ok (other, v))
    (h : other ≠ holder) (id : String) (new : Value) :
    (w.putData holder part id new).data? j part = .ok (other, v) := by
  rcases data?_eq_ok hj with ⟨rfl, shared, rfl⟩ | ⟨rfl, own, hv⟩
  · cases holder with
    | kit k =>
      have ne : k ≠ (w.sprite j).kit := fun same => h (same ▸ rfl)
      have now := data?_shared (w := w.putData (.kit k) part id new) shared
      have same : (w.putData (.kit k) part id new).sprite j = w.sprite j := rfl
      rw [now, same, putData, kit_updateKit_of_ne w ne]
    | own i =>
      obtain ⟨f, put, -, leaves⟩ := w.putData_own i part id new
      have same : (w.updateSprite i f).sprite j = w.sprite j := by
        rcases w.sprite_updateSprite i j f with same | same
        · exact same
        · rw [same, leaves _ (by simp [shared])]
      rw [put, data?_shared (same ▸ shared), same]
      rfl
  · cases holder with
    | kit k => exact data?_own own hv
    | own i =>
      have ne : i ≠ j := fun same => h (same ▸ rfl)
      refine data?_own ?_ hv
      rw [putData, sprite_updateSprite_of_ne w ne]
      exact own

/-- An entry of a table of data, or else what is found elsewhere. -/
def entryOr (place : Holder × Value) (id : Value) (rest : Except Fault (Option (Holder × Value))) :
    Except Fault (Option (Holder × Value)) := do
  if ← place.2.contains? id then return some (place.1, ← place.2.index? id)
  rest

theorem visible?_eq (w : World) (i : Nat) (part : DataKind) (id : Value) : w.visible? i part id =
    w.stage? >>= fun stage => w.data? stage part >>= fun place =>
      entryOr place id (w.data? i part >>= fun place => entryOr place id (pure none)) := rfl

theorem entryOr_eq_some {place : Holder × Value} {rest : Except Fault (Option (Holder × Value))} :
    entryOr place (.text id) rest = .ok (some (holder, v)) ↔
      (∃ fields, place = (holder, .record fields) ∧ Table.get? fields id = some v) ∨
        (place.2.contains? (.text id) = .ok false ∧ rest = .ok (some (holder, v))) := by
  obtain ⟨first, table⟩ := place
  unfold entryOr
  cases table with
  | record fields =>
    rcases found : Table.get? fields id with _ | u <;>
      simp [Value.contains?, Value.find?, Value.index?, Value.field?, Except.map, found, bind,
        Except.bind, pure, Except.pure]
  | text s =>
    cases inside : Value.isInfix id.toList s.toList <;>
      simp [Value.contains?, Value.index?, bind, Except.bind, inside]
  | list items =>
    cases inside : items.any fun a => a.alike (.text id) <;>
      simp [Value.contains?, Value.index?, bind, Except.bind, inside, -List.any_eq_true]
  | _ => simp [Value.contains?, bind, Except.bind]

/-- What is put where a sprite sees an entry is what every sprite sees that sees it there. -/
theorem visible?_putData (h : w.visible? i part (.text id) = .ok (some (holder, old))) (new : Value) :
    (w.putData holder part id new).visible? i part (.text id) = .ok (some (holder, new)) := by
  rw [visible?_eq] at h ⊢
  have stage : (w.putData holder part id new).stage? = w.stage? := by cases holder <;> rfl
  rw [stage]
  rcases hs : w.stage? with f | stage <;> rw [hs] at h
  · cases h
  change (w.data? stage part >>= _) = _ at h
  show ((w.putData holder part id new).data? stage part >>= _) = _
  rcases hd : w.data? stage part with f | ⟨first, table⟩ <;> rw [hd] at h
  · cases h
  rcases entryOr_eq_some.1 h with ⟨fields, same, found⟩ | ⟨absent, rest⟩
  · cases same
    rw [data?_putData hd found new]
    exact entryOr_eq_some.2 (.inl ⟨_, rfl, Table.get?_put_self _ _ _⟩)
  · rcases own : w.data? i part with f | ⟨second, table'⟩ <;> rw [own] at rest
    · cases rest
    rcases entryOr_eq_some.1 rest with ⟨fields, same, found⟩ | ⟨-, never⟩
    · cases same
      have ne : first ≠ holder := by
        rintro rfl
        cases data?_of_holder hd own
        simp [Value.contains?, Value.find?, Except.map, found] at absent
      rw [data?_putData_of_ne hd ne, data?_putData own found]
      refine entryOr_eq_some.2 (.inr ⟨absent, ?_⟩)
      exact entryOr_eq_some.2 (.inl ⟨_, rfl, Table.get?_put_self _ _ _⟩)
    · cases never

/-! ## Sprites that share their data -/

/-- Sprite `i` keeps its variables and lists in kit `k`. -/
structure UsesKit (w : World) (i k : Nat) : Prop where
  kit : (w.sprite i).kit = k
  shared : ∀ part : DataKind, Table.get? (w.sprite i).fields part.key = some .shared

/-- Sprites that keep their data in one kit see the same. -/
theorem UsesKit.visible? (hi : w.UsesKit i k) (hj : w.UsesKit j k) (part : DataKind) (id : Value) :
    w.visible? j part id = w.visible? i part id := by
  rw [visible?_eq, visible?_eq, data?_shared (hi.shared part), data?_shared (hj.shared part), hi.kit, hj.kit]

theorem UsesKit.there (h : w.UsesKit i k) : i < w.sprites.length := lt_of_attribute (h.shared .vars)

theorem UsesKit.of_sprites (h : w.UsesKit i k) (sprites : w'.sprites = w.sprites) : w'.UsesKit i k := by
  have same : w'.sprite i = w.sprite i := by rw [sprite, sprite, sprites]
  exact ⟨same ▸ h.kit, same ▸ h.shared⟩

theorem UsesKit.updateSprite (h : w.UsesKit i k) (j : Nat) {f : Sprite → Sprite} (kit : ∀ s, (f s).kit = s.kit)
    (shared : ∀ s (part : DataKind), Table.get? s.fields part.key = some .shared →
      Table.get? (f s).fields part.key = some .shared) : (w.updateSprite j f).UsesKit i k := by
  rcases w.sprite_updateSprite j i f with same | same
  · exact ⟨same ▸ h.kit, same ▸ h.shared⟩
  · exact ⟨same ▸ (kit _).trans h.kit, fun part => same ▸ shared _ part (h.shared part)⟩

theorem UsesKit.put (h : w.UsesKit i k) (j : Nat) {key : String} (v : Value)
    (other : ∀ part : DataKind, key ≠ part.key) : (w.updateSprite j (·.put key v)).UsesKit i k :=
  h.updateSprite j (fun _ => rfl) fun s part shared =>
    (Table.get?_put_of_ne s.fields v (other part)).trans shared

theorem UsesKit.addClone (h : w.UsesKit i k) (j : Nat) : (w.addClone j).UsesKit i k := by
  have same := w.sprite_addClone_of_lt j h.there
  exact ⟨same ▸ h.kit, same ▸ h.shared⟩

theorem UsesKit.clone (h : w.UsesKit i k) : (w.addClone i).UsesKit w.sprites.length k where
  kit := by
    rw [sprite_addClone]
    exact h.kit
  shared part := by
    rw [w.get?_addClone i (by cases part <;> decide)]
    exact h.shared part

theorem UsesKit.putData (h : w.UsesKit i k) (holder : Holder) (part : DataKind) (id : String) (v : Value) :
    (w.putData holder part id v).UsesKit i k := by
  cases holder with
  | kit n => exact h.of_sprites rfl
  | own j =>
    obtain ⟨f, put, changes, leaves⟩ := w.putData_own j part id v
    have either : ∀ s, f s = s ∨ ∃ fields, Table.get? s.fields part.key = some (.record fields) ∧
        f s = s.put part.key (.record (Table.put fields id v)) := fun s => by
      by_cases own : ∃ fields, Table.get? s.fields part.key = some (.record fields)
      · obtain ⟨fields, found⟩ := own
        exact .inr ⟨fields, found, changes s fields found⟩
      · exact .inl (leaves s fun fields found => own ⟨fields, found⟩)
    rw [put]
    refine h.updateSprite j (fun s => ?_) fun s other shared => ?_
    · rcases either s with same | ⟨fields, -, same⟩ <;> rw [same]
      rfl
    · rcases either s with same | ⟨fields, found, same⟩ <;> rw [same]
      · exact shared
      · have ne : part.key ≠ other.key := fun same => by
          rw [same, shared] at found
          cases found
        exact (Table.get?_put_of_ne s.fields _ ne).trans shared

theorem UsesKit.alters {r : Request} (h : w.UsesKit i k) (alters : w.Alters r w') : w'.UsesKit i k := by
  cases alters with
  | note _ _ => exact h.of_sprites rfl
  | give j v _ other _ => exact h.put j v other
  | storeVariable holder id text => exact h.putData holder .vars id _
  | storeList holder id items => exact h.putData holder .lists id _

theorem UsesKit.manages {r : Request} (h : w.UsesKit i k) (manages : w.Manages r w') : w'.UsesKit i k := by
  cases manages with
  | goOn _ _ => exact h.of_sprites rfl
  | clone j => exact h.addClone j
  | bind j _ _ _ => exact h.updateSprite j (fun _ => rfl) fun _ _ h => h
  | delete j =>
    refine h.updateSprite j (fun s => ?_) fun s part shared => ?_
    · rcases deleteClone_eq s with same | same <;> rw [same]
      rfl
    · rcases deleteClone_eq s with same | same <;> rw [same]
      · exact shared
      · exact (Table.get?_put_of_ne s.fields _ (by cases part <;> decide)).trans shared

theorem stable_usesKit (i k n : Nat) : Stable (Request.Tame n) fun w => w.UsesKit i k := by
  intro w w' hw move
  cases move with
  | apart h => exact hw.of_sprites h.sprites
  | @ask r p _ single tame =>
    rcases tame with ordinary | runtime | ⟨id, v, rfl, -⟩
    · exact hw.alters (ordinary.alters p w)
    · exact hw.manages (runtime.manages p w)
    · show UsesKit ((w.write? _ v).getD w) i k
      rcases w.written_mutation n id v with same | ⟨b, -, same⟩ <;> rw [same]
      · exact hw
      · exact hw.of_sprites rfl

end World

/-! ## Making a clone -/

open World

/-- A clone has a footing of its own, on the same blocks. -/
theorem Footing.Holds.clone (h : c.Holds w) :
    Footing.Holds { c with me := w.sprites.length } (w.addClone c.me) where
  name := by
    rw [Sprite.name?, Sprite.get?, w.get?_addClone c.me (by decide)]
    exact h.name
  mode := by
    rw [sprite_addClone, Sprite.put, Table.get?_put_self]
    rfl
  shared := (w.get?_addClone c.me (by decide)).trans h.shared
  arguments := by
    rw [sprite_addClone, Sprite.put, Table.get?_put_of_ne _ _ (by decide), Sprite.reset]
    exact Table.get?_put_self _ _ _
  kit := by
    rw [sprite_addClone]
    exact h.kit
  blocks := h.blocks
  plain := h.plain

theorem Control.apart_startScripts (p : Player) (clone : Nat) (blocks : List (String × Block)) (w : World) :
    w.Apart (((Control.startScripts clone blocks).perform p).play w).2 := by
  suffices always : ((Control.startScripts clone blocks).perform p).Always w.Apart from
    always w (.refl w)
  induction blocks with
  | nil => exact .pure _
  | cons b rest ih =>
    rw [Control.startScripts, Act.perform_bind, Act.perform_lift]
    refine .bind (.lift _) fun opcode => ?_
    split
    · simp only [Act.perform_bind, Act.perform_look, Act.perform_lift]
      refine .bind .get fun _ => .bind (.lift _) fun _ => .bind (fun w' h => ?_) fun _ => ih
      exact h.trans ⟨rfl, rfl, rfl, rfl, rfl⟩
    · exact ih

/-- A block that has made a clone took its arguments, added the clone and started its scripts. -/
theorem Control.createClone_ok {p : Player} {me : Nat} {flag : Value} {w2 : World}
    (made : ((Control.act me flag .createClone).perform p).play w = (.ok v, w2)) :
    ∃ args w1, ((Arguments.eval me flag).perform p).play w = (.ok args, w1) ∧
      (w1.addClone me).Apart w2 := by
  simp only [Control.act, Act.perform_bind, Act.perform_look, Act.perform_lift] at made
  obtain ⟨args, w1, taken, made⟩ := play_bind_eq_ok made
  refine ⟨args, w1, taken, ?_⟩
  rw [play_get_bind] at made
  obtain ⟨_, w', can, made⟩ := play_bind_eq_ok made
  obtain rfl : w1 = w' := by
    rw [play_lift] at can
    exact congrArg Prod.snd can
  have added : ((Act.ask (.addClone me) Act.ret).perform p).play w1 =
      (.ok w1.sprites.length, w1.addClone me) := rfl
  rw [play_bind_ok added, play_get_bind] at made
  obtain ⟨blocks, w', found, made⟩ := play_bind_eq_ok made
  obtain rfl : w1.addClone me = w' := by
    rw [play_lift] at found
    exact congrArg Prod.snd found
  obtain ⟨_, w', started, made⟩ := play_bind_eq_ok made
  cases made
  have apart := Control.apart_startScripts p w1.sprites.length blocks (w1.addClone me)
  rw [started] at apart
  exact apart

/-- A variable that a sprite sees is set where it is kept. -/
theorem Data.assign_play (p : Player) {me : Nat} {holder : Holder}
    (found : w.visible? me .vars (.text id) = .ok (some (holder, old))) (value : Value) :
    ((Data.assign me (.text id) value).perform p).play w =
      (.ok (), w.putData holder .vars id (.text value.asText)) := by
  rw [Data.assign, Act.play_look_bind, found]
  rfl

/-- Blocks that are run one after another, each given by whose it is, its flag, and whether those after it
are run too. -/
def World.afterRuns (w : World) (runs : List (Nat × Value × Bool)) : World :=
  runs.foldl (fun w r => ((runBlock r.1 r.2.1 r.2.2).play w).2) w

/-- A sprite and its clone, as all their scripts leave them. -/
structure World.Paired (c : Footing) (clone : Nat) (w : World) : Prop where
  own : c.Holds w
  cloned : Footing.Holds { c with me := clone } w
  data : w.UsesKit c.me c.kit
  same : w.UsesKit clone c.kit

theorem World.stable_paired (c : Footing) (clone : Nat) :
    Stable (Request.Tame c.kit) (World.Paired c clone) := fun _ _ h move =>
  ⟨Footing.stable_holds h.own move, Footing.stable_holds (c := { c with me := clone }) h.cloned move,
    stable_usesKit _ _ _ h.data move, stable_usesKit _ _ _ h.same move⟩

theorem World.Paired.afterRuns {clone : Nat} (h : w.Paired c clone)
    {runs : List (Nat × Value × Bool)} (theirs : ∀ r ∈ runs, r.1 = c.me ∨ r.1 = clone) :
    (w.afterRuns runs).Paired c clone := by
  induction runs generalizing w with
  | nil => exact h
  | cons r rest ih =>
    refine ih ?_ fun r hr => theirs r (.tail _ hr)
    obtain ⟨who, flag, next⟩ := r
    show World.Paired c clone ((runBlock who flag next).play w).2
    rcases theirs (who, flag, next) (.head _) with rfl | rfl
    · exact Footing.always_runBlock (stable_paired c clone) (fun _ h => h.own) flag next w h
    · exact Footing.always_runBlock (c := { c with me := who }) (stable_paired c who)
        (fun _ h => h.cloned) flag next w h

/-- A clone that was just made is paired with its sprite. -/
theorem Footing.Holds.createClone {w2 : World} {depth : Nat} {flag : Value} (hw : c.Holds w)
    (data : w.UsesKit c.me c.kit)
    (made : ((Control.act c.me flag .createClone).perform (player depth)).play w = (.ok v, w2)) :
    let clone := w2.sprites.length - 1
    w2.Paired c clone ∧ c.me < clone ∧ (w2.sprite clone).get? CloneMode.key = .ok CloneMode.clone.value := by
  intro clone
  obtain ⟨args, w1, taken, apart⟩ := Control.createClone_ok made
  have length : clone = w1.sprites.length := by simp [clone, apart.sprites, World.addClone]
  -- Taking the arguments may run blocks of the sprite.
  have before : c.Holds w1 ∧ w1.UsesKit c.me c.kit := by
    have stable : Stable (Request.Tame c.kit) fun w => c.Holds w ∧ w.UsesKit c.me c.kit :=
      fun _ _ h move => ⟨Footing.stable_holds h.1 move, stable_usesKit _ _ _ h.2 move⟩
    have within : TakesWithin c.Holds c.Asks c.me flag := Footing.takesWithin
    have takes := Footing.always_within stable (fun _ h => h.1)
      (Footing.always_player stable (fun _ h => h.1) depth) within w ⟨hw, data⟩
    rw [taken] at takes
    exact takes
  rw [length]
  refine ⟨?_, before.2.there, ?_⟩
  · exact (stable_paired c _).apart
      ⟨before.1.addClone c.me, before.1.clone, before.2.addClone c.me, before.2.clone⟩ apart
  · rw [World.sprite, apart.sprites]
    show ((w1.addClone c.me).sprite w1.sprites.length).get? _ = _
    rw [sprite_addClone, Sprite.get?, Sprite.put, Table.get?_put_self]

/-- What is put where one of the two sees an entry is what both see. -/
theorem World.Paired.visible?_putData {clone writer reader : Nat}
    {part : DataKind} {holder : Holder} (h : w.Paired c clone)
    (hwriter : writer = c.me ∨ writer = clone) (hreader : reader = c.me ∨ reader = clone)
    (found : w.visible? writer part (.text id) = .ok (some (holder, old))) (new : Value) :
    (w.putData holder part id new).visible? reader part (.text id) = .ok (some (holder, new)) := by
  have uses : ∀ i, i = c.me ∨ i = clone → w.UsesKit i c.kit := by
    rintro i (rfl | rfl)
    · exact h.data
    · exact h.same
  rw [← World.visible?_putData found new]
  exact ((uses writer hwriter).putData ..).visible? ((uses reader hreader).putData ..) _ _

/-- Once a sprite has made a clone, both see the same variables and lists, whatever blocks they run. What
one of them writes, the other reads: blocks set variables by `Data.assign`, and lists by `Data.store`. -/
theorem World.Runnable.clone_shares_data {w w2 : World} {s depth : Nat} {flag v : Value}
    (runnable : w.Runnable s) (data : ∀ part : DataKind, (w.sprite s).get? part.key = .ok .shared)
    (made : ((Control.act s flag .createClone).perform (player depth)).play w = (.ok v, w2))
    (runs : List (Nat × Value × Bool)) (theirs : ∀ r ∈ runs, r.1 = s ∨ r.1 = w2.sprites.length - 1) :
    let c := w2.sprites.length - 1
    let w' := w2.afterRuns runs
    s < c ∧ (w2.sprite c).get? CloneMode.key = .ok CloneMode.clone.value ∧
    (∀ part id, w'.visible? c part id = w'.visible? s part id) ∧
    ∀ writer reader, (writer = s ∨ writer = c) → (reader = s ∨ reader = c) → ∀ p id holder old,
      (w'.visible? writer .vars (.text id) = .ok (some (holder, old)) → ∀ value,
        ∃ w'', ((Data.assign writer (.text id) value).perform p).play w' = (.ok (), w'') ∧
          w''.variableValue? reader (.text id) = .ok (.text value.asText)) ∧
      (w'.visible? writer .lists (.text id) = .ok (some (holder, old)) → ∀ items,
        ∃ w'', ((Data.store ⟨holder, id, old⟩ items).perform p).play w' = (.ok (), w'') ∧
          w''.list? reader (.text id) = .ok (holder, .list items)) := by
  obtain ⟨f, rfl, hw, -⟩ := runnable.footing
  have uses : w.UsesKit f.me f.kit := ⟨hw.kit, fun part => Sprite.get?_eq_ok (data part)⟩
  obtain ⟨paired, there, mode⟩ := hw.createClone uses made
  have after := paired.afterRuns theirs
  refine ⟨there, mode, fun part id => after.data.visible? after.same part id, ?_⟩
  intro writer reader hwriter hreader p id holder old
  refine ⟨fun found value => ⟨_, Data.assign_play p found value, ?_⟩, fun found items => ⟨_, rfl, ?_⟩⟩
  · rw [variableValue?, after.visible?_putData hwriter hreader found]
    rfl
  · show ((w2.afterRuns runs).putData holder .lists id (.list items)).list? reader (.text id) = _
    rw [list?, after.visible?_putData hwriter hreader found]
    rfl

namespace Session

theorem dataKeeper_runnable : dataKeeperWorld.Runnable 1 :=
  (World.Scripted.of_all ⟨"Cat", rfl⟩ ⟨_, rfl⟩ rfl rfl rfl).runnable rfl

/-- The sprite adds to its list and the clone sets its variable, and each of them sees both. -/
theorem clone_shares_data_dataKeeper :
    let made := ((Control.act 1 (.text "m") .createClone).perform (player 9)).play dataKeeperWorld
    let w' := made.2.afterRuns [(1, .text "a", false), (2, .text "s", false)]
    made.1 = .ok .null ∧ made.2.sprites.length - 1 = 2 ∧
      (∀ part id, w'.visible? 2 part id = w'.visible? 1 part id) ∧
      (w'.list? 2 (.text "l")).map Prod.snd = .ok (.list [.text "x"]) ∧
      w'.variableValue? 1 (.text "v") = .ok (.text "1") := by
  have returned : (((Control.act 1 (.text "m") .createClone).perform (player 9)).play
      dataKeeperWorld).1 = .ok .null := rfl
  obtain ⟨-, -, same, -⟩ := dataKeeper_runnable.clone_shares_data (fun part => by cases part <;> rfl)
    (Prod.ext returned rfl) [(1, .text "a", false), (2, .text "s", false)] fun r hr => by
      rcases List.mem_cons.1 hr with rfl | last
      · exact .inl rfl
      · cases List.mem_singleton.1 last
        exact .inr rfl
  exact ⟨returned, rfl, same, rfl, rfl⟩

/-- The clone sets its variable, and so that of its sprite. -/
theorem dataKeeper_clone_writes : let w := ((runBlock 1 (.text "m")).play dataKeeperWorld).2
    w.variableValue? 1 (.text "v") = .ok (.text "0") ∧
      ((runBlock 2 (.text "s")).play w).2.variableValue? 1 (.text "v") = .ok (.text "1") := by
  exact ⟨rfl, rfl⟩

end Session

end BlockStage
