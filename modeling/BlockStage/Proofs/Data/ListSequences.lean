import BlockStage.Proofs.Data.Scoping
import BlockStage.Proofs.Number.Numerals

/-!
# Lists as sequences

A list is a sequence of texts, and blocks change it in five ways: `Edit`. What such a block makes of the
items is the changed sequence, if its position is one (`Data.edited?_edit`). Which list a sprite means stays
the same (`World.Holding`), so a sequence of blocks makes the sequence of their changes
(`Data.Performs.holding`), which is what is read then: `Session.lists_follow_edits`.
-/

namespace BlockStage

open Run

/-! ## Changes of a sequence -/

/-- A change of a sequence of texts. Positions count from one. -/
inductive Edit where
  | add (item : String)
  | insert (n : Nat) (item : String)
  | replace (n : Nat) (item : String)
  | delete (n : Nat)
  | clear
  deriving DecidableEq, Repr

namespace Edit

def apply : Edit → List String → List String
  | add item, items => items ++ [item]
  | insert n item, items => items.take (n - 1) ++ item :: items.drop (n - 1)
  | replace n item, items => items.take (n - 1) ++ item :: items.drop n
  | delete n, items => items.take (n - 1) ++ items.drop n
  | clear, _ => []

/-- The change is at a position of a sequence with some length. An item can also be inserted behind the
last one. -/
def Fits : Edit → Nat → Prop
  | insert n _, length => 1 ≤ n ∧ n ≤ length + 1
  | replace n _, length | delete n, length => 1 ≤ n ∧ n ≤ length
  | add _, _ | clear, _ => True

/-- Each of some changes is at a position of what the changes before it have left. -/
def AllFit : List Edit → List String → Prop
  | [], _ => True
  | e :: rest, items => e.Fits items.length ∧ AllFit rest (e.apply items)

def block : Edit → Data
  | add _ => .addToList
  | insert _ _ => .insertAtList
  | replace _ _ => .replaceItemOfList
  | delete _ => .deleteOfList
  | clear => .deleteAllOfList

/-- Arguments that ask for the change: the position is written in decimal, and the item is the text of some
value. -/
def Asked (args : Arguments) : Edit → Prop
  | add item => ∃ v, args.need "ITEM" = .ok v ∧ v.asText = item
  | insert n item | replace n item =>
    args.need "INDEX" = .ok (.text (natText n)) ∧ ∃ v, args.need "ITEM" = .ok v ∧ v.asText = item
  | delete n => args.need "INDEX" = .ok (.text (natText n))
  | clear => True

theorem length_apply_le (e : Edit) (items : List String) : (e.apply items).length ≤ items.length + 1 := by
  cases e <;> simp only [apply, List.length_append, List.length_take, List.length_drop, List.length_cons,
    List.length_nil] <;> omega

theorem length_foldl_le (es : List Edit) (items : List String) :
    (es.foldl (fun items e => e.apply items) items).length ≤ items.length + es.length := by
  induction es generalizing items with
  | nil => exact Nat.le_refl _
  | cons e rest ih =>
    have first := e.length_apply_le items
    have later := ih (e.apply items)
    rw [List.foldl_cons, List.length_cons]
    omega

theorem block_mem (e : Edit) : e.block ∈ Data.setsList := by
  cases e <;> simp [block, Data.setsList]

end Edit

theorem insertIdx_eq_take_drop {α : Type} {l : List α} {i : Nat} (h : i ≤ l.length) (a : α) :
    l.insertIdx i a = l.take i ++ a :: l.drop i := by
  induction l generalizing i with
  | nil =>
    obtain rfl : i = 0 := Nat.le_zero.1 h
    rfl
  | cons b rest ih =>
    cases i with
    | zero => rfl
    | succ i => simp [ih (Nat.le_of_succ_le_succ h)]

/-! ## What blocks make of texts -/

namespace Data

variable {args : Arguments} {items : List String} {holder : World.Holder} {id : String} {v u : Value}
  {i : Int}

/-- The position that an index means in a list of some length: indices from zero down count from the
end. -/
def place? (length : Nat) (i : Int) : Option Nat :=
  if 1 ≤ i ∧ i ≤ length then some i.toNat
  else if -length < i ∧ i ≤ 0 then some (length + i).toNat
  else none

theorem place?_eq_some {length n : Nat} (h : place? length i = some n) : 1 ≤ n ∧ n ≤ length := by
  unfold place? at h
  split at h
  · cases h
    omega
  · split at h
    · cases h
      omega
    · cases h

theorem place?_natCast {length n : Nat} (low : 1 ≤ n) (high : n ≤ length) :
    place? length (n : Int) = some n := by
  rw [place?, if_pos (by omega)]
  simp

theorem position?_eq (length : Nat) (i : Int) :
    Value.position? length (i - 1) = (place? length i).map (· - 1) := by
  unfold Value.position? place?
  rcases Int.lt_or_le 0 i with positive | negative
  · simp only [if_neg (show ¬ i - 1 < 0 by omega), if_neg (show ¬ (-(length : Int) < i ∧ i ≤ 0) by omega)]
    by_cases h : 1 ≤ i ∧ i ≤ length
    · rw [if_pos h, if_pos (by omega), Option.map_some, Option.some.injEq]
      omega
    · rw [if_neg h, if_neg (by omega)]
      rfl
  · simp only [if_pos (show i - 1 < 0 by omega), if_neg (show ¬ (1 ≤ i ∧ i ≤ length) by omega)]
    by_cases h : -(length : Int) < i ∧ i ≤ 0
    · rw [if_pos h, if_pos (by omega), Option.map_some, Option.some.injEq]
      omega
    · rw [if_neg h, if_neg (by omega)]
      rfl

theorem offset_eq (index : args.need "INDEX" = .ok v) : offset args = .ok (v.asInt - 1) := by
  rw [offset, index]
  rfl

theorem position_texts (items : List String) (i : Int) : position (items.map .text) (i - 1) =
    match place? items.length i with
    | some n => .ok (n - 1)
    | none => .error .outOfRange := by
  rw [position, List.length_map, position?_eq]
  rcases place? items.length i with _ | n <;> rfl

theorem edited?_add (item : args.need "ITEM" = .ok u) :
    edited? args ⟨holder, id, .list (items.map .text)⟩ .addToList =
      .ok (((Edit.add u.asText).apply items).map .text) := by
  simp only [edited?, Found.items?, item, Edit.apply, List.map_append]
  rfl

theorem edited?_delete (index : args.need "INDEX" = .ok v) :
    edited? args ⟨holder, id, .list (items.map .text)⟩ .deleteOfList =
      if fitsOffset (v.asInt - 1) then
        match place? items.length v.asInt with
        | some n => .ok (((Edit.delete n).apply items).map .text)
        | none => .error .outOfRange
      else .error .overflow := by
  simp only [edited?, Found.items?, offset_eq index]
  show (if (!fitsOffset (v.asInt - 1)) = true then _ else _) = _
  cases fits : fitsOffset (v.asInt - 1) with
  | false => rfl
  | true =>
    show (position (items.map .text) (v.asInt - 1) >>= _) = _
    rw [position_texts]
    rcases hp : place? items.length v.asInt with _ | n
    · rfl
    · obtain ⟨low, -⟩ := place?_eq_some hp
      show Except.ok _ = Except.ok _
      rw [List.eraseIdx_eq_take_drop_succ, Nat.sub_add_cancel low]
      simp [Edit.apply]

theorem edited?_replace (index : args.need "INDEX" = .ok v) (item : args.need "ITEM" = .ok u) :
    edited? args ⟨holder, id, .list (items.map .text)⟩ .replaceItemOfList =
      match place? items.length v.asInt with
      | some n => .ok (((Edit.replace n u.asText).apply items).map .text)
      | none => .error .outOfRange := by
  simp only [edited?, offset_eq index, item]
  show (position (items.map .text) (v.asInt - 1) >>= _) = _
  rw [position_texts]
  rcases hp : place? items.length v.asInt with _ | n
  · rfl
  · obtain ⟨low, high⟩ := place?_eq_some hp
    show Except.ok _ = Except.ok _
    rw [List.set_eq_take_append_cons_drop, if_pos (by rw [List.length_map]; omega), Nat.sub_add_cancel low]
    simp [Edit.apply]

/-- The position before which an item is inserted: beyond the ends it comes first or last. -/
def insertionPlace (length : Nat) (i : Int) : Nat := insertionPoint length (i - 1) + 1

theorem edited?_insert (index : args.need "INDEX" = .ok v) (item : args.need "ITEM" = .ok u) :
    edited? args ⟨holder, id, .list (items.map .text)⟩ .insertAtList =
      if fitsOffset (v.asInt - 1) then
        .ok (((Edit.insert (insertionPlace items.length v.asInt) u.asText).apply items).map .text)
      else .error .overflow := by
  simp only [edited?, Found.items?, offset_eq index, item]
  show (if (!fitsOffset (v.asInt - 1)) = true then _ else _) = _
  cases fits : fitsOffset (v.asInt - 1) with
  | false => rfl
  | true =>
    show Except.ok _ = Except.ok _
    rw [insertIdx_eq_take_drop (insertionPoint_le _ _), List.length_map]
    simp [Edit.apply, insertionPlace]

theorem edited?_clear : edited? args ⟨holder, id, .list (items.map .text)⟩ .deleteAllOfList =
    .ok ((Edit.clear.apply items).map .text) :=
  rfl

/-- Positions that there can be are read as they are written. -/
theorem asInt_position {n : Nat} (h : n ≤ 2 ^ 63) : (Value.text (natText n)).asInt = n := by
  have few : 2 ^ 63 < 10 ^ 20 := by decide
  have readable : 10 ^ 20 ≤ 10 ^ digitLimit := Nat.pow_le_pow_right (by decide) (by decide)
  exact Value.asInt_natText (Nat.lt_of_le_of_lt h (Nat.lt_of_lt_of_le few readable))

/-- What a change makes of the items that its block finds. -/
theorem edited?_edit {e : Edit} (asked : e.Asked args) (fits : e.Fits items.length)
    (bound : items.length < 2 ^ 63) :
    edited? args ⟨holder, id, .list (items.map .text)⟩ e.block = .ok ((e.apply items).map .text) := by
  have reads : ∀ {n : Nat}, n ≤ items.length + 1 → (Value.text (natText n)).asInt = n := fun le =>
    asInt_position (by omega)
  have inside : ∀ {n : Nat}, 1 ≤ n → n ≤ items.length + 1 → fitsOffset ((n : Int) - 1) = true := by
    intro n low high
    simp only [fitsOffset, Bool.and_eq_true, decide_eq_true_eq]
    omega
  cases e with
  | add item =>
    obtain ⟨u, item, rfl⟩ := asked
    exact edited?_add item
  | insert n item =>
    obtain ⟨index, u, item, rfl⟩ := asked
    have place : insertionPlace items.length (n : Int) = n := by
      unfold insertionPlace insertionPoint
      obtain ⟨low, high⟩ := fits
      omega
    rw [Edit.block, edited?_insert index item, reads fits.2, if_pos (inside fits.1 fits.2), place]
  | replace n item =>
    obtain ⟨index, u, item, rfl⟩ := asked
    rw [Edit.block, edited?_replace index item, reads (Nat.le_succ_of_le fits.2),
      place?_natCast fits.1 fits.2]
  | delete n =>
    rw [Edit.block, edited?_delete asked, reads (Nat.le_succ_of_le fits.2),
      if_pos (inside fits.1 (Nat.le_succ_of_le fits.2)), place?_natCast fits.1 fits.2]
  | clear => exact edited?_clear

end Data

/-! ## Blocks that are run -/

/-- Data is as it was, kept where it was and found as it was. -/
structure World.SameView (w w' : World) : Prop where
  stage : w'.stage = w.stage
  listIds : w'.listIds = w.listIds
  tables : ∀ k part, (w'.kit k).get part = (w.kit k).get part
  uses : ∀ i k, w.UsesKit i k → w'.UsesKit i k

theorem World.Apart.sameView {w w' : World} (h : w.Apart w') : w.SameView w' where
  stage := h.stage
  listIds := h.listIds
  tables k part := by rw [kit, kit, h.kits]
  uses _ _ uses := uses.of_sprites h.sprites

/-- Block `flag` of sprite `s` is a block on the list of a name, and can be run at some depth of nesting: no
attribute hides it, there is fuel, and its arguments are taken without changing data. -/
structure Data.Ready (depth : Nat) (w : World) (s : Nat) (flag name : Value) (b : Data) (args : Arguments)
    (w1 : World) : Prop where
  fuel : 0 < w.fuel
  there : ∃ title block opcode, w.Meets s flag title block ∧ block.opcode? = .ok (.text opcode) ∧
    Member.ofName? (w.sprite s) opcode = some (.block (.data b)) ∧
    ((Arguments.eval s flag).perform (player depth)).play (w.enter title opcode) = (.ok args, w1)
  same : w.SameView w1
  list : args.need "LIST" = .ok name

theorem Data.setsList_subset {b : Data} (h : b ∈ setsList) : b ∈ listBlocks :=
  (by decide : ∀ b ∈ setsList, b ∈ listBlocks) b h

theorem Data.Ready.run {depth s : Nat} {w w1 : World} {flag name : Value} {b : Data} {args : Arguments}
    (h : Ready depth w s flag name b args w1) (hb : b ∈ listBlocks) (canName : name.canName = true) :
    ((player (depth + 1)).run s flag false).play w =
      (contain flag (onMeant (player depth) s args b w1 (w1.means? s name))).play w1 := by
  obtain ⟨title, block, opcode, meets, hop, hm, taken⟩ := h.there
  refine (runWith_enters (player depth) meets hop hm h.fuel).trans ?_
  show (contain flag ((b.act s flag).perform (player depth))).play (w.enter title opcode) = _
  rw [contain_play, contain_play, act_listBlock (player depth) hb taken h.list canName]

namespace World

variable {w w' w'' : World} {st s k : Nat} {name : Value} {id : String} {items items' : List String}

/-- In `w'` the list `id` of kit `k` has these items, and all other data is as it is in `w`. -/
structure Relists (w : World) (k : Nat) (id : String) (items : List String) (w' : World) : Prop where
  entry : w'.stored? k .lists id = some (.list (items.map .text))
  others : ∀ k' part id', ¬ (k' = k ∧ part = .lists ∧ id' = id) →
    w'.stored? k' part id' = w.stored? k' part id'

theorem Relists.trans (h : w.Relists k id items w') (h' : w'.Relists k id items' w'') :
    w.Relists k id items' w'' :=
  ⟨h'.entry, fun k' part id' other => (h'.others k' part id' other).trans (h.others k' part id' other)⟩

theorem Relists.items_eq (h : w.Relists k id items w')
    (entry : w'.stored? k .lists id = some (.list (items'.map .text))) : items = items' := by
  have same := Value.list.inj (Option.some.inj (h.entry.symm.trans entry))
  exact (List.map_inj_right fun _ _ => Value.text.inj).1 same

/-- By a name sprite `s` means the list `id` of kit `k`, beside the stage `st`, and these are its items. -/
structure Holding (w : World) (st s : Nat) (name : Value) (id : String) (k : Nat) (items : List String) :
    Prop where
  canName : name.canName = true
  stage : w.stage = some st
  usesStage : w.UsesKit st st
  uses : w.UsesKit s s
  means : w.means? s name = .ok id
  seen : k = st ∨ k = s ∧ w.stored? st .lists id = none
  entry : w.stored? k .lists id = some (.list (items.map .text))

namespace Holding

theorem list? (h : w.Holding st s name id k items) :
    w.list? s (.text id) = .ok (.kit k, .list (items.map .text)) := by
  have seen := visible?_text h.stage h.usesStage h.uses .lists id
  rw [World.list?, seen]
  rcases h.seen with rfl | ⟨rfl, none⟩
  · rw [h.entry]
    rfl
  · rw [none, h.entry]
    rfl

theorem means?_congr (stage : w'.stage = w.stage) (listIds : w'.listIds = w.listIds) (s : Nat)
    (name : Value) : w'.means? s name = w.means? s name := by
  simp only [means?, stageMeans?, listId?, stage?, stage, listIds]

theorem of_same (h : w.Holding st s name id k items) (same : w.SameView w') :
    w'.Holding st s name id k items := by
  have entries : ∀ k part id, w'.stored? k part id = w.stored? k part id := fun k part id => by
    rw [stored?, stored?, same.tables]
  exact ⟨h.canName, same.stage.trans h.stage, same.uses st st h.usesStage, same.uses s s h.uses,
    (means?_congr same.stage same.listIds s name).trans h.means,
    h.seen.imp_right fun seen => ⟨seen.1, (entries ..).trans seen.2⟩, (entries ..).trans h.entry⟩

theorem relists (h : w.Holding st s name id k items) (items' : List String) :
    w.Relists k id items' (w.putData (.kit k) .lists id (.list (items'.map .text))) := by
  refine ⟨?_, fun k' part id' other => ?_⟩
  · rw [stored?_putData h.entry, if_pos ⟨rfl, rfl, rfl⟩]
  · rw [stored?_putData h.entry, if_neg other]

theorem put (h : w.Holding st s name id k items) (items' : List String) :
    (w.putData (.kit k) .lists id (.list (items'.map .text))).Holding st s name id k items' := by
  -- the stage must still have no list of that id, lest it hide the sprite's own
  refine ⟨h.canName, h.stage, h.usesStage.of_sprites rfl, h.uses.of_sprites rfl,
    (means?_congr rfl rfl s name).trans h.means, h.seen.imp_right fun seen => ⟨seen.1, ?_⟩,
    (h.relists items').entry⟩
  have ne : st ≠ k := by
    rintro rfl
    cases seen.2.symm.trans h.entry
  rw [stored?_putData h.entry, if_neg fun same => ne same.1, seen.2]

theorem relists_of_tables (h : w.Holding st s name id k items)
    (tables : ∀ k part, (w'.kit k).get part = (w.kit k).get part) : w.Relists k id items w' := by
  have entries : ∀ k part id, w'.stored? k part id = w.stored? k part id := fun k part id => by
    rw [stored?, stored?, tables]
  exact ⟨(entries ..).trans h.entry, fun k' part id' _ => entries k' part id'⟩

theorem relists_after (h : w.Holding st s name id k items) (same : w.SameView w') (items' : List String) :
    w.Relists k id items' (w'.putData (.kit k) .lists id (.list (items'.map .text))) :=
  (h.relists_of_tables same.tables).trans ((h.of_same same).relists items')

section

open Data

variable {depth : Nat} {flag : Value} {b : Data} {args : Arguments} {w1 : World}

theorem run (h : w.Holding st s name id k items) (ready : Ready depth w s flag name b args w1)
    (hb : b ∈ listBlocks) : let list : Found := ⟨.kit k, id, .list (items.map .text)⟩
    ((player (depth + 1)).run s flag false).play w =
      (contain flag ((onList args list b).perform (player depth))).play w1 := by
  have after := h.of_same ready.same
  rw [ready.run hb h.canName, onMeant, after.means, lift_ok_bind, after.list?, lift_ok_bind]

theorem run_changes (h : w.Holding st s name id k items) (ready : Ready depth w s flag name b args w1)
    (hb : b ∈ setsList) {items' : List String}
    (edited : edited? args ⟨.kit k, id, .list (items.map .text)⟩ b = .ok (items'.map .text)) :
    ((player (depth + 1)).run s flag false).play w =
      (.ok .null, w1.putData (.kit k) .lists id (.list (items'.map .text))) := by
  rw [h.run ready (setsList_subset hb), onList_eq _ _ hb, edited, contain_play]
  rfl

theorem run_fails (h : w.Holding st s name id k items) (ready : Ready depth w s flag name b args w1)
    (hb : b ∈ setsList) {f : Fault}
    (edited : edited? args ⟨.kit k, id, .list (items.map .text)⟩ b = .error f) :
    ((player (depth + 1)).run s flag false).play w = (.ok .null, w1.noteFailure flag f) := by
  rw [h.run ready (setsList_subset hb), onList_eq _ _ hb, edited, contain_play]
  rfl

theorem run_edit (h : w.Holding st s name id k items) {e : Edit}
    (ready : Ready depth w s flag name e.block args w1) (asked : e.Asked args) (fits : e.Fits items.length)
    (bound : items.length < 2 ^ 63) : ((player (depth + 1)).run s flag false).play w =
      (.ok .null, w1.putData (.kit k) .lists id (.list ((e.apply items).map .text))) :=
  h.run_changes ready e.block_mem (edited?_edit asked fits bound)

theorem run_length (h : w.Holding st s name id k items)
    (ready : Ready depth w s flag name .lengthOfList args w1) :
    ((player (depth + 1)).run s flag false).play w = (.ok (.text (natText items.length)), w1) := by
  have length : (Value.list (items.map .text)).length? = .ok items.length := by
    show Except.ok (items.map Value.text).length = _
    rw [List.length_map]
  rw [h.run ready (by decide), onList, length, contain_play]
  rfl

/-- The item at the position that an index means, or none. -/
theorem run_item (h : w.Holding st s name id k items)
    (ready : Ready depth w s flag name .itemOfList args w1) {v : Value} (index : args.need "INDEX" = .ok v) :
    ((player (depth + 1)).run s flag false).play w =
      match (place? items.length v.asInt).bind fun n => items[n - 1]? with
      | some item => (.ok (.text item), w1)
      | none => (.ok .null, w1.noteFailure flag .outOfRange) := by
  have found : (Value.list (items.map .text)).at? (v.asInt - 1) =
      match (place? items.length v.asInt).bind fun n => items[n - 1]? with
      | some item => .ok (.text item)
      | none => .error .outOfRange := by
    rw [Value.at?, List.length_map, position?_eq]
    rcases place? items.length v.asInt with _ | n
    · rfl
    · simp only [Option.map_some, Option.bind_some, List.getElem?_map]
      rcases items[n - 1]? with _ | item <;> rfl
  rw [h.run ready (by decide), onList, offset_eq index, Act.lift_ok_bind, found, contain_play]
  rcases (place? items.length v.asInt).bind fun n => items[n - 1]? with _ | item <;> rfl

end

end Holding

end World

/-- Sprites that are users of a list, each by a name, run blocks on it, one after another, each of which
makes a change. -/
inductive Data.Performs (User : Nat → Value → Prop) : World → List Edit → World → Prop
  | nil (w : World) : Performs User w [] w
  | cons {depth s : Nat} {w w1 w' : World} {flag name : Value} {args : Arguments} {e : Edit}
    {rest : List Edit} (user : User s name) (ready : Ready depth w s flag name e.block args w1)
    (asked : e.Asked args)
    (more : Performs User (((player (depth + 1)).run s flag false).play w).2 rest w') :
    Performs User w (e :: rest) w'

theorem Data.Performs.holding {User : Nat → Value → Prop} {w w' : World} {st k : Nat} {id : String}
    {items : List String} {es : List Edit} (performs : Performs User w es w')
    (entry : w.stored? k .lists id = some (.list (items.map .text)))
    (holding : ∀ s name, User s name → w.Holding st s name id k items) (fit : Edit.AllFit es items)
    (bound : items.length + es.length < 2 ^ 63) :
    let now := es.foldl (fun items e => e.apply items) items
    w.Relists k id now w' ∧ ∀ s name, User s name → w'.Holding st s name id k now := by
  -- the items are those that the changes so far have left, so the bound counts what is to come
  induction performs generalizing items with
  | nil w => exact ⟨⟨entry, fun _ _ _ _ => rfl⟩, holding⟩
  | @cons depth s w w1 w' flag name args e rest user ready asked more ih =>
    obtain ⟨fits, later⟩ := fit
    have h := holding s name user
    rw [h.run_edit ready asked fits (by omega)] at ih
    have first := h.relists_after ready.same (e.apply items)
    have length := e.length_apply_le items
    rw [List.length_cons] at bound
    have still := fun s name user => ((holding s name user).of_same ready.same).put (e.apply items)
    obtain ⟨relists, last⟩ := ih first.entry still later (by omega)
    exact ⟨first.trans relists, last⟩

/-! ## Projects -/

/-- By a name a sprite means its own list, or else the one of the stage, and `k` is whose list this is. A list
of the sprite is reached only if the stage has none of its id. -/
inductive World.Means (w : World) (st k : Nat) (id : String) : Nat → Value → Prop
  | own {name : Value} (noted : w.listId? k name = some id) (free : k ≠ st → id ∉ (w.kit st).lists.keys) :
    Means w st k id k name
  | stage {s : Nat} {name : Value} (same : k = st) (none : w.listId? s name = none)
    (noted : w.listId? st name = some id) : Means w st k id s name

/-- A sprite of the project reaches the list `id` of kit `k` by a name. -/
structure World.Reaches (w : World) (st k : Nat) (id : String) (s : Nat) (name : Value) : Prop where
  cast : s ∈ w.cast
  canName : name.canName = true
  means : w.Means st k id s name

namespace Session

open World

variable {archive : Archive} {host : Host} {w0 w w' : World} {st s k : Nat} {name : Value} {id : String}

theorem Alters.listIds (h : Alters w w') : w'.listIds = w.listIds := by
  cases h with
  | cleared => rfl
  | proceeds step =>
    cases step.goes with
    | aside h => exact h.listIds
    | _ => rfl

theorem Chronicle.listIds (came : Chronicle w0 w) : w.listIds = w0.listIds := by
  induction came with
  | refl => rfl
  | tail _ alters ih => exact alters.listIds.trans ih

theorem Kept.items (h : Kept w0 w st) (listed : id ∈ (w0.kit k).lists.keys) :
    ∃ items : List String, w.stored? k .lists id = some (.list (items.map .text)) := by
  obtain ⟨v, entry⟩ := (h.mem_keys k .lists id).1 listed
  obtain ⟨items, rfl⟩ := h.stocked.proper k .lists _ (Table.mem_of_get? entry)
  exact ⟨items, entry⟩

theorem Kept.holding (h : Kept w0 w st) (reaches : w0.Reaches st k id s name) {items : List String}
    (entry : w.stored? k .lists id = some (.list (items.map .text))) : w.Holding st s name id k items := by
  have same : w.means? s name = w0.means? s name :=
    Holding.means?_congr (Chronicle.later h.came).stage (Chronicle.listIds h.came) s name
  have means : w0.means? s name = .ok id := by
    cases reaches.means with
    | own noted => rw [means?, noted]
    | stage _ none noted =>
      rw [means?, none]
      simp only [stageMeans?, stage?, h.begins, noted]
  have seen : k = st ∨ k = s ∧ w.stored? st .lists id = none := by
    cases reaches.means with
    | stage same => exact .inl same
    | own noted free =>
      by_cases stage : s = st
      · exact .inl stage
      · refine .inr ⟨rfl, Option.eq_none_iff_forall_ne_some.2 fun v found => ?_⟩
        exact free stage ((h.mem_keys st .lists id).2 ⟨v, found⟩)
  exact ⟨reaches.canName, h.stage, h.usesStage, h.usesKit reaches.cast (.of_chronicle .self h.came),
    same.trans means, seen, entry⟩

/-- A list of a sprite of a project, or of its stage. Each sequence of blocks that change it, at positions that
there are then, makes of its items what the changes make of the sequence, whichever sprites run the blocks; all
other data is as it was. A block that is run by `runBlock`, or as part of a script, is run so at some depth. -/
theorem lists_follow_edits (loads : archive.Loads host w0)
    (stage : w0.stage = some st) (came : Chronicle w0 w) (listed : id ∈ (w0.kit k).lists.keys) :
    ∃ items, w.Relists k id items w ∧ ∀ es w', Data.Performs (w0.Reaches st k id) w es w' →
      Edit.AllFit es items → items.length + es.length < 2 ^ 63 →
      let now := es.foldl (fun items e => e.apply items) items
      w.Relists k id now w' ∧ ∀ depth s flag name args w1, w0.Reaches st k id s name →
        (Data.Ready depth w' s flag name .lengthOfList args w1 →
          ((player (depth + 1)).run s flag false).play w' = (.ok (.text (natText now.length)), w1)) ∧
        ∀ n, Data.Ready depth w' s flag name .itemOfList args w1 →
          args.need "INDEX" = .ok (.text (natText n)) → 1 ≤ n → n ≤ now.length →
            ∃ item, now[n - 1]? = some item ∧
              ((player (depth + 1)).run s flag false).play w' = (.ok (.text item), w1) := by
  have kept := Kept.of_loads loads stage came
  obtain ⟨items, entry⟩ := kept.items listed
  refine ⟨items, ⟨entry, fun _ _ _ _ => rfl⟩, fun es w' performs fit bound => ?_⟩
  have before : ∀ s name, w0.Reaches st k id s name → w.Holding st s name id k items :=
    fun s name reaches => kept.holding reaches entry
  obtain ⟨relists, holding⟩ := performs.holding entry before fit bound
  have length := Edit.length_foldl_le es items
  refine ⟨relists, fun depth s flag name args w1 reaches => ⟨fun ready => ?_, ?_⟩⟩
  · exact (holding s name reaches).run_length ready
  · intro n ready index low high
    have read := (holding s name reaches).run_item ready index
    rw [Data.asInt_position (by omega), Data.place?_natCast low high, Option.bind_some,
      List.getElem?_eq_getElem (by omega)] at read
    exact ⟨_, List.getElem?_eq_getElem (by omega), read⟩

/-! ## A sprite and a stage with lists of one name -/

def listBlock (opcode : String) (inputs : Table Value) : Block :=
  ⟨[("opcode", .text opcode), ("next", .null), ("inputs", .record inputs),
    ("fields", .record [("LIST", .list [.text "L", .null])])]⟩

def textList (name : String) (items : List String) : Value := .list [.text name, .list (items.map .text)]

/-- A stage and a sprite, each with a list of the same name, and blocks of the sprite on the list. -/
def listKeeper : Archive :=
  .ofTargets [Archive.target "Stage" true [] [("g", textList "L" ["s"])] [],
    Archive.target "Cat" false [] [("l", textList "L" ["a", "b"])] [
      ("i", listBlock "data_insertatlist" [("INDEX", .literal "3"), ("ITEM", .literal "c")]),
      ("d", listBlock "data_deleteoflist" [("INDEX", .literal "1")]),
      ("q", listBlock "data_itemoflist" [("INDEX", .literal "2")])]]

theorem lists_follow_edits_listKeeper : let w0 := listKeeper.world
    let w' := w0.afterRuns [(1, .text "i", false), (1, .text "d", false)]
    (w0.stage = some 0 ∧ "l" ∈ (w0.kit 1).lists.keys ∧ w0.Reaches 0 1 "l" 1 (.text "L") ∧
        Data.Performs (w0.Reaches 0 1 "l") w0 [.insert 3 "c", .delete 1] w') ∧
      w0.Relists 1 "l" ["b", "c"] w' ∧ ((runBlock 1 (.text "q") false).play w').1 = .ok (.text "c") := by
  intro w0 w'
  have loads : listKeeper.Loads {} w0 := Prod.ext rfl rfl
  have listed : "l" ∈ (w0.kit 1).lists.keys := by decide +kernel
  have free : "l" ∉ (w0.kit 0).lists.keys := by decide +kernel
  have reaches : w0.Reaches 0 1 "l" 1 (.text "L") := ⟨by decide +kernel, rfl, .own rfl fun _ => free⟩
  have holding : w0.Holding 0 1 (.text "L") "l" 1 ["a", "b"] :=
    ⟨rfl, rfl, ⟨rfl, fun part => by cases part <;> rfl⟩, ⟨rfl, fun part => by cases part <;> rfl⟩, rfl,
      .inr ⟨rfl, rfl⟩, rfl⟩
  have inserts : Data.Ready (2 * w0.fuel.toNat + 3) w0 1 (.text "i") (.text "L") .insertAtList
      [("LIST", .text "L"), ("INDEX", .text "3"), ("ITEM", .text "c")]
      (w0.enter "Cat" "data_insertatlist") :=
    ⟨by decide, ⟨"Cat", _, "data_insertatlist", ⟨rfl, rfl, rfl⟩, rfl, rfl, rfl⟩,
      Apart.sameView ⟨rfl, rfl, rfl, rfl, rfl⟩, rfl⟩
  have first := holding.run_edit (e := .insert 3 "c") inserts ⟨rfl, _, rfl, rfl⟩ (by simp [Edit.Fits])
    (by simp)
  have holding1 := (holding.of_same inserts.same).put (Edit.apply (.insert 3 "c") ["a", "b"])
  generalize hw1 : (w0.enter "Cat" "data_insertatlist").putData (.kit 1) .lists "l"
    (.list ((Edit.apply (.insert 3 "c") ["a", "b"]).map .text)) = w1 at first holding1
  have deletes : Data.Ready (2 * w1.fuel.toNat + 3) w1 1 (.text "d") (.text "L") .deleteOfList
      [("LIST", .text "L"), ("INDEX", .text "1")] (w1.enter "Cat" "data_deleteoflist") := by
    subst hw1
    exact ⟨by decide +kernel, ⟨"Cat", _, "data_deleteoflist", ⟨rfl, rfl, rfl⟩, rfl, rfl, rfl⟩,
      Apart.sameView ⟨rfl, rfl, rfl, rfl, rfl⟩, rfl⟩
  have second := holding1.run_edit (e := .delete 1) deletes rfl (by simp [Edit.Fits, Edit.apply])
    (by simp [Edit.apply])
  have final : w' = (w1.enter "Cat" "data_deleteoflist").putData (.kit 1) .lists "l"
      (.list (["b", "c"].map .text)) := by
    show ((runBlock 1 (.text "d") false).play ((runBlock 1 (.text "i") false).play w0).2).2 = _
    rw [(runBlock_play 1 (.text "i") false w0).trans first,
      (runBlock_play 1 (.text "d") false w1).trans second]
    rfl
  have performs : Data.Performs (w0.Reaches 0 1 "l") w0 [.insert 3 "c", .delete 1] w' := by
    refine .cons reaches inserts ⟨rfl, _, rfl, rfl⟩ ?_
    rw [first]
    refine .cons reaches deletes rfl ?_
    rw [second, final]
    exact .nil _
  have reads : Data.Ready (2 * w'.fuel.toNat + 3) w' 1 (.text "q") (.text "L") .itemOfList
      [("LIST", .text "L"), ("INDEX", .text "2")] (w'.enter "Cat" "data_itemoflist") := by
    rw [final, ← hw1]
    exact ⟨by decide +kernel, ⟨"Cat", _, "data_itemoflist", ⟨rfl, rfl, rfl⟩, rfl, rfl, rfl⟩,
      Apart.sameView ⟨rfl, rfl, rfl, rfl, rfl⟩, rfl⟩
  obtain ⟨items, relists, edits⟩ := lists_follow_edits loads rfl .refl listed
  obtain rfl := relists.items_eq holding.entry
  have fit : Edit.AllFit [.insert 3 "c", .delete 1] ["a", "b"] :=
    ⟨by simp [Edit.Fits], by simp [Edit.Fits, Edit.apply], trivial⟩
  obtain ⟨after, read⟩ := edits _ w' performs fit (by simp)
  obtain ⟨item, found, ran⟩ := (read _ 1 _ _ _ _ reaches).2 2 reads rfl (by decide) (by decide)
  cases found
  refine ⟨⟨rfl, listed, reaches, performs⟩, after, ?_⟩
  rw [runBlock_play]
  exact congrArg Prod.fst ran

/-- The lists of a kit as texts, after sprite `i` of a project has run its block `a`. -/
def listsAfter (targets : List Value) (i k : Nat) : List (String × String) :=
  ((((runBlock i (.text "a")).play (Archive.ofTargets targets).world).2.kit k).lists).map fun p =>
    (p.1, p.2.asText)

/-- A block adds an item to the list of the stage if that has the id of the list of the sprite, and to the
last of two lists of one name. It adds nothing if there is no stage, or if an attribute of the sprite has
its name. -/
theorem added_elsewhere :
    let adds : Table Block := [("a", listBlock "data_addtolist" [("ITEM", .literal "x")])]
    let stage (lists : Table Value) := Archive.target "Stage" true [] lists []
    let cat (lists : Table Value) := Archive.target "Cat" false [] lists adds
    let shared := [stage [("l", textList "S" [])], cat [("l", textList "L" [])]]
    (listsAfter shared 1 1 = [("l", "[]")] ∧ listsAfter shared 1 0 = [("l", "['x']")]) ∧
    listsAfter [cat [("l", textList "L" [])]] 0 0 = [("l", "[]")] ∧
    listsAfter [stage [], Archive.target "Cat" false [] [("l", textList "L" [])] adds
      [("data_addtolist", .text "0")]] 1 1 = [("l", "[]")] ∧
    listsAfter [stage [], cat [("l", textList "L" []), ("m", textList "L" [])]] 1 1 =
      [("l", "[]"), ("m", "['x']")] := by
  decide +kernel

end Session

end BlockStage
