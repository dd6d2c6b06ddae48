import BlockStage.Proofs.Data.ListSequences
import Mathlib.Algebra.Group.Int.Defs

/-!
# Positions outside a list

A position beyond the last item, or as far before the first as the list is long, is none. The positions in
between, from zero down, count from the end: `Session.positions_wrap_around` says which item this is.
-/

namespace BlockStage

open Run

namespace Data

variable {args : Arguments} {items : List String} {holder : World.Holder} {id : String} {v : Value}
  {i : Int}

theorem place?_beyond {length : Nat} (h : (length : Int) < i ∨ i ≤ -length) : place? length i = none := by
  unfold place?
  split
  · omega
  · split
    · omega
    · rfl

theorem place?_wrapped {length : Nat} (low : -(length : Int) < i) (high : i ≤ 0) :
    place? length i = some (length + i).toNat := by
  rw [place?, if_neg (by omega), if_pos ⟨low, high⟩]

/-- Before the first position an item is inserted at a position from the end, or comes first. -/
theorem insertionPlace_wrapped (length : Nat) (h : i < 1) :
    insertionPlace length i = (max 1 (length + i)).toNat := by
  unfold insertionPlace insertionPoint
  omega

theorem fitsOffset_iff (h : i < 1) : fitsOffset (i - 1) = true ↔ -2 ^ 63 < i := by
  simp only [fitsOffset, Bool.and_eq_true, decide_eq_true_eq]
  omega

theorem edited?_beyond {b : Data} (index : args.need "INDEX" = .ok v)
    (beyond : (items.length : Int) < v.asInt ∨ v.asInt ≤ -items.length)
    (hb : b ∈ [deleteOfList, replaceItemOfList]) :
    ∃ f, edited? args ⟨holder, id, .list (items.map .text)⟩ b = .error f := by
  rcases List.mem_pair.1 hb with rfl | rfl
  · rw [edited?_delete index, place?_beyond beyond]
    split <;> exact ⟨_, rfl⟩
  · rcases item : args.need "ITEM" with f | u
    · exact ⟨f, by rw [edited?, item]; rfl⟩
    · rw [edited?_replace index item, place?_beyond beyond]
      exact ⟨_, rfl⟩

end Data

namespace World.Holding

open Data

variable {w w1 : World} {st s k depth : Nat} {name flag : Value} {id : String} {items items' : List String}
  {b : Data} {args : Arguments} {v : Value}

/-- A block that changes the list leaves all other data alone. -/
theorem run_relists (h : w.Holding st s name id k items) (ready : Ready depth w s flag name b args w1)
    (hb : b ∈ setsList)
    (edited : edited? args ⟨.kit k, id, .list (items.map .text)⟩ b = .ok (items'.map .text)) :
    let ran := ((player (depth + 1)).run s flag false).play w
    ran.1 = .ok .null ∧ w.Relists k id items' ran.2 := by
  rw [h.run_changes ready hb edited]
  exact ⟨rfl, h.relists_after ready.same items'⟩

theorem given_up (h : w.Holding st s name id k items) (ready : Ready depth w s flag name b args w1)
    {f : Fault}
    (ran : ((player (depth + 1)).run s flag false).play w = (.ok .null, w1.noteFailure flag f)) :
    let ran := ((player (depth + 1)).run s flag false).play w
    ran.1 = .ok .null ∧ w.Relists k id items ran.2 ∧ ∃ f, ran.2 = w1.noteFailure flag f := by
  rw [ran]
  exact ⟨rfl, h.relists_of_tables ready.same.tables, f, rfl⟩

theorem run_beyond (h : w.Holding st s name id k items) (ready : Ready depth w s flag name b args w1)
    (index : args.need "INDEX" = .ok v)
    (beyond : (items.length : Int) < v.asInt ∨ v.asInt ≤ -items.length)
    (hb : b ∈ [deleteOfList, replaceItemOfList, itemOfList]) :
    let ran := ((player (depth + 1)).run s flag false).play w
    ran.1 = .ok .null ∧ w.Relists k id items ran.2 ∧ ∃ f, ran.2 = w1.noteFailure flag f := by
  by_cases reads : b = itemOfList
  · subst reads
    have read := h.run_item ready index
    rw [place?_beyond beyond] at read
    exact h.given_up ready read
  · have changes : b ∈ [deleteOfList, replaceItemOfList] := by
      simp only [List.mem_cons, List.not_mem_nil, or_false] at hb ⊢
      rcases hb with rfl | rfl | rfl
      · exact .inl rfl
      · exact .inr rfl
      · exact absurd rfl reads
    obtain ⟨f, edited⟩ := edited?_beyond index beyond changes
    have sets : b ∈ setsList :=
      (by decide : ∀ b ∈ [deleteOfList, replaceItemOfList], b ∈ setsList) b changes
    exact h.given_up ready (h.run_fails ready sets edited)

end World.Holding

namespace Session

open World Data

variable {archive : Archive} {host : Host} {w0 w : World} {st k : Nat} {id : String}

/-- A list of a sprite of a project, or of its stage, with `n` items, and a block on it with the index `i`. If
`i` is more than `n`, or at most `-n`, a block that deletes, replaces or reads an item is given up, and all data
is as it was. If `i` lies between `-n` and `0`, the block works on the item at position `n + i`. An item is
inserted at that position for every `i` below `1`, or comes first, unless no offset can hold `i`. -/
theorem positions_wrap_around (loads : archive.Loads host w0)
    (stage : w0.stage = some st) (came : Chronicle w0 w) (listed : id ∈ (w0.kit k).lists.keys) :
    ∃ items : List String, w.Relists k id items w ∧
      ∀ depth s flag name args w1 v, w0.Reaches st k id s name → args.need "INDEX" = .ok v →
        let ran := ((player (depth + 1)).run s flag false).play w
        let n : Int := items.length
        let i := v.asInt
        (n < i ∨ i ≤ -n → ∀ b ∈ [deleteOfList, replaceItemOfList, itemOfList],
          Ready depth w s flag name b args w1 →
            ran.1 = .ok .null ∧ w.Relists k id items ran.2 ∧ ∃ f, ran.2 = w1.noteFailure flag f) ∧
        (-n < i → i ≤ 0 → n ≤ 2 ^ 63 →
          (Ready depth w s flag name deleteOfList args w1 →
            ran.1 = .ok .null ∧ w.Relists k id ((Edit.delete (n + i).toNat).apply items) ran.2) ∧
          (∀ u, args.need "ITEM" = .ok u → Ready depth w s flag name replaceItemOfList args w1 →
            ran.1 = .ok .null ∧
              w.Relists k id ((Edit.replace (n + i).toNat u.asText).apply items) ran.2) ∧
          (Ready depth w s flag name itemOfList args w1 → ∃ item,
            items[(n + i).toNat - 1]? = some item ∧ ran = (.ok (.text item), w1))) ∧
        (i < 1 → ∀ u, args.need "ITEM" = .ok u → Ready depth w s flag name insertAtList args w1 →
          ran.1 = .ok .null ∧ w.Relists k id (if -2 ^ 63 < i then
            (Edit.insert (max 1 (n + i)).toNat u.asText).apply items else items) ran.2) := by
  have kept := Kept.of_loads loads stage came
  obtain ⟨items, entry⟩ := kept.items listed
  refine ⟨items, ⟨entry, fun _ _ _ _ => rfl⟩, fun depth s flag name args w1 v reaches index => ?_⟩
  have holding := kept.holding reaches entry
  refine ⟨fun beyond b hb ready => holding.run_beyond ready index beyond hb, fun low high few => ?_, ?_⟩
  · have place := place?_wrapped low high
    refine ⟨fun ready => ?_, fun u item ready => ?_, fun ready => ?_⟩
    · refine holding.run_relists ready (by decide) ?_
      rw [edited?_delete index, if_pos ((fitsOffset_iff (by omega)).2 (by omega)), place]
    · refine holding.run_relists ready (by decide) ?_
      rw [edited?_replace index item, place]
    · have read := holding.run_item ready index
      rw [place, Option.bind_some, List.getElem?_eq_getElem (by omega)] at read
      exact ⟨_, List.getElem?_eq_getElem (by omega), read⟩
  -- inserting fails for an offset that is too large, never for a position
  · intro low u item ready
    have edited : edited? args ⟨.kit k, id, .list (items.map .text)⟩ insertAtList = _ :=
      edited?_insert index item
    rw [insertionPlace_wrapped _ low] at edited
    by_cases fits : -2 ^ 63 < v.asInt
    · rw [if_pos ((fitsOffset_iff low).2 fits)] at edited
      simp only [if_pos fits]
      exact holding.run_relists ready (by decide) edited
    · rw [if_neg fun h => fits ((fitsOffset_iff low).1 h)] at edited
      simp only [if_neg fits]
      have given := holding.given_up ready (holding.run_fails ready (by decide) edited)
      exact ⟨given.1, given.2.1⟩

/-! ## Indices around a list of two items -/

/-- A stage, and a sprite with a list of two items and a block on it. -/
def twoItems (b : Block) : List Value :=
  [Archive.target "Stage" true [] [] [],
    Archive.target "Cat" false [] [("l", textList "L" ["x", "y"])] [("a", b)]]

/-- Such a project with a block that deletes the item at an index. -/
def deletingAt (index : String) : Archive :=
  .ofTargets (twoItems (listBlock "data_deleteoflist" [("INDEX", .literal index)]))

theorem deletingAt_ready {index : String} (h : index ∈ ["-2", "-1"]) : let w := (deletingAt index).world
    (deletingAt index).Loads {} w ∧
      w.Holding 0 1 (.text "L") "l" 1 ["x", "y"] ∧ w.Reaches 0 1 "l" 1 (.text "L") ∧
      Ready 9 w 1 (.text "a") (.text "L") deleteOfList [("LIST", .text "L"), ("INDEX", .text index)]
        (w.enter "Cat" "data_deleteoflist") := by
  rcases List.mem_pair.1 h with rfl | rfl
  all_goals
    refine ⟨Prod.ext rfl rfl,
      ⟨rfl, rfl, ⟨rfl, fun part => ?_⟩, ⟨rfl, fun part => ?_⟩, rfl, .inr ⟨rfl, rfl⟩, rfl⟩,
      ⟨.tail _ (.head _), rfl, .own rfl fun _ => List.not_mem_nil⟩, by decide,
      ⟨"Cat", _, "data_deleteoflist", ⟨rfl, rfl, rfl⟩, rfl, rfl, rfl⟩,
      Apart.sameView ⟨rfl, rfl, rfl, rfl, rfl⟩, rfl⟩
    all_goals cases part <;> rfl

/-- At index `-2` the block is given up, and at index `-1` it deletes the first item. -/
theorem positions_wrap_around_deletingAt : let w (index : String) := (deletingAt index).world
    let ran (index : String) := ((player 10).run 1 (.text "a") false).play (w index)
    (∀ index ∈ ["-2", "-1"], (w index).stage = some 0 ∧ (w index).Reaches 0 1 "l" 1 (.text "L")) ∧
      (w "-2").Relists 1 "l" ["x", "y"] (ran "-2").2 ∧ (w "-1").Relists 1 "l" ["y"] (ran "-1").2 := by
  intro w ran
  refine ⟨fun index mem => ⟨(deletingAt_ready mem).2.1.stage, (deletingAt_ready mem).2.2.1⟩, ?_, ?_⟩
  · obtain ⟨loads, holding, reaches, ready⟩ := deletingAt_ready (.head _)
    obtain ⟨items, relists, blocks⟩ := positions_wrap_around loads holding.stage .refl
      (Table.mem_keys_iff.2 ⟨_, holding.entry⟩)
    obtain rfl := relists.items_eq holding.entry
    obtain ⟨beyond, -, -⟩ := blocks 9 1 _ _ [("LIST", .text "L"), ("INDEX", .text "-2")] _
      (.text "-2") reaches rfl
    exact (beyond (.inr (by decide +kernel)) _ (.head _) ready).2.1
  · obtain ⟨loads, holding, reaches, ready⟩ := deletingAt_ready (.tail _ (.head _))
    obtain ⟨items, relists, blocks⟩ := positions_wrap_around loads holding.stage .refl
      (Table.mem_keys_iff.2 ⟨_, holding.entry⟩)
    obtain rfl := relists.items_eq holding.entry
    obtain ⟨-, wrapped, -⟩ := blocks 9 1 _ _ [("LIST", .text "L"), ("INDEX", .text "-1")] _
      (.text "-1") reaches rfl
    exact ((wrapped (by decide +kernel) (by decide +kernel) (by decide)).1 ready).2

/-- At index `0` the last item is deleted, replaced and read, and an item is inserted before it. -/
theorem last_item_is_hit : let item := ("ITEM", Value.literal "z")
    let block (opcode : String) (inputs : Table Value) :=
      listBlock opcode (("INDEX", .literal "0") :: inputs)
    listsAfter (twoItems (block "data_deleteoflist" [])) 1 1 = [("l", "['x']")] ∧
      listsAfter (twoItems (block "data_replaceitemoflist" [item])) 1 1 = [("l", "['x', 'z']")] ∧
      listsAfter (twoItems (block "data_insertatlist" [item])) 1 1 = [("l", "['x', 'z', 'y']")] ∧
      ((runBlock 1 (.text "a")).play (Archive.ofTargets (twoItems (block "data_itemoflist" []))).world).1 =
        .ok (.text "y") := by
  exact ⟨by decide +kernel, by decide +kernel, by decide +kernel, rfl⟩

end Session

end BlockStage
