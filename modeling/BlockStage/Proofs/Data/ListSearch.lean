import BlockStage.Proofs.Data.ListSequences
import BlockStage.Proofs.Operator.IntegerOrder

/-!
# Searching a list

The block that says where an item stands, the one that says whether the list has it, and the one that reads an
item agree: `Data.search_agrees_with_access`.
-/

namespace BlockStage

open Run

namespace Data

variable {w : World} {st s k : Nat} {name v : Value} {id : String} {items : List String}

/-- Each block of one kind on the list of a name that is given a value for an argument answers with a text, and
changes nothing once it has taken its arguments. -/
def Answers (w : World) (s : Nat) (name : Value) (b : Data) (key : String) (v : Value) (answer : String) : Prop :=
  ∀ depth flag args w1, Ready depth w s flag name b args w1 → args.need key = .ok v →
    ((player (depth + 1)).run s flag false).play w = (.ok (.text answer), w1)

theorem answers_contains (h : w.Holding st s name id k items) (v : Value) :
    Answers w s name .listContainsItem "ITEM" v (if v.asText ∈ items then "True" else "False") := by
  intro depth flag args w1 ready item
  have contains : (Value.list (items.map .text)).contains? (.text v.asText) = .ok (decide (v.asText ∈ items)) := by
    refine congrArg Except.ok (Bool.eq_iff_iff.2 ?_)
    simp [Value.alike, Value.same, Value.bothNaN]
  rw [h.run ready (by decide), onList, item, Act.lift_ok_bind, contains, contain_play, Act.lift_ok_bind]
  by_cases there : v.asText ∈ items <;> simp only [there, decide_true, decide_false] <;> rfl

/-- The place of an item as it is answered: counted from one, and zero if the list does not have it. -/
def placeText : Option Nat → String
  | some n => natText (n + 1)
  | none => "0"

theorem answers_number (h : w.Holding st s name id k items) (v : Value) :
    Answers w s name .itemNumberOfList "ITEM" v (placeText (items.idxOf? v.asText)) := by
  intro depth flag args w1 ready item
  have elements : (Value.list (items.map .text)).elements? = .ok (items.map .text) := rfl
  have search : (items.map Value.text).findIdx? (·.same (.text v.asText)) = items.idxOf? v.asText :=
    List.findIdx?_map
  rw [h.run ready (by decide), onList, elements, Act.lift_ok_bind, contain_play]
  cases items with
  | nil => rfl
  | cons first rest =>
    rw [if_neg (by simp), item, Act.lift_ok_bind]
    dsimp only
    rw [search]
    rcases List.idxOf? v.asText (first :: rest) with _ | n <;> rfl

theorem answers_item (h : w.Holding st s name id k items) (bound : items.length < 2 ^ 63) {n : Nat}
    (inside : n < items.length) :
    Answers w s name .itemOfList "INDEX" (.text (natText (n + 1))) items[n] := by
  intro depth flag args w1 ready index
  have read := h.run_item ready index
  rwa [asInt_position (by omega), place?_natCast (by omega) (by omega), Option.bind_some, Nat.add_sub_cancel,
    List.getElem?_eq_getElem inside] at read

/-- The block that looks for an item in a list of texts answers zero exactly if the list does not have the text
of the item, and this is what the block answers that asks for it. Else it answers the first position that has
it: read there, the list gives the text, and at each position before, another one. No attribute of the sprite
hides the method of a block that is ready. -/
theorem search_agrees_with_access (h : w.Holding st s name id k items) (bound : items.length < 2 ^ 63) (v : Value) :
    ∃ answer, Answers w s name .itemNumberOfList "ITEM" v answer ∧
      Answers w s name .listContainsItem "ITEM" v (if answer = "0" then "False" else "True") ∧
      (answer = "0" ↔ v.asText ∉ items) ∧
      (answer ≠ "0" → Answers w s name .itemOfList "INDEX" (.text answer) v.asText ∧
        ∃ n, answer = natText n ∧ ∀ j, 1 ≤ j → j < n → ∃ other, other ≠ v.asText ∧
          Answers w s name .itemOfList "INDEX" (.text (natText j)) other) := by
  have contains := answers_contains h v
  refine ⟨_, answers_number h v, ?_⟩
  rcases found : items.idxOf? v.asText with _ | n
  · have absent : v.asText ∉ items := List.idxOf?_eq_none_iff.1 found
    rw [if_neg absent] at contains
    exact ⟨contains, ⟨fun _ => absent, fun _ => rfl⟩, fun other => absurd rfl other⟩
  · obtain ⟨inside, there, before⟩ := List.idxOf?_eq_some_iff.1 found
    have present : v.asText ∈ items := there ▸ List.getElem_mem inside
    have nonzero : placeText (some n) ≠ "0" := fun zero => by cases natText_injective (m := 0) zero
    rw [if_pos present] at contains
    rw [if_neg nonzero]
    refine ⟨contains, ⟨fun zero => absurd zero nonzero, absurd present⟩, fun _ => ⟨?_, n + 1, rfl, ?_⟩⟩
    · exact there ▸ answers_item h bound inside
    · intro j low high
      obtain ⟨i, rfl⟩ : ∃ i, j = i + 1 := ⟨j - 1, by omega⟩
      exact ⟨_, before i (by omega), answers_item h bound (by omega)⟩

/-- A stage with a list that has an item twice, and blocks on the list. -/
def searched : World := Archive.world (.ofTargets [
  Archive.target "Stage" true [] [("g", Session.textList "L" ["a", "7", "7"])] [
    ("n", Session.listBlock "data_itemnumoflist" [("ITEM", .literal "7")]),
    ("c", Session.listBlock "data_listcontainsitem" [("ITEM", .literal "7")]),
    ("i", Session.listBlock "data_itemoflist" [("INDEX", .literal "2")])]])

theorem search_agrees_with_access_searched :
    searched.Holding 0 0 (.text "L") "g" 0 ["a", "7", "7"] ∧
      ((runBlock 0 (.text "n") false).play searched).1 = .ok (.text "2") ∧
      ((runBlock 0 (.text "c") false).play searched).1 = .ok (.text "True") ∧
      ((runBlock 0 (.text "i") false).play searched).1 = .ok (.text "7") := by
  have holding : searched.Holding 0 0 (.text "L") "g" 0 ["a", "7", "7"] :=
    ⟨rfl, rfl, ⟨rfl, fun part => by cases part <;> rfl⟩, ⟨rfl, fun part => by cases part <;> rfl⟩, rfl, .inl rfl, rfl⟩
  let depth := 2 * searched.fuel.toNat + 3
  have places : Ready depth searched 0 (.text "n") (.text "L") .itemNumberOfList
      [("LIST", .text "L"), ("ITEM", .text "7")] (searched.enter "Stage" "data_itemnumoflist") :=
    ⟨by decide, ⟨"Stage", _, _, ⟨rfl, rfl, rfl⟩, rfl, rfl, rfl⟩, World.Apart.sameView ⟨rfl, rfl, rfl, rfl, rfl⟩, rfl⟩
  have asks : Ready depth searched 0 (.text "c") (.text "L") .listContainsItem
      [("LIST", .text "L"), ("ITEM", .text "7")] (searched.enter "Stage" "data_listcontainsitem") :=
    ⟨by decide, ⟨"Stage", _, _, ⟨rfl, rfl, rfl⟩, rfl, rfl, rfl⟩, World.Apart.sameView ⟨rfl, rfl, rfl, rfl, rfl⟩, rfl⟩
  have reads : Ready depth searched 0 (.text "i") (.text "L") .itemOfList
      [("LIST", .text "L"), ("INDEX", .text "2")] (searched.enter "Stage" "data_itemoflist") :=
    ⟨by decide, ⟨"Stage", _, _, ⟨rfl, rfl, rfl⟩, rfl, rfl, rfl⟩, World.Apart.sameView ⟨rfl, rfl, rfl, rfl, rfl⟩, rfl⟩
  obtain ⟨answer, number, contains, -, access⟩ := search_agrees_with_access holding (by decide) (.text "7")
  have two : ((runBlock 0 (.text "n") false).play searched).1 = .ok (.text "2") := rfl
  have ran := (runBlock_play 0 (.text "n") false searched).trans (number _ _ _ _ places rfl)
  rw [ran] at two
  cases two
  have asked := (runBlock_play 0 (.text "c") false searched).trans (contains _ _ _ _ asks rfl)
  have read := (runBlock_play 0 (.text "i") false searched).trans ((access (by decide)).1 _ _ _ _ reads rfl)
  exact ⟨holding, congrArg Prod.fst ran, congrArg Prod.fst asked, congrArg Prod.fst read⟩

/-- With an attribute that is called like the block that asks for an item, only the other block finds it. -/
theorem hidden_contains_answers_null :
    let hider := searched.updateSprite 0 (·.put "data_listcontainsitem" (.text ""))
    ((runBlock 0 (.text "n") false).play hider).1 = .ok (.text "2") ∧
      ((runBlock 0 (.text "c") false).play hider).1 = .ok .null :=
  ⟨rfl, rfl⟩

end Data

end BlockStage
