import BlockStage.Proofs.Data.ListNames
import BlockStage.Proofs.Run.Tame

/-!
# How blocks change a list

A block that sets a list computes its items anew, which may fail, and then stores them: `Data.onList_eq`.
The new items are `Data.edited?`; each of them was there before, or is a text (`Data.edited?_yields`).
-/

namespace BlockStage

open Run

namespace Data

/-- The items of a list after a block has changed it. -/
def edited? (args : Arguments) (list : Found) : Data → Except Fault (List Value)
  | addToList => do
    let items ← list.items?
    return items ++ [.text (← args.need "ITEM").asText]
  | deleteOfList => do
    let items ← list.items?
    let i ← offset args
    if !fitsOffset i then throw .overflow
    return items.eraseIdx (← position items i)
  | insertAtList => do
    let items ← list.items?
    let i ← offset args
    let item := Value.text (← args.need "ITEM").asText
    if !fitsOffset i then throw .overflow
    return items.insertIdx (insertionPoint items.length i) item
  | replaceItemOfList => do
    let item := Value.text (← args.need "ITEM").asText
    let items ← match list.value with
      | .list items => pure items
      | _ => throw .wrongKind
    return items.set (← position items (← offset args)) item
  | _ => do
    let _ ← list.items?
    return []

/-- A block that sets a list stores what the items have become. -/
theorem onList_eq (args : Arguments) (list : Found) {b : Data} (sets : b ∈ setsList) :
    onList args list b = do
      store list (← edited? args list b)
      return .null := by
  simp only [setsList, List.mem_cons, List.not_mem_nil, or_false] at sets
  rcases sets with rfl | rfl | rfl | rfl | rfl <;> unfold onList edited? <;>
    simp only [Act.lift_bind, bind_assoc]
  · rfl
  · refine bind_congr fun items => bind_congr fun i => ?_
    split
    · rfl
    · simp only [Act.lift_bind, bind_assoc]
      rfl
  · rfl
  · refine bind_congr fun items => bind_congr fun i => bind_congr fun item => ?_
    split <;> rfl
  · refine bind_congr fun item => ?_
    cases list.value with
    | list items =>
      simp only [Act.lift_bind, bind_assoc, pure_bind]
      rfl
    | _ => rfl

theorem insertionPoint_le (length : Nat) (i : Int) : insertionPoint length i ≤ length := by
  unfold insertionPoint
  omega

theorem Found.yields_items? (list : Found) :
    Yields (fun items => list.value = .list items) list.items? := by
  unfold Found.items?
  split <;> simp_all

/-- What a block sets is a list, and each item that it has then was there before or is a text. -/
theorem edited?_yields (args : Arguments) (list : Found) (b : Data) :
    Yields (fun items' => ∃ items, list.value = .list items ∧ ∀ v ∈ items', v ∈ items ∨ ∃ s, v = .text s)
      (edited? args list b) := by
  have listed := list.yields_items?
  cases b with
  | addToList =>
    refine (Yields.bind _ _).2 (listed.mono fun items found => ?_)
    simp only [Yields.bind, Yields.pure]
    refine fun item _ => ⟨items, found, fun v mem => ?_⟩
    exact (List.mem_append.1 mem).imp_right fun new => ⟨_, List.mem_singleton.1 new⟩
  | deleteOfList =>
    refine (Yields.bind _ _).2 (listed.mono fun items found => ?_)
    simp only [Yields.bind, Yields.ite, Yields.throw, Yields.pure]
    refine fun i _ => ⟨fun _ => trivial, fun _ n _ => ?_⟩
    exact ⟨items, found, fun v mem => .inl (List.mem_of_mem_eraseIdx mem)⟩
  | insertAtList =>
    refine (Yields.bind _ _).2 (listed.mono fun items found => ?_)
    simp only [Yields.bind, Yields.ite, Yields.throw, Yields.pure]
    refine fun i _ item _ => ⟨fun _ => trivial, fun _ => ?_⟩
    refine ⟨items, found, fun v mem => ?_⟩
    rcases (List.mem_insertIdx (insertionPoint_le _ _)).1 mem with new | old
    · exact .inr ⟨_, new⟩
    · exact .inl old
  | replaceItemOfList =>
    simp only [edited?, Yields.bind]
    refine fun item _ => ?_
    cases list.value with
    | list items =>
      simp only [Yields.bind, Yields.pure]
      refine fun i _ n _ => ⟨items, rfl, fun v mem => ?_⟩
      rcases List.mem_or_eq_of_mem_set mem with old | new
      · exact .inl old
      · exact .inr ⟨_, new⟩
    | _ => simp
  | _ =>
    refine (Yields.bind _ _).2 (listed.mono fun items found => (Yields.pure _).2 ?_)
    exact ⟨items, found, by simp⟩

end Data

end BlockStage
