import BlockStage.Proofs.Stage.Monitors

/-!
# Rows and dragging of the monitors of lists

Before the rows of a list are drawn its items are shortened to ten characters, but the items themselves are
rendered (`Stage.list_rows_are_rendered_whole`). The place of the mouse is halved before it is looked for in the
panel, so a panel is dragged in the area of twice its place and size
(`Stage.lists_are_dragged_at_twice_their_place`).
-/

namespace BlockStage

open Run World

variable {w : World} {m : Monitor}

/-! ## What is rendered -/

theorem World.records_drawn {calls : List Call} (drawn : ∀ c ∈ calls, ∀ line, c ≠ .print line) (w : World) :
    calls.foldl World.record w = { w with calls := w.calls ++ calls.toArray } := by
  induction calls generalizing w with
  | nil => simp
  | cons c calls ih =>
    have pushed : w.record c = { w with calls := w.calls.push c } := by
      cases c
      case print line => exact absurd rfl (drawn _ (.head _) line)
      all_goals rfl
    rw [List.foldl_cons, ih (fun c mem => drawn c (.tail _ mem)), pushed]
    simp

/-- The text that is rendered by a call. -/
def Call.rendered? : Call → Option Value
  | .render text .. => some text
  | _ => none

namespace Panel

theorem clipped_eq_self_iff (s : String) :
    clipped s = s ↔ s.length ≤ 10 ∨ s.toList.drop 10 = "...".toList := by
  rw [clipped]
  by_cases few : s.length ≤ 10
  · simp [few]
  · rw [if_neg few, or_iff_right few, ← String.toList_inj, String.toList_append, String.toList_ofList]
    nth_rewrite 2 [← List.take_append_drop 10 s.toList]
    rw [List.append_cancel_left_eq, eq_comm]

theorem rendered_rows (board : Surface) (first : Number) (texts : List String) :
    (rows board first texts).filterMap Call.rendered? = texts.map .text := by
  induction texts generalizing first with
  | nil => rfl
  | cons s texts ih =>
    have row : (rowCalls board s first).filterMap Call.rendered? = [.text s] := by
      rw [rowCalls]
      split <;> rfl
    rw [rows_cons, List.filterMap_append, row, ih]
    rfl

theorem rows_drawn (board : Surface) (first : Number) (texts : List String) :
    ∀ c ∈ rows board first texts, ∀ line, c ≠ .print line := by
  rintro c mem line rfl
  obtain ⟨⟨s, i⟩, -, mem⟩ := List.mem_flatMap.1 mem
  simp only [rowCalls] at mem
  split at mem <;> simp [Call.text, Call.box] at mem

theorem Layout.rendered_drawing (l : Layout) (on : Surface) (texts : List String) :
    (l.drawing on texts).filterMap Call.rendered? = (texts ++ [l.title]).map .text := by
  rw [drawing, List.filterMap_append, List.map_append, ← rendered_rows l.board l.first]
  rfl

theorem Layout.drawing_drawn (l : Layout) (on : Surface) (texts : List String) {last : List Call}
    (ends : last <+: [.blit on l.board (.rect l.area)]) :
    ∀ c ∈ l.drawing on texts ++ last, ∀ line, c ≠ .print line := by
  rintro c mem line rfl
  rcases List.mem_append.1 mem with mem | mem
  · simp only [drawing, List.mem_append, List.mem_cons, Call.text, Call.box, reduceCtorEq, false_or, List.not_mem_nil,
      or_false] at mem
    exact rows_drawn l.board l.first texts _ mem line rfl
  · cases List.mem_singleton.1 (ends.subset mem)

/-- Whatever the hand does, the panel is drawn, and then put on the screen if nothing fails. -/
theorem calls_drawList {p : Panel} {l : Layout} (stands : p.Stands l) (texts : List String) (hand : Hand) (s : Pointer)
    (on : Surface) :
    ∃ n last e s', Reached l.height l.first texts.length n ∧ last <+: [.blit on l.board (.rect l.area)] ∧
      (drawList on p (.list (texts.map .text)) hand).react s = (e, s', l.drawing on (texts.take n) ++ last) := by
  obtain ⟨n, reached, drawn⟩ := react_drawBoard stands on texts
  obtain ⟨m, x, scroll, -⟩ := stands.scroll
  rw [drawList, Reaction.react_bind_ok (Paint.react_lift drawn s)]
  refine ⟨n, _, _, _, reached, ?_, rfl⟩
  dsimp only
  rcases dragged? l.area hand with why | _ | _
  · exact List.nil_prefix
  · exact List.prefix_rfl
  · have silent : ∃ e s', (speed hand).react s = (e, s', []) := by
      rw [speed, Reaction.react_bind_ok (Reaction.react_state s)]
      rcases s.look hand.mouse hand.now with _ | ⟨_, _⟩ <;> exact ⟨_, _, rfl⟩
    obtain ⟨e, s', sped⟩ := silent
    simp only [scroll, if_true, Reaction.ok_bind]
    rcases e with why | ⟨_, y⟩
    · rw [Reaction.react_bind, sped]
      exact List.nil_prefix
    · rw [Reaction.react_bind_ok sped]
      dsimp only
      rcases scrolled? (.num m) y with why | v
      · exact List.nil_prefix
      · exact List.prefix_rfl

end Panel

namespace Stage

/-- The rows of the monitor of a list of texts are the items from the first one on, as they are, up to one that
reaches below the panel. They read as the shortened items do if and only if none of these items is longer than ten
characters, but for those that end after ten characters and three dots. -/
theorem list_rows_are_rendered_whole {id : Value} {holder : Holder} {texts : List String} {l : Panel.Layout}
    (seen : m.Seen id "data_listcontents")
    (there : w.visible? m.sprite .lists id = .ok (some (holder, .list (texts.map .text))))
    (stands : (panel w m).Stands l) (n : Nat) :
    ∃ k last, Panel.Reached l.height l.first texts.length k ∧ last <+: [.blit screen l.board (.rect l.area)] ∧
      ((drawMonitor n m).play w).2.calls.toList = w.calls.toList ++ (l.drawing screen (texts.take k) ++ last) ∧
      (l.drawing screen (texts.take k) ++ last).filterMap Call.rendered? = (texts.take k ++ [l.title]).map .text ∧
      ((texts.take k).map Panel.clipped = texts.take k ↔
        ∀ s ∈ texts.take k, s.length ≤ 10 ∨ s.toList.drop 10 = "...".toList) := by
  obtain ⟨k, last, e, pointer, reached, ends, drawn⟩ := Panel.calls_drawList stands texts (hand w) w.pointer screen
  refine ⟨k, last, reached, ends, ?_, ?_, ?_⟩
  · rw [drawMonitor_list seen there drawn, World.records_drawn (l.drawing_drawn screen _ ends), World.scrolled]
    rcases e.toOption.join with _ | _ <;> simp
  · have silent : last.filterMap Call.rendered? = [] := by
      refine List.filterMap_eq_nil_iff.2 fun c mem => ?_
      rw [List.mem_singleton.1 (ends.subset mem)]
      rfl
    rw [List.filterMap_append, l.rendered_drawing, silent, List.append_nil]
  · nth_rewrite 2 [← List.map_id (texts.take k)]
    rw [List.map_inj_left]
    exact forall₂_congr fun s _ => Panel.clipped_eq_self_iff s

end Stage

/-- The monitor of a list, scrolled beyond its first item. -/
def Monitor.ofList : Monitor :=
  (panel "data_listcontents" "l" [("LIST", .text "L")]).put "show_y" (Value.int (-40))

/-- A sprite with a list, whose monitor is in the middle of the stage, and a mouse with its button held, some time
after it was last looked at. -/
def World.withList (texts : List String) (x y : Int) (ms : Int := 0) : World :=
  { (Archive.ofTargets [Archive.target "Stage" true [] [] [] [],
      Archive.target "Cat" false [] [("l", .list [.text "L", .list (texts.map .text)])] [] []]).world with
    host := { mouse := (.int x, .int y), buttons := [.bool true], clock := ms, start := 0 }
    monitors := [.ofList] }

/-- The panel of the list in the middle of the stage. -/
def Panel.Layout.middle : Layout :=
  ⟨Value.int 480, Value.int 360, ⟨480, 360, 100, 100⟩, .int 100, .int (-10), "L"⟩

theorem Monitor.ofList_seen : ofList.Seen (.text "l") "data_listcontents" := ⟨rfl, ⟨_, rfl, rfl⟩, rfl, rfl⟩

theorem Stage.panel_withList (texts : List String) (x y ms : Int) :
    (panel (withList texts x y ms) .ofList).Stands .middle where
  x := rfl
  y := rfl
  left := rfl
  top := rfl
  width := ⟨Value.int 100, rfl, rfl⟩
  height := rfl
  high := rfl
  size := by decide
  title := ⟨_, rfl, rfl⟩
  scroll := ⟨_, _, rfl, rfl, rfl⟩
  first := fun _ => ⟨-10, rfl⟩

/-- A list of five items, of which one is long. -/
def World.fiveItems : List String := ["one", "the second item", "three", "four", "five"]

theorem Stage.list_rows_are_rendered_whole_fiveItems :
    let w := withList fiveItems 0 0
    (Monitor.ofList.Seen (.text "l") "data_listcontents" ∧ (panel w .ofList).Stands .middle) ∧
      ∃ k last, Panel.Reached (.int 100) (.int (-10)) 5 k ∧
        ((drawMonitor 0 .ofList).play w).2.calls.toList =
          w.calls.toList ++ (Panel.Layout.middle.drawing screen (fiveItems.take k) ++ last) := by
  intro w
  have stands := panel_withList fiveItems 0 0 0
  have there : w.visible? 1 .lists (.text "l") = .ok (some (.kit 1, .list (fiveItems.map .text))) := rfl
  obtain ⟨k, last, reached, -, drawn, -⟩ := list_rows_are_rendered_whole Monitor.ofList_seen there stands 0
  exact ⟨⟨Monitor.ofList_seen, stands⟩, k, last, reached, drawn⟩

/-- The first four items are rendered, the second one with all its letters. -/
theorem Stage.long_item_is_rendered_whole :
    let w := withList fiveItems 0 0
    ((((drawMonitor 0 .ofList).play w).2.calls.toList.drop w.calls.size).filterMap Call.rendered?).map Value.asText =
      ["one", "the second item", "three", "four", "L"] ∧
      Panel.clipped "the second item" = "the second..." := by
  decide +kernel

/-! ## Where a panel is dragged -/

namespace Rect

/-- The pixels of an area. -/
def Covers (r : Rect) (x y : Int) : Prop := (r.x ≤ x ∧ x < r.x + r.w) ∧ r.y ≤ y ∧ y < r.y + r.h

instance (r : Rect) (x y : Int) : Decidable (r.Covers x y) := inferInstanceAs (Decidable ((_ ∧ _) ∧ _ ∧ _))

def doubled (r : Rect) : Rect := ⟨2 * r.x, 2 * r.y, 2 * r.w, 2 * r.h⟩

theorem holdsPoint_halves {x y : Float} {a b : Int} (hx : Binary.Halves (Binary.parts x) a)
    (hy : Binary.Halves (Binary.parts y) b) (r : Rect) :
    r.holdsPoint (.float x) (.float y) = decide (r.doubled.Covers a b) := by
  have between {x : Float} {a : Int} (h : Binary.Halves (Binary.parts x) a) (low high : Int) :
      (Number.le (.int low) (.float x) && Number.lt (.float x) (.int high)) = decide (2 * low ≤ a ∧ a < 2 * high) := by
    rw [Bool.eq_iff_iff]
    simp [Number.le, Number.lt, Number.compare?, h.compareInt, compare_lt_iff_lt, compare_gt_iff_gt, le_iff_lt_or_eq]
  rw [holdsPoint, Bool.and_assoc, Bool.and_assoc, ← Bool.and_assoc, between hx, between hy, Bool.eq_iff_iff,
    decide_eq_true_iff]
  simp [Covers, doubled, Int.mul_add]

/-- Twice an area is another one, if there is anything of it. -/
theorem covers_doubled_iff {r : Rect} (wide : 0 ≤ r.w) (high : 0 ≤ r.h) :
    (∀ x y, r.doubled.Covers x y ↔ r.Covers x y) ↔ r.w = 0 ∨ r.h = 0 := by
  refine ⟨fun same => ?_, fun none x y => ?_⟩
  · have corner := same (2 * r.x) (2 * r.y)
    have opposite := same (2 * r.x + 2 * r.w - 1) (2 * r.y + 2 * r.h - 1)
    simp only [Covers, doubled] at corner opposite
    omega
  · simp only [Covers, doubled]
    omega

end Rect

theorem Panel.dragged?_int {hand : Panel.Hand} {x y : Int} (mouse : hand.mouse = (.int x, .int y))
    (few : x.natAbs < 2 ^ 53 ∧ y.natAbs < 2 ^ 53) {v : Value} (held : hand.held = .ok v) (r : Rect) :
    dragged? r hand = .ok (decide (r.doubled.Covers x y) && v.holds) := by
  obtain ⟨x', half, hx⟩ := Binary.Halves.ofHalf few.1
  obtain ⟨y', half', hy⟩ := Binary.Halves.ofHalf few.2
  rw [dragged?, mouse, held, ← r.holdsPoint_halves hx hy]
  simp only [Number.div, half, half', Except.map, Except.ok_bind]
  rfl

namespace Stage

/-- With the button held, a panel is dragged where the mouse is over twice its area: then it is scrolled, and
otherwise not. It is put on the screen at its area, so it is dragged where it is seen only if there is nothing
of it to be seen. -/
theorem lists_are_dragged_at_twice_their_place {id v : Value} {holder : Holder} {texts : List String}
    {l : Panel.Layout} {x y : Int} (seen : m.Seen id "data_listcontents")
    (there : w.visible? m.sprite .lists id = .ok (some (holder, .list (texts.map .text))))
    (stands : (panel w m).Stands l) (mouse : w.host.mouse = (.int x, .int y))
    (few : x.natAbs < 2 ^ 53 ∧ y.natAbs < 2 ^ 53) (button : w.host.leftButton? = .ok v) (held : v.holds = true)
    (follows : (hand w).Follows w.pointer) (n : Nat) :
    (∃ k scroll, Panel.Reached l.height l.first texts.length k ∧
      (drawMonitor n m).play w = (.ok (), World.scrolled { w with
        calls := w.calls ++ (l.drawing screen (texts.take k) ++ [Call.blit screen l.board (.rect l.area)]).toArray
        pointer := if l.area.doubled.Covers x y then ⟨w.host.mouse, w.host.elapsed⟩ else w.pointer } n scroll) ∧
      (scroll.isSome ↔ l.area.doubled.Covers x y)) ∧
    ((∀ x y, l.area.doubled.Covers x y ↔ l.area.Covers x y) ↔ l.area.w = 0 ∨ l.area.h = 0) := by
  refine ⟨?_, Rect.covers_doubled_iff stands.size.1 stands.size.2⟩
  have drags : Panel.dragged? l.area (hand w) = _ := Panel.dragged?_int mouse few button l.area
  obtain ⟨k, scroll, reached, moved, drawn⟩ := Panel.react_drawList stands texts drags follows screen
  refine ⟨k, scroll, reached, ?_, by simp [moved, held]⟩
  rw [drawMonitor_list seen there drawn, World.records_drawn (l.drawing_drawn screen _ List.prefix_rfl)]
  simp only [held, Bool.and_true, decide_eq_true_eq]
  rfl

/-- The panel in the middle is dragged with the mouse beyond the corner of the stage. -/
theorem lists_are_dragged_at_twice_their_place_beyondCorner :
    let w := withList ["one"] 1000 800
    (w.host.mouse = (.int 1000, .int 800) ∧ (panel w .ofList).Stands .middle ∧ (hand w).Follows w.pointer) ∧
      Panel.Layout.middle.area.doubled.Covers 1000 800 ∧
      ∃ w' v, (drawMonitor 0 .ofList).play w = (.ok (), World.scrolled w' 0 (some v)) := by
  intro w
  have stands := panel_withList ["one"] 1000 800 0
  have follows : (hand w).Follows w.pointer := ⟨_, _, rfl⟩
  have covers : Panel.Layout.middle.area.doubled.Covers 1000 800 := by decide
  have there : w.visible? 1 .lists (.text "l") = .ok (some (.kit 1, .list (["one"].map .text))) := rfl
  obtain ⟨⟨k, scroll, -, drawn, moved⟩, -⟩ := lists_are_dragged_at_twice_their_place (x := 1000) (y := 800)
    Monitor.ofList_seen there stands rfl (by decide) rfl rfl follows 0
  obtain ⟨v, rfl⟩ := Option.isSome_iff_exists.1 (moved.2 covers)
  exact ⟨⟨rfl, stands, follows⟩, covers, _, v, drawn⟩

/-- With the mouse on the panel nothing is scrolled, and with the mouse beyond the corner of the stage the panel is. -/
theorem panel_is_dragged_elsewhere :
    let shown (x y : Int) : List String :=
      ((drawMonitor 0 .ofList).play (withList ["one"] x y 1000)).2.monitors.filterMap fun m : Monitor =>
        ((m.get? "show_y").map Value.asText).toOption
    Panel.Layout.middle.area.Covers 530 410 ∧ shown 530 410 = ["-40"] ∧
      ¬ Panel.Layout.middle.area.Covers 1000 780 ∧ shown 1000 780 = ["-1.0"] := by
  decide +kernel

end Stage

end BlockStage
