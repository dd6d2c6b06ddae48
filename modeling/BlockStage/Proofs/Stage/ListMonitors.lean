import BlockStage.Proofs.Run.Step

/-!
# Showing and hiding the monitors of lists

A block that shows or hides a list looks for its monitors by their ids, but compares these with the name of the
list: `Data.lists_are_shown_by_name`.
-/

namespace BlockStage

open Run

variable {L i : String} {visible : Bool}

namespace Monitor

variable {m : Monitor}

def isOf (m : Monitor) (id : String) : Bool := (m.get? "id").toOption.any (·.isText id)

/-- The monitor, shown or hidden if it has the id. -/
def displayed (id : String) (visible : Bool) (m : Monitor) : Monitor :=
  if m.isOf id then m.put "visible" (.bool visible) else m

theorem eq_of_isOf (h : m.isOf L = true) (h' : m.isOf i = true) : L = i := by
  cases own : m.get? "id" <;> simp_all [isOf, Except.toOption, Value.isText_iff]

theorem put_eq_self_iff {key : String} {v : Value} : m.put key v = m ↔ m.get? key = .ok v := by
  constructor
  · intro same
    rw [← same, get?, put, Table.get?_put_self]
  · intro found
    have there : Table.get? m.fields key = some v := by
      rw [get?] at found
      split at found <;> simp_all
    rw [put, Table.put_of_get? there]

/-- Two ids mean the same to a monitor if they are one, or if it has neither or is already so. -/
theorem displayed_eq_iff (other : L ≠ i) : m.displayed L visible = m.displayed i visible ↔
    (m.isOf L = true ∨ m.isOf i = true → m.get? "visible" = .ok (.bool visible)) := by
  have apart : ¬ (m.isOf L = true ∧ m.isOf i = true) := fun h => other (eq_of_isOf h.1 h.2)
  rw [displayed, displayed, ← put_eq_self_iff]
  cases hL : m.isOf L <;> cases hi : m.isOf i
  case true.true => exact absurd ⟨hL, hi⟩ apart
  case false.true => simp [eq_comm (a := m)]
  all_goals simp

end Monitor

namespace Data

theorem showMonitors_play (p : Player) (w : World) (before : List Monitor) {monitors : List Monitor}
    (identified : ∀ m ∈ monitors, ∃ v, m.get? "id" = .ok v) :
    ((showMonitors (.ok (.text L)) visible monitors before.length).perform p).play
        { w with monitors := before ++ monitors } =
      (.ok (), { w with monitors := before ++ monitors.map (·.displayed L visible) }) := by
  induction monitors generalizing before with
  | nil => rfl
  | cons m rest ih =>
    obtain ⟨v, own⟩ := identified m (.head _)
    have later := ih (before ++ [m.displayed L visible]) fun m mem => identified m (.tail _ mem)
    rw [List.length_append, List.append_assoc, List.append_assoc] at later
    have same : v.same (.text L) = m.isOf L := by
      rw [Monitor.isOf, own]
      cases v <;> rfl
    rw [showMonitors, own, Act.lift_ok_bind, Act.lift_ok_bind, same]
    rw [Monitor.displayed] at later
    cases hL : m.isOf L with
    | false =>
      rw [hL] at later
      simp only [List.map_cons, Monitor.displayed, hL]
      exact later
    | true =>
      rw [hL] at later
      simp only [List.map_cons, Monitor.displayed, hL, if_true]
      rw [Act.perform_bind]
      have shown : ((Act.ask (.showMonitor before.length visible) .ret : Act Unit).perform p).play
          { w with monitors := before ++ m :: rest } =
            (.ok (), { w with monitors := before ++ m.put "visible" (.bool visible) :: rest }) :=
        congrArg (fun monitors => (Except.ok (), { w with monitors })) (List.modifyTailIdx_add _ 0 before (m :: rest))
      rw [play_bind_ok shown]
      exact later

/-- The block that shows a list, or the one that hides it. -/
def showing (visible : Bool) : Data := if visible then .showList else .hideList

/-- A block for a list that it names, with the id that the list has. -/
structure Lists (b : Block) (L i : String) : Prop where
  inputs : b.get? "inputs" = .ok (.record [])
  field : b.get? "fields" = .ok (.record [("LIST", .list [.text L, .text i])])

theorem Lists.taken {b : Block} {w : World} {me : Nat} {flag : Value} (h : Lists b L i) (p : Player)
    (hnull : flag.isNull = false) (found : w.block? me flag = .ok b) :
    ((Arguments.eval me flag).perform p).play w = (.ok [("LIST", .text L)], w) :=
  Arguments.eval_play p hnull found ⟨h.inputs, _, h.field, rfl⟩

/-- A block that shows or hides a list changes the monitors whose id is the name of the list, and no others.
These are not the monitors whose id is that of the list, unless the name is the id, or all that have the one
or the other are already shown or hidden. -/
theorem lists_are_shown_by_name (p : Player) {w : World} {me : Nat} {flag : Value} {name opcode : String} {b : Block}
    (begins : w.Begins me flag name opcode (.data (showing visible)) b) (lists : Lists b L i)
    (identified : ∀ m ∈ w.monitors, ∃ v, m.get? "id" = .ok v) :
    let w' := { w.enter name opcode with monitors := w.monitors.map (·.displayed L visible) }
    (runWith p me flag false).play w = (.ok .null, w') ∧
      (w'.monitors = w.monitors.map (·.displayed i visible) ↔
        L = i ∨ ∀ m ∈ w.monitors, m.isOf L = true ∨ m.isOf i = true → m.get? "visible" = .ok (.bool visible)) := by
  intro w'
  have taken := lists.taken p begins.flag_ne_null (w := w.enter name opcode) begins.found
  have acted : (((showing visible).act me flag).perform p).play (w.enter name opcode) = (.ok .null, w') := by
    have looped := @showMonitors_play L visible p (w.enter name opcode) [] _ identified
    rw [act, Act.play_bind_ok taken]
    cases visible
    all_goals
      show ((Act.look >>= fun w => showMonitors (.ok (.text L)) _ w.monitors 0 >>= fun _ => pure Value.null).perform
        p).play _ = _
      rw [Act.play_look_bind, Act.perform_bind]
      exact play_bind_ok looped _
  refine ⟨(begins.run p).trans (contain_ok acted), ?_⟩
  rw [List.map_inj_left]
  by_cases one : L = i
  · subst one
    simp
  · simp only [one, false_or, Monitor.displayed_eq_iff one]

/-- A list, a block that hides it, its monitor, and the monitor of another list whose id is the name of the first. -/
def listShown : World :=
  { World.ofBlocks [("h", ⟨[("opcode", .text "data_hidelist"), ("inputs", .record []),
      ("fields", .record [("LIST", .list [.text "L", .text "i"])])]⟩)] with
    monitors := ["i", "L"].map fun id =>
      { fields := [("id", .text id), ("visible", .bool true)], place := (0, 0), sprite := 0 } }

theorem lists_are_shown_by_name_listShown : let ran := (runWith (player 4) 0 (.text "h") false).play listShown
    ran.1 = .ok .null ∧ ran.2.monitors = listShown.monitors.map (·.displayed "L" false) := by
  have identified : ∀ m ∈ listShown.monitors, ∃ v, m.get? "id" = .ok v := by
    simp only [listShown, List.map_cons, List.map_nil, List.forall_mem_cons]
    exact ⟨⟨_, rfl⟩, ⟨_, rfl⟩, nofun⟩
  have begins : listShown.Begins 0 (.text "h") "Cat" "data_hidelist" (.data (showing false)) _ :=
    ⟨⟨rfl, rfl, rfl⟩, rfl, rfl, by decide⟩
  have ran := (lists_are_shown_by_name (player 4) begins ⟨rfl, rfl⟩ identified).1
  rw [ran]
  exact ⟨rfl, rfl⟩

/-- The monitor of the list is still shown, and that of the other list is hidden. -/
theorem hidden_list_is_shown : ((runBlock 0 (.text "h") false).play listShown).2.monitors.map (·.get? "visible") =
    [.ok (.bool true), .ok (.bool false)] := rfl

end Data

end BlockStage
