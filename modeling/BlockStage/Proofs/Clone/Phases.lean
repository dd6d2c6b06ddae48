import BlockStage.Proofs.Clone.Wiring

/-!
# The two phases of a clone

The script of a clone that deletes itself has to come to an end on every level. As long as no deletion was
entered, a clone is `Alive`; then it is `Gone`, and no block is entered. `Unwinds` says of a run that it
goes from one phase to the other at most, `Spared` and `Hushed` that it stays in the first or the second.
-/

namespace BlockStage

open Run World

variable {r : Request}

/-! ## What is logged -/

/-- Whether a line says that a deletion is entered. -/
def LogLine.deletes : LogLine → Bool
  | .entered _ opcode => opcode = "control_delete_this_clone"
  | _ => false

theorem LogLine.deletes_of_isEntry {line : LogLine} (h : line.isEntry = false) : line.deletes = false := by
  cases line with
  | entered sprite opcode => cases h
  | _ => rfl

/-! ## The phases of a run -/

namespace Footing

/-- What is true of a sprite on a footing whose clone mode is `mode`. -/
structure Steady (c : Footing) (mode : CloneMode) (w : World) : Prop where
  sound : c.Sound w
  free : (w.sprite c.me).hides "control_delete_this_clone" = false
  mode : Table.get? (w.sprite c.me).fields CloneMode.key = some mode.value

variable {c : Footing} {mode : CloneMode} {w0 w w' : World}

/-- Requests that delete no clone keep the attributes of a sprite that scripts do not change. -/
theorem Holds.attributes (hw : c.Holds w) (p : Player) (tame : r.Tame c.kit)
    (spares : ∀ i, r ≠ .delete i) {key : String} (hkey : key ∉ changingKeys) :
    Table.get? (((r.perform p).play w).2.sprite c.me).fields key =
      Table.get? (w.sprite c.me).fields key := by
  rcases tame with ordinary | runtime | ⟨id, v, rfl, -⟩
  · exact ((ordinary.alters p w).kept c.me).attributes key hkey
  · have manages := runtime.manages p w
    generalize ((r.perform p).play w).2 = w' at manages ⊢
    cases manages with
    | goOn _ _ => rfl
    | clone i => rw [w.sprite_addClone_of_lt i (lt_of_attribute hw.shared)]
    | delete i => exact absurd rfl (spares i)
    | bind i script name v =>
      rcases w.sprite_updateSprite i c.me (·.bind script name v) with same | same <;> rw [same]
      rfl
  · show Table.get? (((w.write? _ v).getD w).sprite c.me).fields key = _
    rcases w.written_mutation c.kit id v with same | ⟨b, -, same⟩ <;> rw [same]
    rfl

namespace Steady

theorem holds (h : c.Steady mode w) : c.Holds w := h.sound.1

/-- What is no matter of the sprites leaves a sprite as it is. -/
theorem apart (h : c.Steady mode w) (other : w.Apart w') : c.Steady mode w' := by
  have same : w'.sprite c.me = w.sprite c.me := by rw [sprite, sprite, other.sprites]
  exact ⟨⟨Footing.stable_holds.apart h.holds other, Footing.stable_wired.apart h.sound.2 other⟩,
    same ▸ h.free, same ▸ h.mode⟩

theorem request (h : c.Steady mode w) (p : Player) (single : r.Single)
    (tame : r.Tame c.kit) (spares : ∀ i, r ≠ .delete i) : c.Steady mode ((r.perform p).play w).2 := by
  have move : w.Moves (Request.Tame c.kit) ((r.perform p).play w).2 := .ask p w single tame
  refine ⟨⟨Footing.stable_holds h.holds move, Footing.stable_wired h.sound.2 move⟩, ?_, ?_⟩
  · rw [Sprite.hides, Table.has, h.holds.attributes p tame spares (by decide)]
    exact h.free
  · rw [h.holds.attributes p tame spares (by decide)]
    exact h.mode

theorem hasMode? (h : c.Steady mode w) (other : CloneMode) :
    (w.sprite c.me).hasMode? other = .ok (mode.value.same other.value) := by
  rw [Sprite.hasMode?, Sprite.get?, h.mode]
  rfl

end Steady

/-- No deletion was entered since some world, and the clone is one. -/
structure Alive (c : Footing) (w0 w : World) : Prop where
  steady : c.Steady .clone w
  log : ∃ new, w.log.toList = w0.log.toList ++ new ∧ ∀ line ∈ new, line.deletes = false

/-- A deletion was entered since some world, and no block after it. -/
def Logged (w0 w : World) : Prop :=
  ∃ before name after, w.log.toList =
      w0.log.toList ++ before ++ .entered name "control_delete_this_clone" :: after ∧
    (∀ line ∈ before, line.deletes = false) ∧ ∀ line ∈ after, line.isEntry = false

/-- A deletion was entered since some world, and no block after it. The clone is deleted. -/
structure Gone (c : Footing) (w0 w : World) : Prop where
  steady : c.Steady .deleted w
  log : Logged w0 w

/-- What comes of a run in which a deletion is entered at most once, and nothing after it. If there was no
fuel to enter the deletion, the clone is still there. -/
def Ends {α : Type} (c : Footing) (w0 : World) (out : Except Stop α × World) : Prop :=
  c.Alive w0 out.2 ∨ c.Gone w0 out.2 ∨
    (out.1 = .error (.killed .fuel) ∧ c.Steady .clone out.2 ∧ ∃ before name,
      out.2.log.toList = w0.log.toList ++ before ++ [.entered name "control_delete_this_clone"] ∧
        ∀ line ∈ before, line.deletes = false)

theorem Alive.refl (h : c.Steady .clone w) : c.Alive w w := ⟨h, [], by simp, nofun⟩

theorem Alive.adds (h : c.Alive w0 w) (steady : c.Steady .clone w') (adds : w.Adds w') : c.Alive w0 w' := by
  obtain ⟨old, hold, none⟩ := h.log
  obtain ⟨new, hnew, others⟩ := adds
  refine ⟨steady, old ++ new, by rw [hnew, hold, List.append_assoc], fun line mem => ?_⟩
  rcases List.mem_append.1 mem with mem | mem
  · exact none line mem
  · exact LogLine.deletes_of_isEntry (others line mem)

theorem Gone.adds (h : c.Gone w0 w) (steady : c.Steady .deleted w') (adds : w.Adds w') : c.Gone w0 w' := by
  obtain ⟨before, name, after, hlog, none, quiet⟩ := h.log
  obtain ⟨new, hnew, others⟩ := adds
  refine ⟨steady, before, name, after ++ new, by rw [hnew, hlog]; simp, none, fun line mem => ?_⟩
  rcases List.mem_append.1 mem with mem | mem
  · exact quiet line mem
  · exact others line mem

/-! ## Runs -/

def Spared {α : Type} (c : Footing) (r : Run α) : Prop := ∀ w0, r.Always (c.Alive w0)

/-- A run that enters no block once the clone is deleted. -/
def Hushed {α : Type} (c : Footing) (r : Run α) : Prop := ∀ w0, r.Always (c.Gone w0)

/-- A run that enters a deletion at most once, and nothing after it. -/
def Unwinds {α : Type} (c : Footing) (r : Run α) : Prop := ∀ w0 w, c.Alive w0 w → c.Ends w0 (r.play w)

section

variable {α β : Type} {r : Run α}

theorem Spared.unwinds (h : c.Spared r) : c.Unwinds r := fun w0 w hw => .inl (h w0 w hw)

theorem Ends.error {e : Stop} (h : c.Ends w0 ((.error e : Except Stop α), w)) :
    c.Ends w0 ((.error e : Except Stop β), w) :=
  h.imp_right (.imp_right fun ⟨killed, rest⟩ => ⟨congrArg _ (Except.error.inj killed), rest⟩)

theorem Unwinds.pure (a : α) : c.Unwinds (pure a) := Spared.unwinds fun _ => .pure a

theorem Unwinds.throw (e : Stop) : c.Unwinds (throw e : Run α) := Spared.unwinds fun _ => .throw e

namespace Unwinds

theorem bind {k : α → Run β} (hr : c.Unwinds r) (hk : ∀ a, c.Unwinds (k a))
    (hush : ∀ a, c.Hushed (k a)) : c.Unwinds (r >>= k) := by
  intro w0 w hw
  have first := hr w0 w hw
  rw [play_bind]
  rcases hp : r.play w with ⟨e | a, w'⟩ <;> rw [hp] at first
  · exact first.error
  · rcases first with alive | gone | ⟨never, -⟩
    · exact hk a w0 w' alive
    · exact .inr (.inl (hush a w0 w' gone))
    · cases never

theorem bind_pure {f : α → β} (h : c.Unwinds r) : c.Unwinds (r >>= fun a => Pure.pure (f a)) :=
  h.bind (fun _ => .pure _) fun _ _ => .pure _

theorem after {Q : α → Prop} {k : α → Run β}
    (hr : ∀ w0 w, c.Alive w0 w → c.Alive w0 (r.play w).2 ∧ ∀ a, (r.play w).1 = .ok a → Q a)
    (hk : ∀ a, Q a → c.Unwinds (k a)) : c.Unwinds (r >>= k) := by
  intro w0 w hw
  obtain ⟨alive, answers⟩ := hr w0 w hw
  rw [play_bind]
  rcases hp : r.play w with ⟨e | a, w'⟩ <;> rw [hp] at alive answers
  · exact .inl alive
  · exact hk a (answers a rfl) w0 w' alive

theorem after_spared {k : α → Run β} (hr : c.Spared r) (hk : ∀ a, c.Unwinds (k a)) :
    c.Unwinds (r >>= k) :=
  after (Q := fun _ => True) (fun w0 w hw => ⟨hr w0 w hw, fun _ _ => trivial⟩) fun a _ => hk a

theorem get_bind {k : World → Run α} (h : ∀ w, c.Steady .clone w → c.Unwinds (k w)) :
    c.Unwinds (get >>= k) := fun w0 w hw => h w hw.steady w0 w hw

theorem lift_bind {e : Except Fault α} {k : α → Run β} (h : ∀ a, e = .ok a → c.Unwinds (k a)) :
    c.Unwinds ((liftM e : Run α) >>= k) := by
  cases e with
  | error f => exact .throw _
  | ok a => exact h a rfl

theorem attempt (h : c.Unwinds r) : c.Unwinds (attempt r) := by
  intro w0 w hw
  have ends := h w0 w hw
  rw [play_attempt]
  rcases hp : r.play w with ⟨(f | _ | _) | _, w'⟩ <;> rw [hp] at ends
  · exact ends.imp_right (.imp_right fun ⟨killed, _⟩ => by cases killed)
  · exact ends.error
  · exact ends.error
  · exact ends.imp_right (.imp_right fun ⟨killed, _⟩ => by cases killed)

end Unwinds

theorem Hushed.get_bind {k : World → Run α} (h : ∀ w, c.Steady .deleted w → c.Hushed (k w)) :
    c.Hushed (get >>= k) := fun w0 w hw => h w hw.steady w0 w hw

end

theorem Alive.noteFailure (h : c.Alive w0 w) (flag : Value) (f : Fault) :
    c.Alive w0 (w.noteFailure flag f) := h.adds (h.steady.apart ⟨rfl, rfl, rfl, rfl, rfl⟩) (.push rfl rfl)

theorem Gone.noteFailure (h : c.Gone w0 w) (flag : Value) (f : Fault) :
    c.Gone w0 (w.noteFailure flag f) := h.adds (h.steady.apart ⟨rfl, rfl, rfl, rfl, rfl⟩) (.push rfl rfl)

theorem Spared.contain {flag : Value} {r : Run Value} (h : c.Spared r) : c.Spared (contain flag r) := fun w0 =>
  (h w0).contain_of fun _ f kept => kept.noteFailure flag f

theorem Unwinds.contain {flag : Value} {r : Run Value} (h : c.Unwinds r) : c.Unwinds (contain flag r) := by
  intro w0 w hw
  have ends := h w0 w hw
  rw [contain_play]
  rcases hp : r.play w with ⟨((f | _) | _ | _) | _, w'⟩ <;> rw [hp] at ends
  · rcases ends with alive | gone | ⟨never, -⟩
    · exact .inl (alive.noteFailure flag f)
    · exact .inr (.inl (gone.noteFailure flag f))
    · cases never
  all_goals exact ends

/-! ## Requests -/

theorem spared_request (p : Player) (single : r.Single) (tame : r.Tame c.kit)
    (spares : ∀ i, r ≠ .delete i) : c.Spared (r.perform p) := fun _ w hw =>
  hw.adds (hw.steady.request p single tame spares) (r.adds_perform p tame w)

theorem hushed_request (p : Player) (single : r.Single) (tame : r.Tame c.kit)
    (spares : ∀ i, r ≠ .delete i) : c.Hushed (r.perform p) := fun _ w hw =>
  hw.adds (hw.steady.request p single tame spares) (r.adds_perform p tame w)

/-- How scripts are run that enter a deletion at most once, and none in a block that only reports. -/
structure Runs (c : Footing) (p : Player) : Prop where
  trusts : c.Trusts p
  unwinds : ∀ flag next, c.Unwinds (p.run c.me flag next)
  spared : ∀ flag next, Outline.Reports c.blocks flag → c.Spared (p.run c.me flag next)

section

variable {p : Player} {flag : Value} (hp : c.Runs p)

include hp

theorem spared_reads (h : r.Ordinary ∨ c.Reads r) : c.Spared (r.perform p) := by
  cases r with
  | run i flag =>
    obtain ⟨rfl, reports⟩ : c.Reads (.run i flag) := h.resolve_left id
    exact hp.spared flag true reports
  | attempt _ _ _ | invoke _ _ _ => exact (h.elim id id).elim
  | addClone _ | start _ _ | stop | tick => exact spared_request p trivial (.inr (.inl trivial)) nofun
  | delete i => exact (h.elim id id).elim
  | _ => exact spared_request p trivial (.inl (h.resolve_right id)) nofun

theorem spared_within {α : Type} {Q : α → Prop} {act : Act α} (h : act.Within c.Sound c.Reads Q)
    (w0 w : World) (hw : c.Alive w0 w) : c.Alive w0 ((act.perform p).play w).2 ∧
      ∀ a, ((act.perform p).play w).1 = .ok a → Q a := by
  refine h.always (fun _ h => h.steady.sound) (fun r a reads => ?_) (fun _ h => spared_reads hp h w0) w hw
  cases r with
  | run _ _ | addClone _ | start _ _ | stop | tick => trivial
  | _ => exact reads.elim

end

end Footing

end BlockStage
