import BlockStage.Script.Run

/-!
# What runs do to the world

`Run.play` carries a run out from a world. Every way of putting runs together has its equation here, so that
proofs about scripts never open the monad. `play_bind_congr` is what simulations are built from.
-/

namespace BlockStage

variable {w w' : World} {flag : Value}

namespace Run

variable {α β : Type}

/-- What comes of a run that starts in a world, and the world it leaves. -/
def play (r : Run α) (w : World) : Except Stop α × World := r.run.run w

@[simp] theorem play_pure (a : α) (w : World) : (pure a : Run α).play w = (.ok a, w) := rfl

@[simp] theorem play_throw (e : Stop) (w : World) : (throw e : Run α).play w = (.error e, w) := rfl

@[simp] theorem play_get (w : World) : (get : Run World).play w = (.ok w, w) := rfl

@[simp] theorem play_modify (f : World → World) (w : World) :
    (modify f : Run Unit).play w = (.ok (), f w) := rfl

@[simp] theorem play_log (line : LogLine) (w : World) :
    (log line).play w = (.ok (), { w with log := w.log.push line }) := rfl

@[simp] theorem play_lift (e : Except Fault α) (w : World) :
    (liftM e : Run α).play w = (e.mapError (.fault ·), w) := by
  cases e <;> rfl

theorem play_bind (r : Run α) (f : α → Run β) (w : World) : (r >>= f).play w =
      match r.play w with
      | (.ok a, w') => (f a).play w'
      | (.error e, w') => (.error e, w') := by
  unfold play
  rw [ExceptT.run_bind, StateT.run_bind]
  rcases StateT.run (ExceptT.run r) w with ⟨_ | _, _⟩ <;> rfl

@[simp] theorem lift_ok_bind (a : α) (f : α → Run β) :
    ((liftM (Except.ok a : Except Fault α) : Run α) >>= f) = f a := rfl

theorem play_bind_ok {r : Run α} {a : α} (h : r.play w = (.ok a, w'))
    (f : α → Run β) : (r >>= f).play w = (f a).play w' := by
  rw [play_bind, h]

theorem play_get_bind (f : World → Run α) : (get >>= f).play w = (f w).play w := play_bind_ok (play_get w) f

theorem play_modify_bind (g : World → World) (f : Unit → Run α) :
    (modify g >>= f).play w = (f ()).play (g w) := play_bind_ok (play_modify g w) f

theorem play_bind_error {r : Run α} {e : Stop} (h : r.play w = (.error e, w'))
    (f : α → Run β) : (r >>= f).play w = (.error e, w') := by
  rw [play_bind, h]

theorem play_bind_eq_ok {r : Run α} {f : α → Run β} {w'' : World} {b : β}
    (h : (r >>= f).play w = (.ok b, w'')) :
    ∃ a w', r.play w = (.ok a, w') ∧ (f a).play w' = (.ok b, w'') := by
  rw [play_bind] at h
  rcases hr : r.play w with ⟨e | a, w'⟩ <;> rw [hr] at h
  · cases h
  · exact ⟨a, w', rfl, h⟩

theorem play_bind_eq_error {r : Run α} {f : α → Run β} {w'' : World} {e : Stop}
    (h : (r >>= f).play w = (.error e, w'')) :
    r.play w = (.error e, w'') ∨ ∃ a w', r.play w = (.ok a, w') ∧ (f a).play w' = (.error e, w'') := by
  rw [play_bind] at h
  rcases hr : r.play w with ⟨e' | a, w'⟩ <;> rw [hr] at h
  · cases h
    exact .inl rfl
  · exact .inr ⟨a, w', rfl, h⟩

theorem play_tryCatch (r : Run α) (handle : Stop → Run α) (w : World) : (tryCatch r handle).play w =
      match r.play w with
      | (.ok a, w') => (.ok a, w')
      | (.error e, w') => (handle e).play w' := by
  unfold play ExceptT.run StateT.run
  simp only [tryCatch, tryCatchThe, MonadExceptOf.tryCatch, ExceptT.tryCatch, ExceptT.mk, bind,
    StateT.bind]
  rcases r w with ⟨_ | _, _⟩ <;> rfl

theorem play_attempt (r : Run α) (w : World) : (attempt r).play w =
      match r.play w with
      | (.ok a, w') => (.ok (.ok a), w')
      | (.error (.fault f), w') => (.ok (.error f), w')
      | (.error other, w') => (.error other, w') := by
  unfold attempt
  rw [play_bind, play_tryCatch, play_bind]
  rcases r.play w with ⟨(f | _ | _) | _, w'⟩ <;> rfl

/-- An attempt leaves the world that what it tries leaves. -/
theorem attempt_world (r : Run α) (w : World) : ((attempt r).play w).2 = (r.play w).2 := by
  rw [play_attempt]
  rcases r.play w with ⟨(f | _ | _) | _, w'⟩ <;> rfl

theorem play_bind_congr {r s : Run α} {f g : α → Run β} (h : r.play w = s.play w)
    (hfg : ∀ a w', s.play w = (.ok a, w') → (f a).play w' = (g a).play w') :
    (r >>= f).play w = (s >>= g).play w := by
  rcases hs : s.play w with ⟨e | a, w'⟩
  · rw [play_bind_error (h.trans hs), play_bind_error hs]
  · rw [play_bind_ok (h.trans hs), play_bind_ok hs, hfg a w' hs]

end Run

/-! ## Acts that are carried out -/

namespace Act

variable {α β : Type} (p : Player)

@[simp] theorem perform_pure (a : α) : (pure a : Act α).perform p = pure a := rfl

@[simp] theorem perform_ret (a : α) : (Act.ret a).perform p = pure a := rfl

@[simp] theorem perform_lift (e : Except Fault α) : (liftM e : Act α).perform p = (liftM e : Run α) := by
  cases e <;> rfl

@[simp] theorem lift_ok_bind (a : α) (f : α → Act β) :
    ((liftM (Except.ok a : Except Fault α) : Act α) >>= f) = f a := rfl

theorem lift_bind (e : Except Fault α) (k : α → Except Fault β) :
    (liftM (e >>= k) : Act β) = ((liftM e : Act α) >>= fun a => liftM (k a)) := by
  cases e <;> rfl

@[simp] theorem perform_look : Act.look.perform p = get := rfl

variable {p} {w w' : World}

theorem play_bind_ok {act : Act α} {a : α} (h : (act.perform p).play w = (.ok a, w')) (f : α → Act β) :
    ((act >>= f).perform p).play w = ((f a).perform p).play w' := by
  rw [perform_bind, Run.play_bind_ok h]

theorem play_look_bind (f : World → Act α) : ((Act.look >>= f).perform p).play w = ((f w).perform p).play w := by
  rw [perform_bind, perform_look, Run.play_get_bind]

variable (p)

@[simp] theorem perform_run (me : Nat) (flag : Value) :
    (Act.run me flag).perform p = p.run me flag true :=
  bind_pure _

end Act

/-! ## Entering a block and giving it up -/

/-- Whether a line tells that a block was entered. -/
@[simp] def LogLine.isEntry : LogLine → Bool
  | .entered _ _ => true
  | _ => false

namespace World

def enter (w : World) (sprite opcode : String) : World :=
  { w with log := w.log.push (.entered sprite opcode), fuel := w.fuel - 1 }

def noteFailure (w : World) (flag : Value) (f : Fault) : World :=
  { w with log := w.log.push (.blockFailed flag.asText f) }

end World

theorem World.record_eq (w : World) (c : Call) :
    ∃ calls printed, w.record c = { w with calls := calls, printed := printed } := by
  unfold World.record
  split
  · exact ⟨_, _, rfl⟩
  · exact ⟨_, w.printed, rfl⟩

theorem World.records_eq (w : World) (calls : List Call) :
    ∃ noted printed, calls.foldl World.record w = { w with calls := noted, printed := printed } := by
  induction calls generalizing w with
  | nil => exact ⟨_, _, rfl⟩
  | cons call rest ih =>
    obtain ⟨_, _, first⟩ := w.record_eq call
    obtain ⟨noted, printed, later⟩ := ih (w.record call)
    exact ⟨noted, printed, by rw [List.foldl_cons, later, first]⟩

theorem enterBlock_play (sprite opcode : String) (w : World) : (enterBlock sprite opcode).play w =
      (if w.fuel - 1 < 0 then .error (.killed .fuel) else .ok (), w.enter sprite opcode) := by
  unfold enterBlock
  simp only [Run.play_bind, Run.play_log, Run.play_modify, Run.play_get]
  by_cases h : w.fuel - 1 < 0 <;> simp [h, World.enter]

theorem contain_play (flag : Value) (block : Run Value) (w : World) : (contain flag block).play w =
      match block.play w with
      | (.error (.fault (.error f)), w') => (.ok .null, w'.noteFailure flag f)
      | other => other := by
  unfold contain
  rw [Run.play_bind, Run.play_tryCatch, Run.play_bind]
  rcases block.play w with ⟨((f | _) | _ | _) | _, w'⟩ <;> rfl

theorem contain_play_congr {r s : Run Value} (h : r.play w = s.play w) :
    (contain flag r).play w = (contain flag s).play w := by
  rw [contain_play, contain_play, h]

theorem contain_ok {r : Run Value} {v : Value} (done : r.play w = (.ok v, w')) :
    (contain flag r).play w = (.ok v, w') := by
  rw [contain_play, done]

theorem contain_fault {r : Run Value} {f : Fault} (failed : r.play w = (.error (.fault f), w')) :
    (contain flag r).play w = (.ok .null, w'.noteFailure flag f) := by
  rw [contain_play, failed]

/-- A block that is over has done what it does, or was given up for an error. -/
theorem contain_eq_ok {v : Value} {r : Run Value} (h : (contain flag r).play w = (.ok v, w')) :
    r.play w = (.ok v, w') ∨ ∃ (f : Fault) (w1 : World), r.play w = (.error (.fault f), w1) ∧
      v = .null ∧ w' = w1.noteFailure flag f := by
  rw [contain_play] at h
  rcases hr : r.play w with ⟨((f | _) | _ | _) | a, w1⟩ <;> rw [hr] at h
  · cases h
    exact .inr ⟨f, w1, rfl, rfl, rfl⟩
  · cases h
  · cases h
  · cases h
  · exact .inl h

theorem contain_eq_error {r : Run Value} {e : Stop} (h : (contain flag r).play w = (.error e, w')) :
    r.play w = (.error e, w') ∧ ∀ f : Fault, e ≠ .fault f := by
  rw [contain_play] at h
  rcases hr : r.play w with ⟨((f | _) | _ | _) | a, w1⟩ <;> rw [hr] at h
  · cases h
  · exact ⟨h, by cases h; simp⟩
  · exact ⟨h, by cases h; simp⟩
  · exact ⟨h, by cases h; simp⟩
  · cases h

/-- Sprites are found by their names, whatever else they have. -/
theorem World.named?_congr (w w' : World) (cast : w'.cast = w.cast)
    (same : ∀ i, (w'.sprite i).name? = (w.sprite i).name?) (title : Value) : w'.named? title = w.named? title := by
  rw [World.named?, World.named?, cast]
  induction w.cast with
  | nil => rfl
  | cons i rest ih => rw [firstNamed, firstNamed, same, ih]

/-! ## What a run keeps -/

/-- A run that leaves a world that satisfies `J` in such a world, however it ends. -/
def Run.Always {α : Type} (J : World → Prop) (r : Run α) : Prop := ∀ w, J w → J (r.play w).2

namespace Run.Always

variable {α β : Type} {J : World → Prop} {r : Run α}

theorem pure (a : α) : (pure a : Run α).Always J := fun _ hw => hw

theorem throw (e : Stop) : (throw e : Run α).Always J := fun _ hw => hw

theorem get_bind {k : World → Run α} (h : ∀ w, J w → (k w).Always J) : (get >>= k).Always J :=
  fun w hw => h w hw w hw

theorem get : (get : Run World).Always J := fun _ hw => hw

theorem lift (e : Except Fault α) : (liftM e : Run α).Always J := fun w hw => by
  rw [play_lift]
  exact hw

theorem modify {f : World → World} (h : ∀ w, J w → J (f w)) : (modify f : Run Unit).Always J := h

theorem bind {k : α → Run β} (hr : r.Always J) (hk : ∀ a, (k a).Always J) : (r >>= k).Always J :=
  fun w hw => by
    have kept := hr w hw
    rw [play_bind]
    rcases hp : r.play w with ⟨e | a, w'⟩ <;> rw [hp] at kept
    · exact kept
    · exact hk a w' kept

theorem lift_bind {e : Except Fault α} {k : α → Run β} (h : ∀ a, e = .ok a → (k a).Always J) :
    ((liftM e : Run α) >>= k).Always J := by
  cases e with
  | error f => exact .throw _
  | ok a => exact h a rfl

theorem mapM {f : α → Run β} (h : ∀ a, (f a).Always J) (l : List α) : (l.mapM f).Always J := by
  induction l with
  | nil => exact .pure _
  | cons a rest ih =>
    rw [List.mapM_cons]
    exact bind (h a) fun b => bind ih fun bs => .pure _

theorem forIn {f : α → β → Run (ForInStep β)} {l : List α} (h : ∀ a ∈ l, ∀ b, (f a b).Always J) (b : β) :
    (forIn l b f).Always J := by
  induction l generalizing b with
  | nil => exact .pure _
  | cons a rest ih =>
    rw [List.forIn_cons]
    refine bind (h a (.head _) b) fun step => ?_
    cases step with
    | done b => exact .pure _
    | yield b => exact ih (fun a mem => h a (.tail _ mem)) b

theorem attempt (h : r.Always J) : (attempt r).Always J := fun w hw => attempt_world r w ▸ h w hw

theorem contain_of {block : Run Value} (h : block.Always J)
    (noted : ∀ w f, J w → J (w.noteFailure flag f)) : (contain flag block).Always J := fun w hw => by
  have kept := h w hw
  rw [contain_play]
  rcases hb : block.play w with ⟨((f | _) | _ | _) | _, w'⟩ <;> rw [hb] at kept
  · exact noted w' f kept
  all_goals exact kept

end Run.Always

end BlockStage
