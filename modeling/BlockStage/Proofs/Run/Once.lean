import BlockStage.Proofs.Run.Within

/-!
# What acts ask for in a world

`Act.Once p V Q B act w` follows an act from a world on: it only makes requests in `V`, each of them in the
world that it is made in, and at most one in `B`, after which only those in `V` are left. What it comes to
and the world then satisfy `Q`. Where a request does not come back, nothing is said.
-/

namespace BlockStage

open Run

namespace Act

variable {α β : Type}

def Once (p : Player) (V : World → Request → Prop) (Q : Except Failure α → World → Prop) :
    (World → Request → Prop) → Act α → World → Prop
  | _, .ret a, w => Q (.ok a) w
  | _, .fail f, w => Q (.error f) w
  | _, .endless, _ => False
  | B, .ask r k, w =>
    (V w r ∧ ∀ a w', (r.perform p).play w = (.ok a, w') → (k a).Once p V Q B w') ∨
      (B w r ∧ ∀ a w', (r.perform p).play w = (.ok a, w') → (k a).Once p V Q (fun _ _ => False) w')

namespace Once

variable {p : Player} {V B : World → Request → Prop} {Q Q' : Except Failure α → World → Prop}
  {R : Except Failure β → World → Prop} {act : Act α} {w : World}

theorem ask {r : Request} {k : r.Reply → Act α} (allowed : V w r)
    (h : ∀ a w', (r.perform p).play w = (.ok a, w') → (k a).Once p V Q B w') :
    (Act.ask r k).Once p V Q B w := .inl ⟨allowed, h⟩

theorem look {k : World → Act α} (allowed : V w .look) (h : (k w).Once p V Q B w) :
    (Act.look >>= k).Once p V Q B w := ask allowed fun a w' play => by
  cases play
  exact h

theorem lift_bind {e : Except Fault β} {k : β → Act α} (fault : ∀ f : Fault, e = .error f → Q (.error f) w)
    (ok : ∀ b, e = .ok b → (k b).Once p V Q B w) : (liftM e >>= k : Act α).Once p V Q B w := by
  cases e with
  | ok b => exact ok b rfl
  | error f => exact fault f rfl

theorem weaken {V' B' : World → Request → Prop} (h : act.Once p V Q B w) (hV : ∀ w r, V w r → V' w r)
    (hB : ∀ w r, B w r → B' w r) (hQ : ∀ e w', Q e w' → Q' e w') : act.Once p V' Q' B' w := by
  induction act generalizing w B B' with
  | ret a => exact hQ _ _ h
  | fail f => exact hQ _ _ h
  | endless => exact h
  | ask r k ih =>
    rcases h with ⟨allowed, later⟩ | ⟨once, later⟩
    · exact .inl ⟨hV w r allowed, fun a w' play => ih a (later a w' play) hB⟩
    · exact .inr ⟨hB w r once, fun a w' play => ih a (later a w' play) fun _ _ h => h⟩

theorem widen {B' : World → Request → Prop} (h : act.Once p V Q B w) (hB : ∀ w r, B w r → B' w r) :
    act.Once p V Q B' w := h.weaken (fun _ _ h => h) hB fun _ _ h => h

/-- What goes on where an act has ended may use up what the act has not. -/
theorem bind {f : α → Act β} (h : act.Once p V Q (fun _ _ => False) w)
    (ok : ∀ a w', Q (.ok a) w' → (f a).Once p V R B w') (fault : ∀ e w', Q (.error e) w' → R (.error e) w') :
    (act >>= f).Once p V R B w := by
  induction act generalizing w with
  | ret a => exact ok _ _ h
  | fail e => exact fault _ _ h
  | endless => exact h.elim
  | ask r k ih =>
    rcases h with ⟨allowed, later⟩ | ⟨never, -⟩
    · exact .inl ⟨allowed, fun a w' play => ih a (later a w' play)⟩
    · exact never.elim

/-- What goes on where an act has ended asks for nothing that is asked for once. -/
theorem bind_quiet {f : α → Act β} (h : act.Once p V Q B w)
    (ok : ∀ a w', Q (.ok a) w' → (f a).Once p V R (fun _ _ => False) w')
    (fault : ∀ e w', Q (.error e) w' → R (.error e) w') : (act >>= f).Once p V R B w := by
  induction act generalizing w B with
  | ret a => exact (ok _ _ h).widen fun _ _ h => h.elim
  | fail e => exact fault _ _ h
  | endless => exact h.elim
  | ask r k ih =>
    exact h.imp (fun ⟨allowed, later⟩ => ⟨allowed, fun a w' play => ih a (later a w' play)⟩)
      fun ⟨once, later⟩ => ⟨once, fun a w' play => ih a (later a w' play)⟩

/-- What comes of an act that is carried out, if no request of it meets a fault. -/
theorem ends (never : ∀ w r, V w r ∨ B w r → ∀ f w', (r.perform p).play w ≠ (.error (.fault f), w'))
    (h : act.Once p V Q B w) : (∀ a w', (act.perform p).play w = (.ok a, w') → Q (.ok a) w') ∧
      ∀ f w', (act.perform p).play w = (.error (.fault f), w') → Q (.error f) w' := by
  induction act generalizing w B with
  | ret a => exact ⟨fun _ _ play => by cases play; exact h, fun _ _ play => by cases play⟩
  | fail f => exact ⟨fun _ _ play => (by cases play), fun _ _ play => (by cases play; exact h)⟩
  | endless => exact h.elim
  | ask r k ih =>
    have allowed : V w r ∨ B w r := h.imp And.left And.left
    have later : ∀ a w', (r.perform p).play w = (.ok a, w') →
        (∀ b w'', ((k a).perform p).play w' = (.ok b, w'') → Q (.ok b) w'') ∧
          ∀ f w'', ((k a).perform p).play w' = (.error (.fault f), w'') → Q (.error f) w'' := by
      intro a w' play
      rcases h with ⟨-, later⟩ | ⟨-, later⟩
      · exact ih a never (later a w' play)
      · exact ih a (fun w r h => never w r (.inl (h.resolve_right id))) (later a w' play)
    refine ⟨fun b w'' play => ?_, fun f w'' play => ?_⟩
    · obtain ⟨a, w', first, second⟩ := play_bind_eq_ok play
      exact (later a w' first).1 b w'' second
    · rcases play_bind_eq_error play with first | ⟨a, w', first, second⟩
      · exact absurd first (never w r allowed f w'')
      · exact (later a w' first).2 f w'' second

/-- What every request keeps that it makes is kept, however it ends. -/
theorem always {J : World → Prop} (h : act.Once p V Q B w)
    (each : ∀ w r, V w r ∨ B w r → J w → J ((r.perform p).play w).2) (hw : J w) :
    J ((act.perform p).play w).2 := by
  induction act generalizing w B with
  | ret a => exact hw
  | fail f => exact hw
  | endless => exact hw
  | ask r k ih =>
    have kept := each w r (h.imp And.left And.left) hw
    rw [Act.perform, play_bind]
    rcases hr : (r.perform p).play w with ⟨e | a, w'⟩ <;> rw [hr] at kept
    · exact kept
    · rcases h with ⟨-, later⟩ | ⟨-, later⟩
      · exact ih a (later a w' hr) each kept
      · exact ih a (later a w' hr) (fun w r h => each w r (.inl (h.resolve_right id))) kept

end Once

end Act

end BlockStage
