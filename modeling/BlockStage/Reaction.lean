import BlockStage.Fault

/-!
# Reactions

What an input device or a widget does: it changes, it emits what others can see, and it may fail
midway. A failure keeps what was changed and emitted before it.
-/

namespace BlockStage

/-- A method on a state `σ` that emits `ε`s. -/
def Reaction (σ ε α : Type) : Type := σ → Except Fault α × σ × List ε

namespace Reaction

variable {σ ε α β : Type}

/-- Carries a reaction out. -/
def react (r : Reaction σ ε α) (s : σ) : Except Fault α × σ × List ε := r s

protected def pure (a : α) : Reaction σ ε α := fun s => (.ok a, s, [])

protected def bind (r : Reaction σ ε α) (f : α → Reaction σ ε β) : Reaction σ ε β := fun s =>
  match r s with
  | (.error e, s, out) => (.error e, s, out)
  | (.ok a, s, out) => ((f a s).1, (f a s).2.1, out ++ (f a s).2.2)

instance : Monad (Reaction σ ε) where
  pure := Reaction.pure
  bind := Reaction.bind

instance : LawfulMonad (Reaction σ ε) := LawfulMonad.mk' _
  (fun r => funext fun s => by
    show Reaction.bind r (fun a => Reaction.pure (id a)) s = r s
    simp only [Reaction.bind, Reaction.pure, List.append_nil, id]
    rcases r s with ⟨_ | _, _, _⟩ <;> rfl)
  (fun _ _ => rfl)
  (fun r f g => funext fun s => by
    show Reaction.bind (Reaction.bind r f) g s = Reaction.bind r (fun a => Reaction.bind (f a) g) s
    simp only [Reaction.bind]
    rcases r s with ⟨_ | a, s, out⟩
    · rfl
    · dsimp only
      rcases f a s with ⟨_ | b, t, more⟩
      · rfl
      · simp only [List.append_assoc])

/-- `try` and `except` -/
protected def tryCatch (r : Reaction σ ε α) (handle : Fault → Reaction σ ε α) :
    Reaction σ ε α := fun s =>
  match r s with
  | (.error e, s, out) => ((handle e s).1, (handle e s).2.1, out ++ (handle e s).2.2)
  | (.ok a, s, out) => (.ok a, s, out)

instance : MonadExcept Fault (Reaction σ ε) where
  throw e := fun s => (.error e, s, [])
  tryCatch := Reaction.tryCatch

/-- The state. -/
def state : Reaction σ ε σ := fun s => (.ok s, s, [])

/-- Changes the state. -/
def change (f : σ → σ) : Reaction σ ε Unit := fun s => (.ok (), f s, [])

/-- Emits some things. -/
def emitAll (es : List ε) : Reaction σ ε Unit := fun s => (.ok (), s, es)

def emit (e : ε) : Reaction σ ε Unit := emitAll [e]

/-- A computation that may fail. -/
def ofExcept (e : Except Fault α) : Reaction σ ε α := fun s => (e, s, [])

/-- Emits other things. -/
def relabel {δ : Type} (f : ε → δ) (r : Reaction σ ε α) : Reaction σ δ α := fun s =>
  ((r s).1, (r s).2.1, (r s).2.2.map f)

/-- A reaction of a part. -/
def ofPart {τ : Type} (wrap : τ → σ) (part : τ) (r : Reaction τ ε α) : Reaction σ ε α := fun _ =>
  ((r part).1, wrap (r part).2.1, (r part).2.2)

/-! ## How reactions are carried out -/

@[simp] theorem react_pure (a : α) (s : σ) :
    (pure a : Reaction σ ε α).react s = (.ok a, s, []) := rfl

theorem react_bind (r : Reaction σ ε α) (f : α → Reaction σ ε β) (s : σ) :
    (r >>= f).react s =
      match r.react s with
      | (.error e, s, out) => (.error e, s, out)
      | (.ok a, s, out) => (((f a).react s).1, ((f a).react s).2.1, out ++ ((f a).react s).2.2) :=
  rfl

theorem react_bind_ok {r : Reaction σ ε α} {s t : σ} {a : α} {out : List ε}
    (h : r.react s = (.ok a, t, out)) (f : α → Reaction σ ε β) :
    (r >>= f).react s = (((f a).react t).1, ((f a).react t).2.1, out ++ ((f a).react t).2.2) := by
  rw [react_bind, h]

@[simp] theorem react_throw (e : Fault) (s : σ) :
    (throw e : Reaction σ ε α).react s = (.error e, s, []) := rfl

@[simp] theorem react_state (s : σ) : (state : Reaction σ ε σ).react s = (.ok s, s, []) := rfl

@[simp] theorem react_change (f : σ → σ) (s : σ) :
    (change f : Reaction σ ε Unit).react s = (.ok (), f s, []) := rfl

@[simp] theorem react_emitAll (es : List ε) (s : σ) :
    (emitAll es : Reaction σ ε Unit).react s = (.ok (), s, es) := rfl

@[simp] theorem react_emit (e : ε) (s : σ) :
    (emit e : Reaction σ ε Unit).react s = (.ok (), s, [e]) := rfl

@[simp] theorem react_relabel {δ : Type} (f : ε → δ) (r : Reaction σ ε α) (s : σ) :
    (r.relabel f).react s = ((r.react s).1, (r.react s).2.1, (r.react s).2.2.map f) := rfl

@[simp] theorem react_ofPart {τ : Type} (wrap : τ → σ) (part : τ) (r : Reaction τ ε α) (s : σ) :
    (ofPart wrap part r).react s =
      ((r.react part).1, wrap (r.react part).2.1, (r.react part).2.2) := rfl

@[simp] theorem react_ofExcept (e : Except Fault α) (s : σ) :
    (ofExcept e : Reaction σ ε α).react s = (e, s, []) := rfl

end Reaction

end BlockStage
