import BlockStage.Script.Opcode

/-!
# What computations yield

A computation yields something if its result, if there is one, is like that. What it yields follows from
its parts.
-/

namespace BlockStage

/-- The result of a computation, if there is one, is as told. -/
def Yields {α : Type} (Q : α → Prop) (e : Except Fault α) : Prop := ∀ a, e = .ok a → Q a

namespace Yields

variable {α β : Type} {Q : α → Prop} {R : β → Prop}

@[simp] theorem ok (a : α) : Yields Q (.ok a) ↔ Q a := by simp [Yields]

@[simp] theorem pure (a : α) : Yields Q (pure a) ↔ Q a := ok a

@[simp] theorem error (f : Fault) : Yields Q (.error f) := nofun

@[simp] theorem throw (f : Fault) : Yields Q (throw f) := error f

@[simp] theorem bind (e : Except Fault α) (k : α → Except Fault β) :
    Yields R (e >>= k) ↔ Yields (fun a => Yields R (k a)) e := by
  cases e with
  | error f => simp [Bind.bind, Except.bind]
  | ok a => simp [Bind.bind, Except.bind]

@[simp] theorem map (f : α → β) (e : Except Fault α) :
    Yields R (e.map f) ↔ Yields (fun a => R (f a)) e := by
  cases e <;> simp [Except.map]

@[simp] theorem functorMap (f : α → β) (e : Except Fault α) :
    Yields R (f <$> e) ↔ Yields (fun a => R (f a)) e := map f e

@[simp] theorem ite (c : Prop) [Decidable c] (d e : Except Fault α) :
    Yields Q (if c then d else e) ↔ (c → Yields Q d) ∧ (¬ c → Yields Q e) := by
  by_cases h : c <;> simp [h]

theorem mono {Q' : α → Prop} {e : Except Fault α} (h : Yields Q e) (hq : ∀ a, Q a → Q' a) :
    Yields Q' e := fun a ha => hq a (h a ha)

end Yields

@[simp] theorem yields_true {α : Type} (e : Except Fault α) : Yields (fun _ => True) e := fun _ _ => trivial

end BlockStage
