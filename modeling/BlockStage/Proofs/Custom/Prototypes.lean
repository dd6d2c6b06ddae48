import BlockStage.Proofs.Run.Yields
import Mathlib.Logic.Function.Iterate

/-!
# Prototypes written in literals

What a prototype says of its parameters is plain (`IsPlainMutation`) if it is written in literals. The parameters
of such a prototype are literal for every call (`IsPlainMutation.isPlain`).
-/

namespace BlockStage

/-- A value that is neither made of others nor something of a kind of its own. -/
def Value.isSimple : Value → Bool
  | .list _ | .record _ | .place _ _ | .object _ _ _ => false
  | _ => true

namespace Expression

/-- An expression that says what it stands for: a text, a number, or a row of such. -/
inductive Expr.IsLiteral : Expr → Prop
  | datum (v : Value) : IsLiteral (.datum v)
  | row {shape : Shape} {items : List Expr} (h : shape = .list ∨ shape = .tuple)
      (each : ∀ e ∈ items, IsLiteral e) : IsLiteral (.row shape items)

theorem Expr.literals?_isSome {items : List Expr} (each : ∀ e ∈ items, e.literal?.isSome) :
    (Expr.literals? items).isSome := by
  induction items with
  | nil => rfl
  | cons e rest ih =>
    obtain ⟨he, hrest⟩ := List.forall_mem_cons.1 each
    obtain ⟨d, hd⟩ := Option.isSome_iff_exists.1 he
    obtain ⟨ds, hds⟩ := Option.isSome_iff_exists.1 (ih hrest)
    simp [Expr.literals?, hd, hds]

theorem Expr.IsLiteral.isSome {e : Expr} (h : e.IsLiteral) : e.literal?.isSome := by
  induction h with
  | datum v => rfl
  | row h each ih =>
    rcases h with rfl | rfl <;> simpa [Expr.literal?] using Expr.literals?_isSome ih

/-- A text that is a literal, if it can be read at all. -/
def LiteralText (s : String) : Prop := ∀ e, parse? s = .ok e → e.IsLiteral

namespace LiteralText

variable {s : String}

theorem of_parse? {e : Expr} (h : parse? s = .ok e) (he : e.IsLiteral) : LiteralText s := fun e' he' => by
  cases h.symm.trans he'
  exact he

theorem isSome (h : LiteralText s) : (literal? s).isSome := by
  unfold literal?
  cases hs : parse? s with
  | error f => rfl
  | ok e => simpa using (h e hs).isSome

end LiteralText

/-- The ids of parameters are written as a literal, however often they are brought to upper case. -/
def LiteralIds (s : String) : Prop := ∀ n, LiteralText (upperCase^[n] s)

namespace LiteralIds

variable {s : String}

theorem of_upperCase (upper : Expression.upperCase s = s) (h : LiteralText s) : LiteralIds s := fun n => by
  rw [Function.iterate_fixed upper]
  exact h

theorem upperCase (h : LiteralIds s) : LiteralIds (upperCase s) := fun n => h (n + 1)

theorem areLiteralIds (h : LiteralIds s) (n : Nat) : Parameter.areLiteralIds n s = true := by
  induction n generalizing s with
  | zero => rfl
  | succ n ih =>
    have literal : (literal? (Expression.upperCase s)).isSome = true := (h 1).isSome
    rw [Parameter.areLiteralIds, literal, ih h.upperCase]
    rfl

end LiteralIds

/-- What a prototype says of its parameters is written in literals. -/
def IsPlainMutation : Value → Prop
  | .record fields =>
    (∀ v, Table.get? fields "argumentids" = some v → ∃ s, v = .text s ∧ LiteralIds s) ∧
      ∀ v, Table.get? fields "argumentnames" = some v → ∃ s, v = .text s ∧ LiteralText s
  | .object _ _ _ | .place _ _ => False
  | _ => True

theorem fits_of_text {fields : Table Value} {key : String} {kind : String → Bool}
    (h : ∀ v, Table.get? fields key = some v → ∃ s, v = .text s ∧ kind s = true) :
    Parameter.fits fields key kind = true := by
  unfold Parameter.fits
  cases found : Table.get? fields key with
  | none => rfl
  | some v =>
    obtain ⟨s, rfl, hs⟩ := h v found
    exact hs

theorem IsPlainMutation.isPlain {v : Value} (h : IsPlainMutation v) (n : Nat) :
    Parameter.isPlain n v = true := by
  cases v with
  | record fields =>
    refine Bool.and_eq_true_iff.2 ⟨fits_of_text fun v found => ?_, fits_of_text fun v found => ?_⟩
    · obtain ⟨s, hs, ids⟩ := h.1 v found
      exact ⟨s, hs, ids.areLiteralIds n⟩
    · obtain ⟨s, hs, names⟩ := h.2 v found
      exact ⟨s, hs, names.isSome⟩
  | object kind shown n => exact h.elim
  | place x y => exact h.elim
  | _ => rfl

theorem IsPlainMutation.put_ids {fields : Table Value} {s : String}
    (h : IsPlainMutation (.record fields)) (ids : Table.get? fields "argumentids" = some (.text s)) :
    IsPlainMutation (.record (Table.put fields "argumentids" (.text (upperCase s)))) := by
  obtain ⟨_, hs, literal⟩ := h.1 _ ids
  cases hs
  refine ⟨fun v found => ?_, fun v found => h.2 v ?_⟩
  · rw [Table.get?_put_self] at found
    cases found
    exact ⟨_, rfl, literal.upperCase⟩
  · rwa [Table.get?_put_of_ne _ _ (by decide)] at found

end Expression

/-! ## Where calls are made -/

/-- Where a custom block is called: the sprite, the number of its kit, the prototype, the flags of blocks
that can be run, and the scripts that may be the one that calls. -/
structure Expression.Site where
  me : Nat
  kit : Nat
  prototype : String
  runs : Value → Prop
  calls : Nat → Prop := fun _ => True

/-- Where the prototype says what its parameters are. -/
def Expression.Site.mutation (c : Expression.Site) : Expression.Ref :=
  ⟨.kit c.kit "blocks", [.name c.prototype, .name "mutation"]⟩

end BlockStage
