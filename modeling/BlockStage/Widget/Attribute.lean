import BlockStage.Value.Basic

/-!
# Attributes by name

The attributes of a widget can be read and set by their names, and others can be added. One that is
added under the name of a method hides it.
-/

namespace BlockStage.Widget

/-- An attribute of a `σ`. Not every `σ` needs to have it. -/
structure Slot (σ : Type) where
  name : String
  get? : σ → Option Value
  set? : σ → Value → Option σ

def Slot.fixed {σ : Type} (name : String) (get : σ → Value) (set : σ → Value → σ) : Slot σ :=
  ⟨name, fun s => some (get s), fun s v => some (set s v)⟩

/-- What has attributes: its own, and those that were added. -/
class Attributed (σ : Type) where
  slots : List (Slot σ)
  added : σ → Table Value
  withAdded : σ → Table Value → σ

namespace Attributed

variable {σ : Type} [Attributed σ]

/-- `getattr` -/
def get? (s : σ) (name : String) : Option Value :=
  match ((slots : List (Slot σ)).find? (·.name == name)).bind (·.get? s) with
  | some .absent => none
  | some v => some v
  | none => Table.get? (added s) name

/-- `setattr` -/
def set (s : σ) (name : String) (v : Value) : σ :=
  match ((slots : List (Slot σ)).find? (·.name == name)).bind (·.set? s v) with
  | some t => t
  | none => withAdded s (Table.put (added s) name v)

/-- `delattr` -/
def drop (s : σ) (name : String) : σ :=
  match ((slots : List (Slot σ)).find? (·.name == name)).bind (·.set? s .absent) with
  | some t => t
  | none => withAdded s (Table.erase (added s) name)

/-- Takes all attributes away. -/
def clear (s : σ) : σ :=
  withAdded ((slots : List (Slot σ)).foldl (fun s slot => (slot.set? s .absent).getD s) s) []

/-- `vars` -/
def all (s : σ) : Table Value :=
  (slots : List (Slot σ)).filterMap (fun slot => (get? s slot.name).map (slot.name, ·)) ++ added s

/-- Calling a method that may be hidden. -/
def can? (s : σ) (action : String) : Except Fault Unit :=
  if Table.has (added s) action then .error .wrongKind else .ok ()

end Attributed

end BlockStage.Widget
