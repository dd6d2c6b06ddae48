import BlockStage.Proofs.Run.Tame
import Mathlib.Logic.Relation

/-!
# All that can happen in a project

As long as prototypes say in literals what the parameters of custom blocks are, nothing is evaluated that a
project has written itself. Then every change is one of a few kinds, `World.Goes`: the program goes on by
itself, a block is entered, a sprite changes in one of a few ways, a clone is added, or data or a prototype
is written. Opcodes that every object has can also take attributes away; whether there are such opcodes is
the parameter `loose`. What the changes rely on is `World.Orderly`, and all of them keep it.
-/

namespace BlockStage

open Run
open Expression (IsPlainMutation Site)

/-! ## Changes -/

/-- What a sprite can become. -/
inductive Sprite.Turns (loose : Prop) (s : Sprite) : Sprite → Prop
  | same : Turns loose s s
  | give (key : String) (v : Value) (changing : key ∈ changingKeys) : Turns loose s (s.put key v)
  | paint (image : Surface) (rect : Rect) : Turns loose s (s.paint image rect)
  | rebind (bindings : List Binding) : Turns loose s { s with arguments := bindings }
  | delete (clone : s.hasMode? .clone = .ok true) :
    Turns loose s (s.put CloneMode.key CloneMode.deleted.value)
  | drop (h : loose) (key : String) : Turns loose s (s.drop key)
  | bare (h : loose) : Turns loose s { s with fields := [] }

/-- What a world can become, one change at a time. -/
inductive World.Goes (loose : Prop) : World → World → Prop
  | aside {w w' : World} (h : w.Aside w') : Goes loose w w'
  | enter (w : World) (running : w.done = false) (sprite opcode : String) :
    Goes loose w (w.enter sprite opcode)
  | turn (w : World) (i : Nat) {f : Sprite → Sprite} (turns : ∀ s : Sprite, s.Turns loose (f s)) :
    Goes loose w (w.updateSprite i f)
  | clone (w : World) (i : Nat) : Goes loose w (w.addClone i)
  | data (w : World) (k : Nat) (part : DataKind) (id : String) (v : Value) :
    Goes loose w (w.updateKit k (·.put part id v))
  | write (w : World) (k : Nat) {id : String} {b : Block} {v : Value}
    (found : Table.get? (w.kit k).blocks id = some b) (plain : IsPlainMutation v) :
    Goes loose w (w.updateKit k fun kit =>
      { kit with blocks := Table.put (w.kit k).blocks id ⟨Table.put b.fields "mutation" v⟩ })

/-- A world and what it can become, one change after another. -/
abbrev World.Path (loose : Prop) : World → World → Prop := Relation.ReflTransGen (World.Goes loose)

/-- A world and what it can become while the program goes on: no change concerns the roster. -/
abbrev World.Trail (loose : Prop) : World → World → Prop :=
  Relation.ReflTransGen fun w w' => w.Goes loose w' ∧ w.Enlists w'

/-! ## Requests -/

theorem World.Goes.putData {loose : Prop} (w : World) (holder : World.Holder) (part : DataKind) (id : String) (v : Value) :
    w.Goes loose (w.putData holder part id v) := by
  cases holder with
  | kit k => exact .data w k part id v
  | own i =>
    refine .turn w i fun s => ?_
    split
    · exact .give _ _ (by cases part <;> decide)
    · exact .same

theorem World.Goes.mutation {loose : Prop} (w : World) (k : Nat) (id : String) {v : Value}
    (plain : IsPlainMutation v) :
    w.Goes loose ((w.write? ⟨.kit k "blocks", [.name id, .name "mutation"]⟩ v).getD w) := by
  rcases w.written_mutation k id v with same | ⟨b, found, same⟩ <;> rw [same]
  · exact .aside (.refl w)
  · exact .write w k found plain

theorem World.Enlists.mutation (w : World) (k : Nat) (id : String) (v : Value) :
    w.Enlists ((w.write? ⟨.kit k "blocks", [.name id, .name "mutation"]⟩ v).getD w) := by
  rcases w.written_mutation k id v with same | ⟨b, -, same⟩ <;> rw [same] <;> exact {}

theorem Sprite.Turns.deleteClone {loose : Prop} (s : Sprite) : s.Turns loose (World.deleteClone s) := by
  unfold World.deleteClone
  split
  · next clone => exact .delete clone
  · exact .same

namespace World

variable {loose : Prop} {w w' : World} {r : Request}

theorem Alters.goes (h : w.Alters r w') : w.Goes loose w' := by
  have adds := h.adds
  cases h with
  | note _ _ => exact .aside ⟨⟨rfl, rfl, rfl, rfl, rfl⟩, rfl, rfl, id, adds⟩
  | give i v changing _ _ => exact .turn w i fun _ => .give _ v changing
  | storeVariable holder id text => exact .putData w holder .vars id _
  | storeList holder id items => exact .putData w holder .lists id _

theorem Manages.goes (h : w.Manages r w') : w.Goes loose w' := by
  cases h with
  | goOn ended _ => exact .aside (.of_log ⟨rfl, rfl, rfl, rfl, rfl⟩ rfl rfl ended rfl)
  | clone i => exact .clone w i
  | delete i => exact .turn w i .deleteClone
  | bind i script name v => exact .turn w i fun _ => .rebind _

end World

namespace Request

/-- The requests that change the world in these ways. -/
def Allowed (loose : Prop) (r : Request) : Prop :=
  (∃ kit, r.Tame kit) ∨ (∃ i image rect, r = .paint i image rect) ∨
    loose ∧ ((∃ i key, r = .drop i key) ∨ ∃ i, r = .replace i [])

variable {loose : Prop} {r : Request}

theorem Allowed.goes (p : Player) (h : r.Allowed loose) (w : World) :
    w.Goes loose ((r.perform p).play w).2 := by
  rcases h with ⟨kit, ordinary | runtime | ⟨id, v, rfl, plain⟩⟩ | ⟨i, image, rect, rfl⟩ |
    ⟨h, ⟨i, key, rfl⟩ | ⟨i, rfl⟩⟩
  · exact (ordinary.alters p w).goes
  · exact (runtime.manages p w).goes
  · exact .mutation w kit id plain
  · exact .turn w i fun _ => .paint image rect
  · exact .turn w i fun _ => .drop h key
  · exact .turn w i fun _ => .bare h

theorem Allowed.enlists (p : Player) (h : r.Allowed loose) (w : World) :
    w.Enlists ((r.perform p).play w).2 := by
  rcases h with ⟨kit, ordinary | runtime | ⟨id, v, rfl, plain⟩⟩ | ⟨i, image, rect, rfl⟩ |
    ⟨h, ⟨i, key, rfl⟩ | ⟨i, rfl⟩⟩
  · exact (ordinary.alters p w).enlists
  · exact (runtime.manages p w).enlists
  · exact .mutation w kit id v
  all_goals exact {}

theorem Allowed.mild (p : Player) (h : r.Allowed loose) (w : World) :
    ((r.perform p).play w).1 ≠ .error (.fault .exit) := by
  intro failed
  rcases h with ⟨kit, ordinary | runtime | ⟨id, v, rfl, plain⟩⟩ | ⟨i, image, rect, rfl⟩ |
    ⟨h, ⟨i, key, rfl⟩ | ⟨i, rfl⟩⟩
  · obtain ⟨_, hf⟩ := ordinary.mild p w failed
    cases hf
  · cases r with
    | tick =>
      rw [perform, play_modify_bind, play_get_bind] at failed
      split at failed <;> cases failed
    | addClone _ | start _ _ | delete _ | stop | remember _ | bind _ _ _ _ => cases failed
    | _ => exact runtime.elim
  all_goals cases failed

end Request

/-! ## What the changes rely on -/

namespace World

/-- The tables of the sprites are those that they were given, as far as they still have them. -/
def Tabled (w : World) : Prop :=
  ∀ i, ∀ p ∈ (w.sprite i).fields, p.1 ∈ Site.tableKeys → p.2 = .shared

/-- What prototypes say of the parameters of their blocks is written in literals. -/
def Literal (w : World) : Prop :=
  ∀ k id o, (id, o) ∈ outlineOf (w.kit k).blocks → o.IsPrototype → ∀ b v,
    Table.get? (w.kit k).blocks id = some b → Table.get? b.fields "mutation" = some v → IsPlainMutation v

/-- No opcode is a name of what every object can do. -/
def Named (w : World) : Prop :=
  ∀ k id o s, (id, o) ∈ outlineOf (w.kit k).blocks → o.opcode = some (.text s) →
    s.toList.take 2 ≠ ['_', '_']

/-- A world in which nothing is evaluated that the project has written itself. -/
structure Orderly (loose : Prop) (w : World) : Prop where
  tabled : w.Tabled
  literal : w.Literal
  named : ¬ loose → w.Named

end World

variable {loose : Prop}

/-! ## The changes keep what they rely on -/

theorem Sprite.Turns.mem_fields {s s' : Sprite} (h : s.Turns loose s') {p : String × Value}
    (mem : p ∈ s'.fields) (key : p.1 ∈ Site.tableKeys) : p ∈ s.fields := by
  have put : ∀ {t : Table Value} {k : String} {v : Value}, p ∈ Table.put t k v →
      k ∉ Site.tableKeys → p ∈ t := by
    intro t k v mem other
    rcases Table.mem_put mem with mem | rfl
    · exact mem
    · exact absurd key other
  cases h with
  | same => exact mem
  | give k v changing =>
    exact put mem ((by decide : ∀ k ∈ changingKeys, k ∉ Site.tableKeys) k changing)
  | paint image rect => exact put (put mem (by decide)) (by decide)
  | rebind bindings => exact mem
  | delete clone => exact put mem (by decide)
  | drop _ k => exact Table.mem_of_mem_erase mem
  | bare _ => cases mem

theorem Sprite.Turns.kit {s s' : Sprite} (h : s.Turns loose s') : s'.kit = s.kit := by
  cases h <;> rfl

namespace World

variable {w w' : World}

theorem Tabled.turn (h : w.Tabled) (i : Nat) {f : Sprite → Sprite}
    (turns : ∀ s : Sprite, s.Turns loose (f s)) : (w.updateSprite i f).Tabled := by
  intro j p mem key
  rcases w.sprite_updateSprite i j f with same | same <;> rw [same] at mem
  · exact h j p mem key
  · exact h j p ((turns _).mem_fields mem key) key

theorem Tabled.clone (h : w.Tabled) (i : Nat) : (w.addClone i).Tabled := by
  intro j p mem key
  rcases Nat.lt_trichotomy j w.sprites.length with there | rfl | beyond
  · rw [w.sprite_addClone_of_lt i there] at mem
    exact h j p mem key
  · rw [w.sprite_addClone i] at mem
    rcases Table.mem_put mem with mem | rfl
    · rcases Table.mem_put mem with mem | rfl
      · rcases Table.mem_put mem with mem | rfl
        · exact h i p mem key
        · exact absurd key (by decide)
      · rfl
    · exact absurd key (by decide)
  · have none : (w.addClone i).sprite j = default := by
      rw [World.sprite, List.getD_eq_getElem?_getD, List.getElem?_eq_none]
      · rfl
      · simp only [addClone, List.length_append, List.length_singleton]
        omega
    rw [none] at mem
    cases mem

theorem outlineOf_put {t : Table Block} {id : String} {b : Block} (found : Table.get? t id = some b)
    (v : Value) : outlineOf (Table.put t id ⟨Table.put b.fields "mutation" v⟩) = outlineOf t := by
  have outline : Block.outline ⟨Table.put b.fields "mutation" v⟩ = b.outline := by
    simp only [Block.outline, Table.get?_put_of_ne _ _ (show "mutation" ≠ "opcode" by decide),
      Table.get?_put_of_ne _ _ (show "mutation" ≠ "next" by decide)]
  show (Table.put _ id _).map _ = _
  rw [← Table.put_map Block.outline, outline]
  refine Table.put_of_get? ?_
  rw [Table.get?_map, found]
  rfl

/-- The blocks of a kit are those of before, or what one of them says was written anew. -/
theorem Goes.blocks (h : w.Goes loose w') (k : Nat) : (w'.kit k).blocks = (w.kit k).blocks ∨
    ∃ id b v, Table.get? (w.kit k).blocks id = some b ∧ IsPlainMutation v ∧
      (w'.kit k).blocks = Table.put (w.kit k).blocks id ⟨Table.put b.fields "mutation" v⟩ := by
  cases h with
  | aside h => exact .inl (by rw [kit, kit, h.kits])
  | enter _ _ _ | turn _ _ | clone i => exact .inl rfl
  | data k' part id v =>
    by_cases same : k' = k
    · subst same
      rcases w.kit_updateKit k' (·.put part id v) with kit | kit <;> rw [kit]
      · exact .inl rfl
      · exact .inl (by cases part <;> rfl)
    · rw [w.kit_updateKit_of_ne same]
      exact .inl rfl
  | @write k' id b v found plain =>
    by_cases same : k' = k
    · subst same
      rcases w.kit_updateKit k' fun kit =>
        { kit with blocks := Table.put (w.kit k').blocks id ⟨Table.put b.fields "mutation" v⟩ } with kit | kit <;>
        rw [kit]
      · exact .inl rfl
      · exact .inr ⟨id, b, v, found, plain, rfl⟩
    · rw [w.kit_updateKit_of_ne same]
      exact .inl rfl

theorem Goes.outlines (h : w.Goes loose w') (k : Nat) :
    outlineOf (w'.kit k).blocks = outlineOf (w.kit k).blocks := by
  rcases h.blocks k with same | ⟨id, b, v, found, -, same⟩ <;> rw [same]
  exact outlineOf_put found v

theorem Goes.literal (h : w.Goes loose w') (literal : w.Literal) : w'.Literal := by
  intro k id o ho prototype b v hb hv
  rw [h.outlines] at ho
  rcases h.blocks k with same | ⟨id', b', v', found, plain, same⟩ <;> rw [same] at hb
  · exact literal k id o ho prototype b v hb hv
  · by_cases this : id' = id
    · subst this
      rw [Table.get?_put_self] at hb
      cases hb
      rw [Table.get?_put_self] at hv
      cases hv
      exact plain
    · rw [Table.get?_put_of_ne _ _ this] at hb
      exact literal k id o ho prototype b v hb hv

theorem Goes.tabled (h : w.Goes loose w') (tabled : w.Tabled) : w'.Tabled := by
  cases h with
  | aside h =>
    intro i p mem
    rw [sprite, h.sprites] at mem
    exact tabled i p mem
  | turn i turns => exact tabled.turn i turns
  | clone i => exact tabled.clone i
  | enter _ _ _ | data _ _ _ _ | write _ _ _ => exact tabled

theorem Goes.orderly (h : w.Goes loose w') (orderly : w.Orderly loose) : w'.Orderly loose where
  tabled := h.tabled orderly.tabled
  literal := h.literal orderly.literal
  named strict k id o s ho := orderly.named strict k id o s (h.outlines k ▸ ho)

theorem Goes.later (h : w.Goes loose w') : w.Later w' := by
  cases h with
  | aside h => exact .of_sprites h.sprites (fun e he => h.listIds ▸ he) h.stage
  | turn i turns => exact .updateSprite w i fun s => (turns s).kit
  | clone i => exact .append rfl rfl rfl
  | enter _ _ _ | data _ _ _ _ | write _ _ _ => exact .of_sprites rfl (fun _ h => h) rfl

namespace Trail

theorem path (h : w.Trail loose w') : w.Path loose w' := h.lift id fun _ _ => And.left

theorem enlists (h : w.Trail loose w') : w.Enlists w' := by
  induction h with
  | refl => exact {}
  | tail _ step ih => exact ih.trans step.2

end Trail

namespace Path

theorem orderly (h : w.Path loose w') (orderly : w.Orderly loose) : w'.Orderly loose := by
  induction h with
  | refl => exact orderly
  | tail _ goes ih => exact goes.orderly ih

theorem later (h : w.Path loose w') : w.Later w' := by
  induction h with
  | refl => exact .refl w
  | tail _ goes ih => exact ih.trans goes.later

theorem outlines (h : w.Path loose w') (k : Nat) :
    outlineOf (w'.kit k).blocks = outlineOf (w.kit k).blocks := by
  induction h with
  | refl => rfl
  | tail _ goes ih => rw [goes.outlines, ih]

end Path

/-! ## The blocks of a sprite -/

namespace Orderly

variable {me : Nat} {flag : Value} {b : Block}

theorem blocks_eq (h : w.Orderly loose) {t : Table Block} (ht : w.blocks? me = .ok t) :
    Table.get? (w.sprite me).fields "blocks" = some .shared ∧ t = (w.kit (w.sprite me).kit).blocks := by
  unfold World.blocks? Sprite.get? at ht
  split at ht
  · next v found =>
    obtain rfl : v = .shared := h.tabled me _ (Table.mem_of_get? found) (.head _)
    cases ht
    exact ⟨found, rfl⟩
  · cases ht

theorem block?_eq (h : w.Orderly loose) (hb : w.block? me flag = .ok b) :
    Table.get? (w.sprite me).fields "blocks" = some .shared ∧
      w.blocks me = (w.kit (w.sprite me).kit).blocks ∧
      ∃ id, flag = .text id ∧ Table.get? (w.kit (w.sprite me).kit).blocks id = some b := by
  obtain ⟨t, id, ht, rfl, found⟩ := World.block?_eq_ok hb
  obtain ⟨shared, rfl⟩ := h.blocks_eq ht
  exact ⟨shared, by rw [World.blocks, ht]; rfl, id, rfl, found⟩

/-- No opcode is a name of what every object can do, unless there may be such opcodes. -/
theorem opcode? (h : w.Orderly loose) (strict : ¬ loose) (hb : w.block? me flag = .ok b) {s : String}
    (hop : b.opcode? = .ok (.text s)) : s.toList.take 2 ≠ ['_', '_'] := by
  obtain ⟨-, -, id, -, found⟩ := h.block?_eq hb
  have mem : (id, b.outline) ∈ outlineOf (w.kit (w.sprite me).kit).blocks :=
    List.mem_map_of_mem (f := fun p : String × Block => (p.1, p.2.outline)) (Table.mem_of_get? found)
  refine h.named strict _ id b.outline s mem ?_
  rw [Block.opcode?, Block.get?, Value.field?] at hop
  show Table.get? b.fields "opcode" = _
  split at hop <;> simp_all

end Orderly

end World

/-! ## Projects that write nothing -/

/-- A block that writes nothing and whose opcode is no name of what every object can do. -/
def Block.isBare (b : Block) : Bool :=
  (Table.get? b.fields "mutation").isNone &&
    match Table.get? b.fields "opcode" with
    | some (.text s) => s.toList.take 2 != ['_', '_']
    | _ => true

theorem World.named_of_bare {w : World} (bare : w.kits.all fun kit => kit.blocks.all fun p => p.2.isBare) :
    w.Literal ∧ w.Named := by
  have each : ∀ {k id b}, (id, b) ∈ (w.kit k).blocks → b.isBare = true := by
    intro k id b mem
    rw [World.kit, List.getD_eq_getElem?_getD] at mem
    rcases hk : w.kits[k]? with _ | kit <;> rw [hk] at mem
    · cases mem
    · exact List.all_eq_true.1 (List.all_eq_true.1 bare kit (List.mem_of_getElem? hk)) _ mem
  constructor
  · intro k id o _ _ b v hb hv
    have := each (Table.mem_of_get? hb)
    simp [Block.isBare, hv] at this
  · intro k id o s mem hs
    obtain ⟨⟨id, b⟩, found, same⟩ := List.mem_map.1 mem
    cases same
    have := each found
    simp_all [Block.isBare, Block.outline]

end BlockStage
