import BlockStage.Proofs.Custom.Prototypes
import BlockStage.Proofs.Run.Tables
import BlockStage.Proofs.Run.Within

/-!
# What the scripts of a sprite stand on

A `Footing` is what stays the same while the scripts of a sprite run: the sprite, its name, and of its blocks
the opcodes and what comes next. `Footing.Holds` is what is true of every world that such scripts come to. All
that blocks ask for keeps it, and so does what a call writes into its prototype.
-/

namespace BlockStage

open Expression (IsPlainMutation)

variable {flag : Value} {b : Block}

/-! ## Outlines -/

/-- What stays the same of a block: its opcode and the block that comes next. -/
structure Outline where
  opcode : Option Value
  next : Option Value

def Block.outline (b : Block) : Outline := ⟨Table.get? b.fields "opcode", Table.get? b.fields "next"⟩

def outlineOf (blocks : Table Block) : Table Outline := blocks.map fun p => (p.1, p.2.outline)

namespace Outline

/-- A flag of a block that there is, or no flag. -/
def IsFlag (blocks : Table Outline) (flag : Value) : Prop :=
  flag = .null ∨ ∃ id, flag = .text id ∧ (Table.get? blocks id).isSome

def IsPrototype (o : Outline) : Prop := ∃ v, o.opcode = some v ∧ v.isText "procedures_prototype" = true

end Outline

/-- What stays the same of a sprite while its scripts run. -/
structure Footing where
  me : Nat
  kit : Nat
  name : String
  blocks : Table Outline
  /-- Every opcode is a text that does not name what every object can do. -/
  opcodes : ∀ id o, Table.get? blocks id = some o →
    ∃ s, o.opcode = some (.text s) ∧ s.toList.take 2 ≠ ['_', '_']
  /-- The block that comes next is there. -/
  closed : ∀ id o, Table.get? blocks id = some o → Outline.IsFlag blocks (o.next.getD .null)

theorem World.kit_updateKit (w : World) (k : Nat) (f : Kit → Kit) :
    (w.updateKit k f).kit k = w.kit k ∨ (w.updateKit k f).kit k = f (w.kit k) := by
  unfold World.kit World.updateKit
  rw [List.getD_eq_getElem?_getD, List.getElem?_modify, List.getD_eq_getElem?_getD]
  rcases w.kits[k]? with _ | kit <;> simp

theorem World.kit_updateKit_of_ne (w : World) {i k : Nat} {f : Kit → Kit} (h : i ≠ k) :
    (w.updateKit i f).kit k = w.kit k := by
  simp [World.updateKit, World.kit, List.getD_eq_getElem?_getD, h]

theorem World.sprite_updateSprite_of_ne (w : World) {i j : Nat} {f : Sprite → Sprite} (h : i ≠ j) :
    (w.updateSprite i f).sprite j = w.sprite j := by
  simp [World.updateSprite, World.sprite, List.getD_eq_getElem?_getD, h]

theorem World.lt_of_attribute {w : World} {i : Nat} {key : String} {v : Value}
    (h : Table.get? (w.sprite i).fields key = some v) : i < w.sprites.length := by
  by_contra absent
  have none : w.sprite i = default := by
    rw [World.sprite, List.getD_eq_getElem?_getD, List.getElem?_eq_none (Nat.le_of_not_lt absent)]
    rfl
  rw [none] at h
  cases h

theorem World.deleteClone_eq (s : Sprite) :
    World.deleteClone s = s ∨ World.deleteClone s = s.put CloneMode.key CloneMode.deleted.value := by
  unfold World.deleteClone
  split
  · exact .inr rfl
  · exact .inl rfl

namespace Footing

/-- What is true of a world in which the scripts of a sprite run. -/
structure Holds (c : Footing) (w : World) : Prop where
  name : (w.sprite c.me).name? >>= Value.display? = .ok c.name
  mode : (Table.get? (w.sprite c.me).fields CloneMode.key).isSome
  shared : Table.get? (w.sprite c.me).fields "blocks" = some .shared
  arguments : Table.get? (w.sprite c.me).fields Sprite.argumentsKey = some .shared
  kit : (w.sprite c.me).kit = c.kit
  blocks : outlineOf (w.kit c.kit).blocks = c.blocks
  /-- What prototypes say of their parameters is written in literals. -/
  plain : ∀ id o, (id, o) ∈ c.blocks → o.IsPrototype → ∀ b v,
    Table.get? (w.kit c.kit).blocks id = some b → Table.get? b.fields "mutation" = some v →
      IsPlainMutation v

variable {c : Footing} {w w' : World}

namespace Holds

/-! ## Looking blocks up -/

theorem blocks? (h : c.Holds w) : w.blocks? c.me = .ok (w.kit c.kit).blocks := by
  rw [World.blocks?, Sprite.get?, h.shared]
  simp only [bind, Except.bind, pure, Except.pure, h.kit]

theorem get?_blocks (h : c.Holds w) (id : String) :
    Table.get? c.blocks id = (Table.get? (w.kit c.kit).blocks id).map Block.outline := by
  rw [← h.blocks, outlineOf, Table.get?_map]

theorem outline_of_block? (h : c.Holds w) (hb : w.block? c.me flag = .ok b) :
    ∃ id, flag = .text id ∧ Table.get? c.blocks id = some b.outline := by
  obtain ⟨t, id, blocks, rfl, found⟩ := World.block?_eq_ok hb
  cases h.blocks?.symm.trans blocks
  exact ⟨id, rfl, by rw [h.get?_blocks, found]; rfl⟩

theorem block?_of_flag (h : c.Holds w) (hflag : Outline.IsFlag c.blocks flag)
    (hnull : flag.isNull = false) : ∃ b, w.block? c.me flag = .ok b := by
  obtain rfl | ⟨id, rfl, hid⟩ := hflag
  · cases hnull
  · rw [h.get?_blocks, Option.isSome_map] at hid
    obtain ⟨b, hb⟩ := Option.isSome_iff_exists.1 hid
    refine ⟨b, ?_⟩
    rw [World.block?, h.blocks?]
    simp only [Value.find?, bind, Except.bind, hb, pure, Except.pure]

theorem opcode? (h : c.Holds w) (hb : w.block? c.me flag = .ok b) :
    ∃ s, b.opcode? = .ok (.text s) ∧ s.toList.take 2 ≠ ['_', '_'] := by
  obtain ⟨id, -, ho⟩ := h.outline_of_block? hb
  obtain ⟨s, hs, plain⟩ := c.opcodes id _ ho
  refine ⟨s, ?_, plain⟩
  have hs : Table.get? b.fields "opcode" = some (.text s) := hs
  simp only [Block.opcode?, Block.get?, Value.field?, hs]

theorem next (h : c.Holds w) (hb : w.block? c.me flag = .ok b) : Outline.IsFlag c.blocks b.next := by
  obtain ⟨id, -, ho⟩ := h.outline_of_block? hb
  exact c.closed id _ ho

theorem hasMode? (h : c.Holds w) (m : CloneMode) : ∃ is, (w.sprite c.me).hasMode? m = .ok is := by
  obtain ⟨v, hv⟩ := Option.isSome_iff_exists.1 h.mode
  exact ⟨v.same m.value, by simp only [Sprite.hasMode?, Sprite.get?, hv]; rfl⟩

/-! ## What keeps the footing -/

def keys : List String := ["name", CloneMode.key, "blocks", Sprite.argumentsKey]

theorem of_same (h : c.Holds w) (fields : ∀ key ∈ keys,
      Table.get? (w'.sprite c.me).fields key = Table.get? (w.sprite c.me).fields key)
    (kit : (w'.sprite c.me).kit = (w.sprite c.me).kit)
    (blocks : (w'.kit c.kit).blocks = (w.kit c.kit).blocks) : c.Holds w' where
  name := by
    have same := fields "name" (by decide)
    rw [Sprite.name?, Sprite.get?, same]
    exact h.name
  mode := by rw [fields _ (by decide)]; exact h.mode
  shared := (fields _ (by decide)).trans h.shared
  arguments := (fields _ (by decide)).trans h.arguments
  kit := kit.trans h.kit
  blocks := by rw [blocks]; exact h.blocks
  plain := by rw [blocks]; exact h.plain

theorem of_kept (h : c.Holds w) (kept : w.Kept c.me w') : c.Holds w' :=
  h.of_same (fun key hkey => kept.attributes key ((by decide : ∀ key ∈ keys, key ∉ changingKeys) key hkey))
    kept.kit (kept.blocks _)

/-- What expressions have made does not matter, nor do the limits of a script and what waits. -/
theorem of_sprites (h : c.Holds w) (sprites : w'.sprites = w.sprites) (kits : w'.kits = w.kits) :
    c.Holds w' := by
  have sprite : w'.sprite c.me = w.sprite c.me := by rw [World.sprite, World.sprite, sprites]
  refine h.of_same (fun _ _ => by rw [sprite]) (by rw [sprite]) ?_
  rw [World.kit, World.kit, kits]

theorem bind (h : c.Holds w) (i script : Nat) (name v : Value) :
    c.Holds (w.updateSprite i (·.bind script name v)) := by
  refine h.of_same (fun _ _ => ?_) ?_ rfl
  · rcases w.sprite_updateSprite i c.me (·.bind script name v) with same | same <;> rw [same]
    rfl
  · rcases w.sprite_updateSprite i c.me (·.bind script name v) with same | same <;> rw [same]
    rfl

theorem addClone (h : c.Holds w) (i : Nat) : c.Holds (w.addClone i) := by
  have sprite := w.sprite_addClone_of_lt i (World.lt_of_attribute h.shared)
  exact h.of_same (fun _ _ => by rw [sprite]) (by rw [sprite]) rfl

/-- Deleting a clone only changes what kind of sprite it is. -/
theorem delete (h : c.Holds w) (i : Nat) : c.Holds (w.updateSprite i World.deleteClone) := by
  have same : (w.updateSprite i World.deleteClone).sprite c.me = w.sprite c.me →
      c.Holds (w.updateSprite i World.deleteClone) := fun sprite =>
    h.of_same (fun _ _ => by rw [sprite]) (by rw [sprite]) rfl
  rcases w.sprite_updateSprite i c.me World.deleteClone with sprite | sprite
  · exact same sprite
  · rcases World.deleteClone_eq (w.sprite c.me) with deleted | deleted <;> rw [deleted] at sprite
    · exact same sprite
    · have kept : ∀ key, key ≠ CloneMode.key →
          Table.get? ((w.updateSprite i World.deleteClone).sprite c.me).fields key =
            Table.get? (w.sprite c.me).fields key := by
        intro key hkey
        rw [sprite]
        exact Table.get?_put_of_ne _ _ (Ne.symm hkey)
      have mode : Table.get? ((w.updateSprite i World.deleteClone).sprite c.me).fields CloneMode.key =
          some CloneMode.deleted.value := by
        rw [sprite]
        exact Table.get?_put_self _ _ _
      exact {
        name := by
          rw [Sprite.name?, Sprite.get?, kept _ (by decide)]
          exact h.name
        mode := by rw [mode]; rfl
        shared := (kept _ (by decide)).trans h.shared
        arguments := (kept _ (by decide)).trans h.arguments
        kit := by rw [sprite]; exact h.kit
        blocks := h.blocks
        plain := h.plain }

theorem putBlock (h : c.Holds w) {id : String} {b' : Block}
    (hb : Table.get? (w.kit c.kit).blocks id = some b) (outline : b'.outline = b.outline)
    (plain : ∀ v, Table.get? b'.fields "mutation" = some v → IsPlainMutation v) :
    c.Holds (w.updateKit c.kit fun kit =>
      { kit with blocks := Table.put (w.kit c.kit).blocks id b' }) := by
  rcases w.kit_updateKit c.kit fun kit =>
    { kit with blocks := Table.put (w.kit c.kit).blocks id b' } with kit | kit
  · exact h.of_same (fun _ _ => rfl) rfl (by rw [kit])
  · refine { h with blocks := ?_, plain := ?_ }
    · rw [kit]
      have found : Table.get? c.blocks id = some b'.outline := by
        rw [h.get?_blocks, hb, outline]
        rfl
      show (Table.put _ id b').map _ = _
      rw [← Table.put_map Block.outline]
      exact (congrArg (Table.put · id b'.outline) h.blocks).trans (Table.put_of_get? found)
    · rw [kit]
      intro id' o ho prototype b'' v hb'' hv
      by_cases same : id = id'
      · subst same
        rw [Table.get?_put_self] at hb''
        cases hb''
        exact plain v hv
      · rw [Table.get?_put_of_ne _ _ same] at hb''
        exact h.plain id' o ho prototype b'' v hb'' hv

end Holds

end Footing

end BlockStage
