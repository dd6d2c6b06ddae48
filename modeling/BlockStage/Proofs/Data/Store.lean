import BlockStage.Proofs.Data.History

/-!
# The data store

Loading gives each sprite a kit, in which every variable is a text and every list has texts for items
(`Load.Provided`). From then on no entry is added or removed (`World.Stocked`), since a block can only
replace an entry that is seen. A clone uses the kit of the sprite that it stems from (`Session.Stems`).
-/

namespace BlockStage

open Run

/-! ## Entries -/

/-- What an entry of a table of data is: a variable is a text, and a list has texts for items. -/
def DataKind.Proper : DataKind → Value → Prop
  | .vars, v => ∃ s, v = .text s
  | .lists, v => ∃ items : List String, v = .list (items.map .text)

theorem exists_texts {items : List Value} (h : ∀ v ∈ items, ∃ s, v = .text s) :
    ∃ texts : List String, items = texts.map .text := by
  induction items with
  | nil => exact ⟨[], rfl⟩
  | cons v rest ih =>
    obtain ⟨s, rfl⟩ := h v (.head _)
    obtain ⟨texts, rfl⟩ := ih fun v mem => h v (.tail _ mem)
    exact ⟨s :: texts, rfl⟩

theorem DataKind.Renews.proper {part : DataKind} {old new : Value} (h : part.Renews old new)
    (proper : part.Proper old) : part.Proper new := by
  cases part with
  | vars => exact h
  | lists =>
    obtain ⟨items, items', rfl, rfl, mem⟩ := h
    obtain ⟨texts, same⟩ := proper
    cases same
    have each : ∀ v ∈ items', ∃ s, v = .text s := fun v hv => by
      rcases mem v hv with old | text
      · obtain ⟨s, -, rfl⟩ := List.mem_map.1 old
        exact ⟨s, rfl⟩
      · exact text
    obtain ⟨texts', rfl⟩ := exists_texts each
    exact ⟨texts', rfl⟩

/-! ## Loading -/

namespace Load

theorem yields_foldlM {σ α : Type} {P : σ → Prop} {f : σ → α → Except Fault σ}
    (step : ∀ s a, P s → Yields P (f s a)) (l : List α) {s : σ} (start : P s) :
    Yields P (l.foldlM f s) := by
  induction l generalizing s with
  | nil => exact (Yields.pure s).2 start
  | cons a rest ih =>
    rw [List.foldlM_cons]
    exact (Yields.bind _ _).2 ((step s a start).mono fun _ => ih)

theorem yields_variableTexts (entries : List (String × Value)) :
    Yields (fun vars => ∀ p ∈ vars, DataKind.vars.Proper p.2) (variableTexts entries) := by
  refine yields_foldlM (fun t e proper => ?_) entries (by simp)
  simp only [Yields.bind, Yields.pure]
  refine fun value _ _ _ p mem => ?_
  rcases Table.mem_put mem with mem | rfl
  · exact proper p mem
  · exact ⟨_, rfl⟩

theorem yields_list (v : Value) : Yields (fun l => DataKind.lists.Proper l.2) (list v) := by
  have listed : ∀ items : List Value,
      DataKind.lists.Proper (.list (items.map fun item => .text item.asText)) := fun items =>
    ⟨items.map Value.asText, by rw [List.map_map]; rfl⟩
  unfold list
  simp only [Yields.bind]
  refine fun name _ => ?_
  dsimp only
  split
  · simp
  · simp only [Yields.bind, Yields.pure]
    exact fun _ _ items _ => listed items

theorem yields_lists (entries : List (String × Value)) :
    Yields (fun named => ∀ l ∈ named, DataKind.lists.Proper l.2.2) (lists entries) := by
  unfold lists
  induction entries with
  | nil => exact (Yields.pure []).2 (by simp)
  | cons e rest ih =>
    rw [List.mapM_cons]
    simp only [Yields.bind, Yields.pure]
    refine (yields_list e.2).mono fun l hl => ih.mono fun named hnamed => ?_
    rw [List.forall_mem_cons]
    exact ⟨hl, hnamed⟩

theorem getD_concat_length {α : Type} (l : List α) (a d : α) : (l ++ [a]).getD l.length d = a := by
  simp

theorem getD_concat_of_ne {α : Type} (l : List α) (a d : α) {i : Nat} (h : i ≠ l.length) :
    (l ++ [a]).getD i d = l.getD i d := by
  rw [List.getD_eq_getElem?_getD, List.getD_eq_getElem?_getD, List.getElem?_append]
  split
  · rfl
  · rw [List.getElem?_eq_none (by simp; omega), List.getElem?_eq_none (by omega)]

/-- A world in which each sprite has a kit of its own, with data as it has to be. -/
structure Provided (w : World) : Prop where
  kits : w.kits.length = w.sprites.length
  cast : w.cast = List.range w.sprites.length
  stage : ∀ i, w.stage = some i → i < w.sprites.length
  uses : ∀ i < w.sprites.length, w.UsesKit i i
  proper : ∀ k part, ∀ p ∈ (w.kit k).get part, part.Proper p.2

variable {archive : Archive} {host : Host} {w w' : World}

theorem Provided.of_aside (h : Provided w) (aside : w.Aside w') : Provided w' where
  kits := by rw [aside.kits, aside.sprites]; exact h.kits
  cast := by rw [aside.cast, aside.sprites]; exact h.cast
  stage := by rw [aside.stage, aside.sprites]; exact h.stage
  uses i lt := (h.uses i (aside.sprites ▸ lt)).of_sprites aside.sprites
  proper k := by rw [World.kit, aside.kits]; exact h.proper k

theorem Supplies.proper {given : Table Value} {n : Nat} {s : Sprite} {kit : Kit}
    {named : List (String × Value × Value)} (h : Supplies given n s kit named) (part : DataKind) :
    ∀ p ∈ kit.get part, part.Proper p.2 := by
  cases part with
  | vars =>
    obtain ⟨_, entries, -, -, made⟩ := h.vars
    exact yields_variableTexts entries _ made
  | lists =>
    obtain ⟨_, entries, -, -, made⟩ := h.lists
    intro p mem
    rw [Kit.get, h.kept] at mem
    obtain ⟨l, there, rfl⟩ := List.mem_map.1 mem
    exact yields_lists entries _ made l there

theorem Supplies.usesKit {given : Table Value} {i : Nat} {s : Sprite} {kit : Kit}
    {named : List (String × Value × Value)} (h : Supplies given i s kit named) (there : w.sprite i = s) :
    w.UsesKit i i where
  kit := by
    obtain ⟨fields, -, rfl | ⟨time, rfl⟩⟩ := h.sprite <;> rw [there] <;> rfl
  shared part := by
    rw [there]
    exact h.makes.shared (by cases part <;> simp [DataKind.key])

theorem provided_project (archive : Archive) (host : Host) :
    Provided ((project archive).play (World.empty host)).2 := by
  refine always_project .of_aside ?_ _ ⟨rfl, rfl, nofun, nofun, ?_⟩
  · intro w given s kit named stage h _ supplies hstage
    refine ⟨?_, ?_, fun i hi => ?_, fun i lt => ?_, fun k part => ?_⟩
    · rw [length_addSprite, addSprite, List.length_append, List.length_singleton, h.kits]
    · rw [length_addSprite, addSprite, List.range_succ, h.cast]
    · rw [length_addSprite]
      rcases hstage with rfl | rfl
      · exact Nat.lt_succ_of_lt (h.stage i hi)
      · cases hi
        exact Nat.lt_succ_self _
    -- sprites and kits are added in step, so the new sprite is the one that uses the new kit
    · rw [length_addSprite] at lt
      rcases Nat.lt_succ_iff_lt_or_eq.1 lt with lt | rfl
      · have same : (addSprite w w.sprites.length s kit named stage).sprite i = w.sprite i :=
          getD_concat_of_ne _ _ _ (Nat.ne_of_lt lt)
        exact ⟨same ▸ (h.uses i lt).kit, same ▸ (h.uses i lt).shared⟩
      · exact supplies.usesKit (getD_concat_length _ _ _)
    · by_cases this : k = w.kits.length
      · rw [show (addSprite w w.sprites.length s kit named stage).kit k = kit from
          this ▸ getD_concat_length _ _ _]
        exact supplies.proper part
      · rw [show (addSprite w w.sprites.length s kit named stage).kit k = w.kit k from
          getD_concat_of_ne _ _ _ this]
        exact h.proper k part
  · intro k part p mem
    cases part <;> cases mem

end Load

/-! ## Tables that keep their entries -/

theorem Kit.get_put (kit : Kit) (part other : DataKind) (id : String) (v : Value) :
    (kit.put part id v).get other =
      if other = part then Table.put (kit.get part) id v else kit.get other := by
  cases part <;> cases other <;> rfl

namespace World

variable {w0 w w' : World} {part : DataKind} {holder : Holder}

theorem visible?_eq_some {i : Nat} {id : String} {v : Value}
    (h : w.visible? i part (.text id) = .ok (some (holder, v))) :
    ∃ j fields, w.data? j part = .ok (holder, .record fields) ∧ Table.get? fields id = some v := by
  rw [visible?_eq] at h
  rcases hs : w.stage? with f | stage <;> rw [hs] at h
  · cases h
  change (w.data? stage part >>= _) = _ at h
  rcases hd : w.data? stage part with f | place <;> rw [hd] at h
  · cases h
  rcases entryOr_eq_some.1 h with ⟨fields, rfl, found⟩ | ⟨-, rest⟩
  · exact ⟨stage, fields, hd, found⟩
  · rcases own : w.data? i part with f | place <;> rw [own] at rest
    · cases rest
    rcases entryOr_eq_some.1 rest with ⟨fields, rfl, found⟩ | ⟨-, never⟩
    · exact ⟨i, fields, own, found⟩
    · cases never

theorem get_updateKit (w : World) (k other : Nat) (part kind : DataKind) (id : String) (v : Value) :
    ((w.updateKit k (·.put part id v)).kit other).get kind = (w.kit other).get kind ∨
      other = k ∧ kind = part ∧
        ((w.updateKit k (·.put part id v)).kit other).get kind = Table.put ((w.kit k).get part) id v := by
  by_cases this : k = other
  · subst this
    rcases w.kit_updateKit k (·.put part id v) with same | same <;> rw [same]
    · exact .inl rfl
    · rw [Kit.get_put]
      split
      · next kind => exact .inr ⟨rfl, kind, rfl⟩
      · exact .inl rfl
  · rw [w.kit_updateKit_of_ne this]
    exact .inl rfl

/-- A world with the ids of data that another has, in which data is kept in kits and is what it has
to be. -/
structure Stocked (w0 w : World) : Prop where
  keys : ∀ k part, ((w.kit k).get part).keys = ((w0.kit k).get part).keys
  proper : ∀ k part, ∀ p ∈ (w.kit k).get part, part.Proper p.2
  shared : ∀ i (part : DataKind) v, Table.get? (w.sprite i).fields part.key = some v → v = .shared

namespace Stocked

theorem of_same (h : w0.Stocked w) (same : w.SameData w') : w0.Stocked w' where
  keys k part := by rw [same.tables]; exact h.keys k part
  proper k part := by rw [same.tables]; exact h.proper k part
  shared i part v found := h.shared i part v ((same.attributes i part).symm.trans found)

theorem addClone (h : w0.Stocked w) (i : Nat) : w0.Stocked (w.addClone i) where
  keys := h.keys
  proper := h.proper
  shared j part v found := by
    rcases Nat.lt_trichotomy j w.sprites.length with lt | rfl | gt
    · exact h.shared j part v (w.sprite_addClone_of_lt i lt ▸ found)
    · exact h.shared i part v ((w.get?_addClone i (by cases part <;> decide)).symm.trans found)
    · exact absurd (lt_of_attribute found) (by simp [World.addClone]; omega)

theorem entry (h : w0.Stocked w) {i : Nat} {id : String} {v : Value}
    (found : w.visible? i part (.text id) = .ok (some (holder, v))) :
    ∃ k, holder = .kit k ∧ Table.get? ((w.kit k).get part) id = some v := by
  obtain ⟨j, fields, hd, entry⟩ := visible?_eq_some found
  rcases data?_eq_ok hd with ⟨rfl, -, same⟩ | ⟨-, own, ne⟩
  · cases same
    exact ⟨_, rfl, entry⟩
  · exact absurd (h.shared j part _ own) ne

theorem putData (h : w0.Stocked w) {k : Nat} {id : String} {old new : Value}
    (entry : Table.get? ((w.kit k).get part) id = some old) (proper : part.Proper new) :
    w0.Stocked (w.putData (.kit k) part id new) where
  keys other kind := by
    rw [World.putData]
    rcases w.get_updateKit k other part kind id new with same | ⟨rfl, rfl, same⟩ <;> rw [same]
    · exact h.keys other kind
    · rw [Table.keys_put, if_pos (by rw [Table.has, entry]; rfl)]
      exact h.keys other kind
  proper other kind p mem := by
    rw [World.putData] at mem
    rcases w.get_updateKit k other part kind id new with same | ⟨rfl, rfl, same⟩ <;> rw [same] at mem
    · exact h.proper other kind p mem
    · rcases Table.mem_put mem with mem | rfl
      · exact h.proper other kind p mem
      · exact proper
  shared := h.shared

end Stocked

theorem Proceeds.stocked (h : w.Proceeds w') (stocked : w0.Stocked w) : w0.Stocked w' := by
  cases h with
  | plain _ same => exact stocked.of_same same
  | clone i => exact stocked.addClone i
  | store found renews =>
    obtain ⟨k, rfl, entry⟩ := stocked.entry found
    exact stocked.putData entry (renews.proper (stocked.proper k _ _ (Table.mem_of_get? entry)))

/-! ## Sprites that keep their kits -/

theorem Proceeds.usesKit {i k : Nat} (h : w.Proceeds w') (uses : w.UsesKit i k) : w'.UsesKit i k := by
  cases h with
  | plain goes same =>
    exact ⟨(goes.later.kits i uses.there).trans uses.kit,
      fun part => (same.attributes i part).trans (uses.shared part)⟩
  | clone j => exact uses.addClone j
  | store _ _ => exact uses.putData _ _ _ _

end World

theorem Load.Provided.stocked {w : World} (h : Load.Provided w) : w.Stocked w where
  keys _ _ := rfl
  proper := h.proper
  shared i part v found := by
    have shared := (h.uses i (World.lt_of_attribute found)).shared part
    exact Option.some.inj (found.symm.trans shared)

namespace Session

open World

variable {archive : Archive} {host : Host} {w0 w w' : World} {s i k : Nat}

/-- Sprite `i` is sprite `s` of the project, or was cloned from it, directly or from another clone of it,
since the world was `w0`. -/
inductive Stems (w0 : World) (s : Nat) : World → Nat → Prop
  | self : Stems w0 s w0 s
  | clone {w : World} {i : Nat} (h : Stems w0 s w i) : Stems w0 s (w.addClone i) w.sprites.length
  | later {w w' : World} {i : Nat} (h : Stems w0 s w i) (alters : Alters w w') : Stems w0 s w' i

theorem Stems.of_chronicle (h : Stems w0 s w i) (came : Chronicle w w') : Stems w0 s w' i := by
  induction came with
  | refl => exact h
  | tail _ alters ih => exact ih.later alters

theorem Alters.stocked (h : Alters w w') (stocked : w0.Stocked w) : w0.Stocked w' := by
  cases h with
  | proceeds h => exact h.stocked stocked
  | cleared => exact stocked.of_same (.of_same rfl rfl)

theorem Alters.usesKit (h : Alters w w') (uses : w.UsesKit i k) : w'.UsesKit i k := by
  cases h with
  | proceeds h => exact h.usesKit uses
  | cleared => exact uses.of_sprites rfl

theorem Stems.usesKit (h : Stems w0 s w i) (uses : w0.UsesKit s s) : w.UsesKit i s := by
  induction h with
  | self => exact uses
  | clone _ ih => exact ih.clone
  | later _ alters ih => exact alters.usesKit ih

theorem Chronicle.stocked (h : Chronicle w0 w) (stocked : w0.Stocked w0) : w0.Stocked w := by
  induction h with
  | refl => exact stocked
  | tail _ alters ih => exact alters.stocked ih

/-- A change gives data to a new clone at most, which then stems from the sprite that it was cloned
from. -/
theorem Alters.stems (h : Alters w w') (stocked : w0.Stocked w)
    (stem : ∀ i part v, Table.get? (w.sprite i).fields (DataKind.key part) = some v →
      ∃ s ∈ w0.cast, Stems w0 s w i)
    {part : DataKind} {v : Value} (found : Table.get? (w'.sprite i).fields part.key = some v) :
    ∃ s ∈ w0.cast, Stems w0 s w' i := by
  have before : Table.get? (w.sprite i).fields part.key = some v → ∃ s ∈ w0.cast, Stems w0 s w' i := by
    intro found
    obtain ⟨s, mem, stems⟩ := stem i part v found
    exact ⟨s, mem, stems.later h⟩
  cases h with
  | cleared => exact before found
  | proceeds step =>
    cases step with
    | plain _ same => exact before ((same.attributes i part).symm.trans found)
    | store seen _ =>
      -- what is seen stands in a kit, so no attribute of a sprite is written
      obtain ⟨k, rfl, -⟩ := stocked.entry seen
      exact before found
    | clone j =>
      rcases Nat.lt_trichotomy i w.sprites.length with lt | rfl | gt
      · exact before (w.sprite_addClone_of_lt j lt ▸ found)
      · have copied := (w.get?_addClone j (by cases part <;> decide)).symm.trans found
        obtain ⟨s, mem, stems⟩ := stem j part v copied
        exact ⟨s, mem, stems.clone⟩
      · exact absurd (lt_of_attribute found) (by simp [addClone]; omega)

theorem Chronicle.stems (came : Chronicle w0 w) (stocked : w0.Stocked w0)
    (cast : ∀ i < w0.sprites.length, i ∈ w0.cast) :
    ∀ i part v, Table.get? (w.sprite i).fields (DataKind.key part) = some v →
      ∃ s ∈ w0.cast, Stems w0 s w i := by
  induction came with
  | refl => exact fun i part v found => ⟨i, cast i (lt_of_attribute found), .self⟩
  | tail came alters ih =>
    exact fun i part v found => alters.stems (Chronicle.stocked came stocked) ih found

/-- A project whose prototypes are written in literals and whose opcodes name no attributes of all objects, once
it is loaded. All that a session does to it goes on with its chronicle. Then whatever has data stems from a
sprite of the project, and has the variables and lists with the ids that were loaded for that sprite, and no
others; every variable is a text, and every item of a list is one. -/
theorem data_ids_are_kept (loads : archive.Loads host w0)
    (distinct : ∀ s ∈ w0.sprites, s.fields.keys.Nodup) (literal : w0.Literal) (named : w0.Named) :
    (∀ steps answers, (∀ step ∈ steps, step.Scripted) → play host archive steps = .ok answers →
      ∀ answer ∈ answers, Chronicle w0 answer.world) ∧
    ∀ w, Chronicle w0 w →
      (∀ w', Does w w' → Chronicle w0 w') ∧ (∀ reply, Chronicle w0 (close reply w).2) ∧
      (∀ i part place, w.data? i part = .ok place → ∃ s ∈ w0.cast, Stems w0 s w i) ∧
      ∀ s ∈ w0.cast, Stems w0 s w s ∧ ∀ c, Stems w0 s w c → ∀ part, ∃ table : Table Value,
        w.data? c part = .ok (.kit s, .record table) ∧
          table.keys = ((w0.kit s).get part).keys ∧ ∀ p ∈ table, part.Proper p.2 := by
  have orderly : w0.Orderly False := Load.orderly_project loads distinct literal fun _ => named
  have provided := Load.provided_project archive host
  rw [loads] at provided
  have upholds := upholds_chronicle orderly
  have cleared : ∀ w, Chronicle w0 w → Chronicle w0 { w with log := #[], calls := #[] } :=
    fun w came => came.tail (.cleared w)
  refine ⟨fun steps answers scripted played => answers_keep upholds.does cleared loads .refl scripted played,
    fun w came => ⟨fun w' does => does.chronicle orderly came,
      fun reply => upholds.always_close cleared reply came, fun i part place found => ?_,
      fun s mem => ⟨.of_chronicle .self came, fun c stems part => ?_⟩⟩⟩
  · have kept : ∃ v, Table.get? (w.sprite i).fields part.key = some v := by
      rcases data?_eq_ok found with ⟨-, shared, -⟩ | ⟨-, own, -⟩
      · exact ⟨_, shared⟩
      · exact ⟨_, own⟩
    obtain ⟨v, has⟩ := kept
    refine Chronicle.stems came provided.stocked (fun i lt => ?_) i part v has
    exact provided.cast ▸ List.mem_range.2 lt
  · have uses := stems.usesKit (provided.uses s (List.mem_range.1 (provided.cast ▸ mem)))
    have stocked := Chronicle.stocked came provided.stocked
    refine ⟨(w.kit s).get part, ?_, stocked.keys s part, stocked.proper s part⟩
    rw [data?_shared (uses.shared part), uses.kit]

/-! ## Projects that keep their data, and projects that lose it -/

theorem dataKeeper_named : dataKeeperWorld.Named := (World.named_of_bare (by decide +kernel)).2

/-- The sprite makes a clone, both write, and the clone fails to add to the list. -/
theorem data_ids_are_kept_dataKeeper : let w0 := dataKeeperWorld
    let w := w0.afterRuns [(1, .text "m", true), (1, .text "a", true), (2, .text "s", true),
      (2, .text "a", true)]
    ((∀ s ∈ w0.sprites, s.fields.keys.Nodup) ∧ w0.Literal ∧ w0.Named ∧ w0.cast = [0, 1]) ∧
      w.log.toList.getLast? = some (.blockFailed "a" .missingKey) ∧
      (w.kit 1).vars.map (fun p => (p.1, p.2.asText)) = [("v", "1")] ∧
      (w.kit 1).lists.map (fun p => (p.1, p.2.asText)) = [("l", "['x']")] ∧
      Stems w0 1 w 2 ∧ ∀ w', Chronicle w w' → ∃ table : Table Value,
        w'.data? 2 .vars = .ok (.kit 1, .record table) ∧ table.keys = ["v"] := by
  intro w0 w
  obtain ⟨-, kept⟩ := data_ids_are_kept dataKeeper_loads dataKeeper_distinct dataKeeper_literal dataKeeper_named
  have ran : ∀ w, Chronicle w0 w → ∀ me flag, Chronicle w0 ((runBlock me flag).play w).2 :=
    fun w came me flag => (kept w came).1 _ (.ran me flag true)
  have came : Chronicle w0 w := ran _ (ran _ (ran _ (ran _ .refl _ _) _ _) _ _) _ _
  have stems : Stems w0 1 w 2 := by
    have used : (w.data? 2 .vars).map Prod.fst = .ok (.kit 1) := by decide +kernel
    rcases hd : w.data? 2 .vars with f | place <;> rw [hd] at used
    · cases used
    obtain ⟨-, -, stem, own⟩ := kept w came
    obtain ⟨s, mem, stems⟩ := stem 2 .vars place hd
    obtain ⟨table, found, -⟩ := (own s mem).2 2 stems .vars
    cases hd.symm.trans found
    cases used
    exact stems
  refine ⟨⟨dataKeeper_distinct, dataKeeper_literal, dataKeeper_named, rfl⟩, by decide +kernel, by decide +kernel,
    by decide +kernel, stems, fun w' later => ?_⟩
  obtain ⟨-, -, -, own⟩ := kept w' (came.trans later)
  obtain ⟨table, found, keys, -⟩ := (own 1 (.tail _ (.head _))).2 2 (stems.of_chronicle later) .vars
  exact ⟨table, found, keys⟩

end Session

/-- A target with variables, lists and blocks, and perhaps more attributes. -/
def Archive.target (name : String) (isStage : Bool) (vars lists : Table Value) (blocks : Table Block)
    (more : Table Value := []) : Value :=
  .record ([("name", .text name), ("isStage", .bool isStage), ("variables", .record vars),
    ("lists", .record lists), ("blocks", .record (blocks.map fun p => (p.1, .record p.2.fields)))] ++ more)

def Archive.ofTargets (targets : List Value) : Archive :=
  .holding (.ok (.record [("monitors", .list []), ("targets", .list targets)])) false

/-- A project of one sprite with a variable and some blocks. -/
def Archive.withVariable (blocks : Table Block) : Archive :=
  .ofTargets [target "Cat" false [("v", .list [.text "V", .text "0"])] [] blocks]

/-- Names of parameters that are read by clearing the variables take the variable away, and so does a block
that is named for an attribute and removes it. -/
theorem variables_are_lost :
    let cleared := (Archive.withVariable (customBlock "[self.variables.clear() or \"n\"]")).world
    let dropped := (Archive.withVariable [("variables", .plain "__delattr__" [])]).world
    (cleared.kit 0).vars.keys = ["v"] ∧ (((runBlock 0 (.text "c")).play cleared).2.kit 0).vars.keys = [] ∧
      dropped.data? 0 .vars = .ok (.kit 0, .record [("v", .text "0")]) ∧
      ((runBlock 0 (.text "variables")).play dropped).2.data? 0 .vars = .error .missingMember := by
  refine ⟨?_, ?_, rfl, rfl⟩ <;> decide +kernel

end BlockStage
