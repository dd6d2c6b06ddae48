import BlockStage.Proofs.Run.Reach
import BlockStage.Proofs.Run.Step

/-!
# What loading makes

Loading makes a sprite and a kit of each target in turn (`Load.Supplies`). So what loading keeps is what adding
such a sprite keeps: `Load.always_project`. Then there is no clone yet (`Load.fresh_project`), and a sprite says
that it is none, unless its target replaces all its attributes: `Load.Makes.mode`.
-/

namespace BlockStage

open Run

variable {key : String} {v : Value}

/-- The project of an archive is loaded, and makes this world. -/
abbrev Archive.Loads (archive : Archive) (host : Host) (w : World) : Prop :=
  (Load.project archive).play (World.empty host) = (.ok (), w)

def Archive.HasTarget (archive : Archive) (v : Value) : Prop :=
  ∃ description list targets, archive.description? = .ok description ∧
    description.field? "targets" = .ok list ∧ list.elements? = .ok targets ∧ v ∈ targets

/-- The end of the program waits for all scripts that were started. -/
def World.Enrolled (w : World) : Prop :=
  w.managed.threads = w.queue.map Thread.id ∧ ∀ t ∈ w.queue, t.id ≤ w.threads

namespace Load

/-- A sprite that is made of a target; only the stage has the time. -/
def Makes (given : Table Value) (s : Sprite) : Prop :=
  ∃ fields kit, attributes given = .ok fields ∧
    (s = sprite fields kit ∨ ∃ time, s = (sprite fields kit).put "time" time)

/-- What a target supplies: a sprite with a number, its kit, and its lists with their names. -/
structure Supplies (given : Table Value) (n : Nat) (s : Sprite) (kit : Kit)
    (named : List (String × Value × Value)) : Prop where
  sprite : ∃ fields, attributes given = .ok fields ∧
    (s = sprite fields n ∨ ∃ time, s = (sprite fields n).put "time" time)
  vars : ∃ v entries, (Value.record given).field? "variables" = .ok v ∧ v.fields? = .ok entries ∧
    variableTexts entries = .ok kit.vars
  lists : ∃ v entries, (Value.record given).field? "lists" = .ok v ∧ v.fields? = .ok entries ∧
    lists entries = .ok named
  kept : kit.lists = named.map fun l => (l.1, l.2.2)

theorem Supplies.makes {given : Table Value} {n : Nat} {s : Sprite} {kit : Kit}
    {named : List (String × Value × Value)} (h : Supplies given n s kit named) : Makes given s := by
  obtain ⟨fields, attributes, made⟩ := h.sprite
  exact ⟨fields, n, attributes, made⟩

/-- The world with one more sprite of the project, and its number. -/
def addSprite (w : World) (me : Nat) (s : Sprite) (kit : Kit) (named : List (String × Value × Value))
    (stage : Option Nat) : World :=
  { w with
    sprites := w.sprites ++ [s]
    kits := w.kits ++ [kit]
    cast := w.cast ++ [me]
    latest := me
    listIds := named.foldl (fun ids (id, name, _) => noteList ids me name id) w.listIds
    stage := stage }

theorem length_addSprite (w : World) (me : Nat) (s : Sprite) (kit : Kit)
    (named : List (String × Value × Value)) (stage : Option Nat) :
    (addSprite w me s kit named stage).sprites.length = w.sprites.length + 1 := by
  rw [addSprite, List.length_append, List.length_singleton]

/-- The program has gone on by itself while it loads a project. -/
structure Settles (w w' : World) : Prop extends w.Aside w' where
  hosts : w'.hosts = w.hosts := by rfl
  enrolls : w.Enrolled → w'.Enrolled := by exact id

theorem Settles.trans {w w' w'' : World} (h : Settles w w') (h' : Settles w' w'') : Settles w w'' :=
  .mk (h.toAside.trans h'.toAside) (h'.hosts.trans h.hosts) fun enrolled => h'.enrolls (h.enrolls enrolled)

theorem settles_startFlagged (sprite : Nat) (w : World) (entries : Table Block) :
    Settles w (startFlagged sprite w entries) := by
  unfold startFlagged
  induction entries generalizing w with
  | nil => exact .mk (.refl w)
  | cons p rest ih =>
    have settles : Settles w (if p.2.hasOpcode "event_whenflagclicked" then
        let w := w.start sprite (.text p.1)
        { w with managed := w.managed.add w.threads } else w) := by
      split
      · refine .mk (.of_log ⟨rfl, rfl, rfl, rfl, rfl⟩ rfl rfl id rfl) rfl fun enrolled => ⟨?_, fun t mem => ?_⟩
        · have enrolled := congrArg (· ++ [w.threads + 1]) enrolled.1
          simpa [Roster.add, World.start] using enrolled
        · rcases List.mem_append.1 mem with earlier | new
          · exact Nat.le_succ_of_le (enrolled.2 t earlier)
          · exact List.mem_singleton.1 new ▸ Nat.le_refl _
      · exact .mk (.refl w)
    exact settles.trans (ih _)

theorem after_lift {α β : Type} {J : World → Prop} {w : World} {e : Except Fault α} {k : α → Run β}
    (hw : J w) (h : ∀ a, e = .ok a → J ((k a).play w).2) : J (((liftM e : Run α) >>= k).play w).2 := by
  cases e with
  | error f => exact hw
  | ok a => exact h a rfl

/-- What stays true if a sprite is added that is made of such a target. -/
def KeepsMade (J : World → Prop) (IsTarget : Table Value → Prop) : Prop :=
  ∀ (w : World) given s kit named stage, J w → IsTarget given → Supplies given w.sprites.length s kit named →
    (stage = w.stage ∨ stage = some w.sprites.length) → J (addSprite w w.sprites.length s kit named stage)

section

variable {archive : Archive} {J : World → Prop} (settles : ∀ {w w' : World}, J w → Settles w w' → J w')

include settles

theorem always_target (made : KeepsMade J fun given => v = .record given) : (target v).Always J := by
  cases v with
  | record given =>
    refine .lift_bind fun fields hfields => .lift_bind fun v hv => .lift_bind fun varEntries hentries => ?_
    refine .lift_bind fun vars hvars => .lift_bind fun u hu => .lift_bind fun listEntries hlistEntries => ?_
    refine .lift_bind fun named hnamed w0 hw0 => ?_
    have adds : ∀ {w : World} {s} (entries : Table Block) stage, J w →
        w.sprites.length = w0.sprites.length →
        (s = sprite fields w0.sprites.length ∨
          ∃ time, s = (sprite fields w0.sprites.length).put "time" time) →
        (stage = w.stage ∨ stage = some w0.sprites.length) →
        J (startFlagged w0.sprites.length (addSprite w w0.sprites.length s
          ⟨entries, vars, named.map fun (id, _, items) => (id, items)⟩ named stage) entries) := by
      intro w s entries stage hw length hs hstage
      rw [← length] at hs hstage ⊢
      refine settles (made w given s _ named stage hw rfl ?_ hstage) (settles_startFlagged _ _ _)
      exact ⟨⟨fields, hfields, hs⟩, ⟨v, varEntries, hv, hentries, hvars⟩,
        ⟨u, listEntries, hu, hlistEntries, hnamed⟩, rfl⟩
    rw [play_get_bind]
    refine after_lift hw0 fun title _ => ?_
    -- Only a line is logged before the sprite is added, so its number is still right then.
    have logged : (Run.log (.variablesOf title)).play w0 =
        (.ok (), { w0 with log := w0.log.push (.variablesOf title) }) := rfl
    have hw1 : J { w0 with log := w0.log.push (.variablesOf title) } := settles hw0 (.mk (.push w0 rfl))
    rw [play_bind_ok logged]
    refine after_lift hw1 fun isStage _ => ?_
    cases isStage with
    | true =>
      refine after_lift hw1 fun time _ => after_lift hw1 fun _ _ => after_lift hw1 fun _ _ => ?_
      refine after_lift hw1 fun entries _ => ?_
      exact adds entries _ hw1 rfl (.inr ⟨_, rfl⟩) (.inr rfl)
    | false =>
      refine after_lift hw1 fun _ _ => after_lift hw1 fun _ _ => after_lift hw1 fun entries _ => ?_
      exact adds entries _ hw1 rfl (.inl rfl) (.inl rfl)
  | _ => exact .throw _

omit settles in
theorem always_monitor (monitored : ∀ (w : World) stage fields place owner, J w → w.stage = some stage →
    J { w with monitors := w.monitors ++ [⟨fields, place, monitorSprite w stage owner⟩] }) (v : Value) :
    (monitor v).Always J := by
  refine .bind (.lift _) fun x => .bind (.lift _) fun y => .bind (.lift _) fun place => ?_
  split
  · refine .bind (.lift _) fun fields w hw => ?_
    rw [play_get_bind]
    refine after_lift hw fun stage found => after_lift hw fun owner _ => after_lift hw fun mode _ => ?_
    refine monitored w stage _ place owner hw ?_
    unfold World.stage? at found
    split at found
    · next h => exact (Except.ok.inj found) ▸ h
    · cases found
  · exact .throw _

theorem always_loaded (made : KeepsMade J fun given => archive.HasTarget (.record given))
    (monitored : ∀ (w : World) stage fields place owner, J w → w.stage = some stage →
      J { w with monitors := w.monitors ++ [⟨fields, place, monitorSprite w stage owner⟩] }) :
    (project archive).Always J := by
  have change : ∀ {f : World → World}, (∀ w : World, Settles w (f w)) → (modify f : Run Unit).Always J :=
    fun h => .modify fun w hw => settles hw (h w)
  have log : ∀ {line : LogLine}, line.isEntry = false → (Run.log line).Always J :=
    fun other => change fun w => .mk (.push w other)
  refine .bind (log rfl) fun _ => .bind (log rfl) fun _ => ?_
  refine .lift_bind fun description hd => .bind (log rfl) fun _ => ?_
  refine .bind (change fun w => .mk (.of_log ⟨rfl, rfl, rfl, rfl, rfl⟩ rfl rfl id rfl)) fun _ => ?_
  refine .lift_bind fun list hl => .lift_bind fun targets ht => ?_
  refine .bind (.forIn (fun v mem _ => .bind (always_target settles ?_) fun _ => .pure _) _) fun _ => ?_
  · rintro w given s kit named stage hw rfl
    exact made w given s kit named stage hw ⟨description, list, targets, hd, hl, ht, mem⟩
  refine .bind (log rfl) fun _ => .bind (.lift _) fun _ => .bind (.lift _) fun _ => ?_
  refine .bind (.forIn (fun v _ _ => .bind (always_monitor monitored v) fun _ => .pure _) _) fun _ => ?_
  refine .bind (change fun w => .mk (.of_log ⟨rfl, rfl, rfl, rfl, rfl⟩ rfl rfl id rfl)) fun _ => ?_
  refine .bind (log rfl) fun _ => .bind ?_ fun _ => log rfl
  exact change fun w => .mk (.record w _)

omit settles in
theorem always_project (aside : ∀ {w w' : World}, J w → w.Aside w' → J w')
    (made : KeepsMade J fun given => archive.HasTarget (.record given)) : (project archive).Always J :=
  always_loaded (fun hw h => aside hw h.toAside) made fun _ _ _ _ _ hw _ =>
    aside hw (.of_log ⟨rfl, rfl, rfl, rfl, rfl⟩ rfl rfl id rfl)

end

/-! ## Projects that were just loaded -/

/-- A world in which all sprites are made of targets, and there is no clone. -/
structure Fresh (archive : Archive) (w : World) : Prop where
  sprites : ∀ s ∈ w.sprites, ∃ given, archive.HasTarget (.record given) ∧ Makes given s
  cast : ∀ i ∈ w.cast, i < w.sprites.length
  clones : w.clones = []

variable {archive : Archive} {w w' : World}

theorem Fresh.of_aside (h : Fresh archive w) (aside : w.Aside w') : Fresh archive w' where
  sprites := by rw [aside.sprites]; exact h.sprites
  cast := by rw [aside.cast, aside.sprites]; exact h.cast
  clones := aside.clones.trans h.clones

theorem fresh_project (archive : Archive) (host : Host) :
    Fresh archive ((project archive).play (World.empty host)).2 := by
  refine always_project .of_aside ?_ _ ⟨nofun, nofun, rfl⟩
  intro w given s kit named stage fresh target supplies _
  refine ⟨fun s' mem => ?_, fun i mem => ?_, fresh.clones⟩
  · rcases List.mem_append.1 mem with mem | mem
    · exact fresh.sprites s' mem
    · exact ⟨given, target, List.mem_singleton.1 mem ▸ supplies.makes⟩
  · rw [length_addSprite]
    rcases List.mem_append.1 mem with mem | mem
    · exact Nat.lt_succ_of_lt (fresh.cast i mem)
    · exact List.mem_singleton.1 mem ▸ Nat.lt_succ_self _

end Load

/-! ## The attributes of a target -/

namespace Attributes

/-- An entry is taken over under its name, unless the name stands for the object itself. -/
theorem put_eq {t t' : Table Value} (other : key ≠ "__dict__")
    (h : put t key v = .ok t') : t' = Table.put t key v := by
  unfold put at h
  split at h <;> simp_all

/-- Else the entry is a record, which is taken for all attributes. -/
theorem put_cases {t t' : Table Value} (h : put t key v = .ok t') :
    t' = Table.put t key v ∨ key = "__dict__" ∧ v = .record t' := by
  unfold put at h
  split at h <;> simp_all

variable {fields : List (String × Value)} {t0 t : Table Value}

theorem foldlM_put_cons {p : String × Value}
    (h : (p :: fields).foldlM (fun t p => put t p.1 p.2) t0 = .ok t) :
    ∃ t1, put t0 p.1 p.2 = .ok t1 ∧ fields.foldlM (fun t p => put t p.1 p.2) t1 = .ok t := by
  rw [List.foldlM_cons] at h
  cases first : put t0 p.1 p.2 with
  | error f => rw [first] at h; cases h
  | ok t1 => exact ⟨t1, rfl, by rw [first] at h; exact h⟩

theorem nodup_foldlM_put (whole : ∀ all, ("__dict__", .record all) ∈ fields → (Table.keys all).Nodup)
    (distinct : t0.keys.Nodup) (h : fields.foldlM (fun t p => put t p.1 p.2) t0 = .ok t) :
    t.keys.Nodup := by
  induction fields generalizing t0 with
  | nil =>
    cases h
    exact distinct
  | cons p rest ih =>
    obtain ⟨t1, first, h⟩ := foldlM_put_cons h
    refine ih (fun all mem => whole all (.tail _ mem)) ?_ h
    rcases put_cases first with rfl | ⟨key, record⟩
    · exact Table.nodup_put distinct _ _
    · exact whole t1 (key ▸ record ▸ .head _)

theorem get?_foldlM_put_of_notMem (other : "__dict__" ∉ fields.map Prod.fst)
    (absent : key ∉ fields.map Prod.fst) (h : fields.foldlM (fun t p => put t p.1 p.2) t0 = .ok t) :
    Table.get? t key = Table.get? t0 key := by
  induction fields generalizing t0 with
  | nil =>
    cases h
    rfl
  | cons p rest ih =>
    simp only [List.map_cons, List.mem_cons, not_or] at other absent
    obtain ⟨t1, first, h⟩ := foldlM_put_cons h
    rw [ih other.2 absent.2 h, put_eq (Ne.symm other.1) first]
    exact Table.get?_put_of_ne _ _ (Ne.symm absent.1)

/-- An entry is found again, if none that stands for all of them comes after it. -/
theorem get?_foldlM_put_of_mem (other : key ≠ "__dict__")
    (distinct : (fields.map Prod.fst).Nodup) (mem : (key, v) ∈ fields)
    (later : "__dict__" ∉ (fields.map Prod.fst).dropWhile (· != key))
    (h : fields.foldlM (fun t p => put t p.1 p.2) t0 = .ok t) : Table.get? t key = some v := by
  induction fields generalizing t0 with
  | nil => cases mem
  | cons p rest ih =>
    obtain ⟨k, a⟩ := p
    simp only [List.map_cons, List.nodup_cons] at distinct
    obtain ⟨t1, first, h⟩ := foldlM_put_cons h
    by_cases this : k = key
    · subst this
      have value : a = v := by
        rcases List.mem_cons.1 mem with same | mem
        · exact (congrArg Prod.snd same).symm
        · exact absurd (List.mem_map_of_mem (f := Prod.fst) mem) distinct.1
      simp only [List.map_cons, List.dropWhile_cons, bne_self_eq_false, Bool.false_eq_true, if_false,
        List.mem_cons, not_or] at later
      rw [get?_foldlM_put_of_notMem later.2 distinct.1 h, put_eq other first, value]
      exact Table.get?_put_self _ _ _
    · have there : (key, v) ∈ rest := by
        rcases List.mem_cons.1 mem with same | mem
        · exact absurd (congrArg Prod.fst same).symm this
        · exact mem
      simp only [List.map_cons, List.dropWhile_cons, bne_iff_ne.2 this, if_true] at later
      exact ih distinct.2 there later h

end Attributes

namespace Load

/-- A target gives each attribute once. So does an entry in it that stands for all attributes, and this
does not come after an entry that tells whether the sprite is a clone. -/
structure IsOrdinary (given : Table Value) : Prop where
  distinct : given.keys.Nodup
  whole : ∀ all, ("__dict__", .record all) ∈ given → (Table.keys all).Nodup
  order : "__dict__" ∉ given.keys.dropWhile (· != CloneMode.key)

variable {given : Table Value} {s : Sprite}

theorem attributes_eq (ordinary : IsOrdinary given) {fields : Table Value}
    (h : attributes given = .ok fields) :
    fields.keys.Nodup ∧ Table.get? fields CloneMode.key = some CloneMode.principal.value := by
  have whole : ∀ all, ("__dict__", .record all) ∈ Table.put given CloneMode.key CloneMode.principal.value →
      (Table.keys all).Nodup := by
    intro all mem
    rcases Table.mem_put mem with mem | same
    · exact ordinary.whole all mem
    · exact absurd (congrArg Prod.fst same) (show "__dict__" ≠ CloneMode.key by decide)
  have order : "__dict__" ∉
      (Table.put given CloneMode.key CloneMode.principal.value).keys.dropWhile (· != CloneMode.key) := by
    rw [Table.keys_put]
    split
    · exact ordinary.order
    · next absent =>
      have others : ∀ key ∈ given.keys, (key != CloneMode.key) = true := by
        intro key mem
        obtain ⟨⟨_, v⟩, there, rfl⟩ := List.mem_map.1 mem
        exact bne_iff_ne.2 fun same => absent (Table.isSome_get?_of_mem (a := v) (same ▸ there))
      rw [List.dropWhile_append_of_pos others]
      decide
  refine ⟨Attributes.nodup_foldlM_put whole (by exact List.nodup_nil) h, ?_⟩
  exact Attributes.get?_foldlM_put_of_mem (by decide) (Table.nodup_put ordinary.distinct _ _)
    (Table.mem_of_get? (Table.get?_put_self _ _ _)) order h

/-- What every sprite is given beside the attributes of its target. -/
theorem sprite_fields (fields : Table Value) (kit : Nat) : (sprite fields kit).fields =
    [(Sprite.wordsKey, .text ""), (Sprite.argumentsKey, .shared), ("variables", .shared),
      ("lists", .shared), ("blocks", .shared)].foldl (fun t p => Table.put t p.1 p.2) fields := rfl

/-- The sprite of such a target has each attribute once, and is no clone. -/
theorem Makes.mode (makes : Makes given s) (ordinary : IsOrdinary given) :
    s.fields.keys.Nodup ∧ Table.get? s.fields CloneMode.key = some CloneMode.principal.value := by
  obtain ⟨fields, kit, h, made⟩ := makes
  obtain ⟨distinct, mode⟩ := attributes_eq ordinary h
  have sprite : (sprite fields kit).fields.keys.Nodup ∧
      Table.get? (sprite fields kit).fields CloneMode.key = some CloneMode.principal.value := by
    rw [sprite_fields]
    refine ⟨Table.nodup_foldl_put _ distinct, ?_⟩
    rw [Table.get?_foldl_put_of_notMem _ _ (by decide), mode]
  rcases made with rfl | ⟨time, rfl⟩
  · exact sprite
  · exact ⟨Table.nodup_put sprite.1 _ _, (Table.get?_put_of_ne _ _ (by decide)).trans sprite.2⟩

theorem Makes.shared (makes : Makes given s)
    (h : key ∈ ["variables", "lists", "blocks", Sprite.argumentsKey]) :
    Table.get? s.fields key = some .shared := by
  obtain ⟨fields, kit, -, made⟩ := makes
  have sprite : Table.get? (sprite fields kit).fields key = some .shared := by
    rw [sprite_fields]
    refine Table.get?_foldl_put_of_mem _ _ (by decide) ?_
    simp only [List.mem_cons, List.not_mem_nil, or_false] at h
    rcases h with rfl | rfl | rfl | rfl <;> simp [Sprite.argumentsKey, Sprite.wordsKey]
  have time : "time" ≠ key :=
    (by decide : ∀ key ∈ ["variables", "lists", "blocks", Sprite.argumentsKey], "time" ≠ key) key h
  rcases made with rfl | ⟨_, rfl⟩
  · exact sprite
  · exact (Table.get?_put_of_ne _ _ time).trans sprite

theorem Makes.tables (makes : Makes given s) (h : key ∈ ["blocks", Sprite.argumentsKey]) :
    Table.get? s.fields key = some .shared :=
  makes.shared (.tail _ (.tail _ h))

end Load

def Archive.ofBlocks (blocks : Table Block) : Archive :=
  .holding (.ok (.record [("monitors", .list []), ("targets", .list [.record [("name", .text "Cat"),
    ("isStage", .bool false), ("variables", .record []), ("lists", .record []),
    ("blocks", .record (blocks.map fun p => (p.1, .record p.2.fields)))]])])) false

def Archive.world (archive : Archive) : World := ((Load.project archive).play (World.empty {})).2

end BlockStage
