import BlockStage.Proofs.Data.Store

/-!
# The scope of variables

A sprite sees a variable of the stage first, and else its own, which it shares with its clones
(`World.visible?_text`). So what it sets is one entry of one kit: `Session.variables_are_scoped`.
-/

namespace BlockStage

open Run

namespace World

variable {w w' : World} {st i j k : Nat} {part : DataKind} {id : String}

/-! ## Entries of kits -/

/-- An entry of a table of data that is kept in a kit. -/
def stored? (w : World) (k : Nat) (part : DataKind) (id : String) : Option Value :=
  Table.get? ((w.kit k).get part) id

theorem stored?_putData {old : Value} (found : w.stored? k part id = some old) (new : Value) (k' : Nat)
    (part' : DataKind) (id' : String) : (w.putData (.kit k) part id new).stored? k' part' id' =
      if k' = k ∧ part' = part ∧ id' = id then some new else w.stored? k' part' id' := by
  unfold stored? at found ⊢
  by_cases this : k = k'
  · subst this
    have there : (w.updateKit k (·.put part id new)).kit k = (w.kit k).put part id new := by
      refine getD_modify (fun none => ?_) _
      rw [show w.kit k = default from none] at found
      cases part <;> cases found
    rw [putData, there, Kit.get_put]
    by_cases kind : part' = part
    · subst kind
      by_cases same : id = id'
      · subst same
        simp
      · rw [if_pos rfl, Table.get?_put_of_ne _ _ same, if_neg fun h => same h.2.2.symm]
    · rw [if_neg kind, if_neg fun h => kind h.2.1]
  · rw [putData, w.kit_updateKit_of_ne this, if_neg fun h => this h.1.symm]

theorem entryOr_record (holder : Holder) (fields : Table Value) (id : String)
    (rest : Except Fault (Option (Holder × Value))) : entryOr (holder, .record fields) (.text id) rest =
      match Table.get? fields id with
      | some v => .ok (some (holder, v))
      | none => rest := by
  unfold entryOr
  rcases found : Table.get? fields id with _ | v <;>
    simp [Value.contains?, Value.find?, Value.index?, Value.field?, Except.map, found, bind, Except.bind,
      pure, Except.pure]

section

variable (stage : w.stage = some st) (hst : w.UsesKit st j)

include stage hst

theorem visible?_beside (i : Nat) (part : DataKind) (id : String) : w.visible? i part (.text id) =
    match w.stored? j part id with
    | some v => .ok (some (.kit j, v))
    | none => w.data? i part >>= fun place => entryOr place (.text id) (pure none) := by
  rw [visible?_eq, stage?, stage]
  show (w.data? st part >>= _) = _
  rw [data?_shared (hst.shared part), hst.kit]
  exact entryOr_record ..

theorem visible?_text (hi : w.UsesKit i k) (part : DataKind) (id : String) :
    w.visible? i part (.text id) = .ok (((w.stored? j part id).map (Prod.mk (.kit j))).or
      ((w.stored? k part id).map (Prod.mk (.kit k)))) := by
  rw [visible?_beside stage hst, data?_shared (hi.shared part), hi.kit]
  rcases w.stored? j part id with _ | v
  · refine (entryOr_record ..).trans ?_
    show (match w.stored? k part id with | some v => _ | none => _) = _
    rcases w.stored? k part id with _ | v <;> rfl
  · rfl

theorem variableValue?_text (hi : w.UsesKit i k) (id : String) : w.variableValue? i (.text id) =
    .ok (((w.stored? j .vars id).or (w.stored? k .vars id)).elim .null fun v => .text v.asText) := by
  rw [variableValue?, visible?_text stage hst hi]
  rcases w.stored? j .vars id with _ | v
  · rcases w.stored? k .vars id with _ | v <;> rfl
  · rfl

end

end World

/-! ## Setting a variable -/

theorem Data.assign_absent (p : Player) {me : Nat} {id : String} {w : World}
    (absent : w.visible? me .vars (.text id) = .ok none) (value : Value) :
    ((Data.assign me (.text id) value).perform p).play w = (.ok (), w) := by
  rw [Data.assign, Act.play_look_bind, absent]
  rfl

namespace Session

open World

variable {archive : Archive} {host : Host} {w0 w : World} {st s i : Nat}

theorem Chronicle.later (came : Chronicle w0 w) : w0.Later w := by
  induction came with
  | refl => exact .refl _
  | tail _ alters ih =>
    refine ih.trans ?_
    cases alters with
    | proceeds h => exact h.goes.later
    | cleared => exact .of_sprites rfl (fun _ h => h) rfl

/-- A world that a project has come to, with what it has kept of its data. -/
structure Kept (w0 w : World) (st : Nat) : Prop where
  provided : Load.Provided w0
  came : Chronicle w0 w
  begins : w0.stage = some st

namespace Kept

theorem of_loads (loads : archive.Loads host w0)
    (stage : w0.stage = some st) (came : Chronicle w0 w) : Kept w0 w st := by
  have provided := Load.provided_project archive host
  rw [loads] at provided
  exact ⟨provided, came, stage⟩

variable (h : Kept w0 w st)

include h

theorem stocked : w0.Stocked w := Chronicle.stocked h.came h.provided.stocked

theorem stage : w.stage = some st := (Chronicle.later h.came).stage.trans h.begins

theorem usesKit (mem : s ∈ w0.cast) (stems : Stems w0 s w i) : w.UsesKit i s :=
  stems.usesKit (h.provided.uses s (List.mem_range.1 (h.provided.cast ▸ mem)))

theorem usesStage : w.UsesKit st st :=
  have there := h.provided.uses st (h.provided.stage st h.begins)
  (Stems.of_chronicle .self h.came).usesKit there

theorem mem_keys (k : Nat) (part : DataKind) (id : String) :
    id ∈ ((w0.kit k).get part).keys ↔ ∃ v, w.stored? k part id = some v := by
  rw [← h.stocked.keys k part]
  exact Table.mem_keys_iff

theorem stems_or (t : Nat) (part : DataKind) :
    (∃ s ∈ w0.cast, Stems w0 s w t) ∨ Table.get? (w.sprite t).fields part.key = none := by
  rcases found : Table.get? (w.sprite t).fields part.key with _ | v
  · exact .inr rfl
  · refine .inl (Chronicle.stems h.came h.provided.stocked (fun i lt => ?_) t part v found)
    exact h.provided.cast ▸ List.mem_range.2 lt

theorem variableValue?_congr {w' : World} {id : String} {t : Nat} (stage' : w'.stage = w.stage)
    (sprites : w'.sprites = w.sprites) (stage : w'.stored? st .vars id = w.stored? st .vars id)
    (own : ∀ s ∈ w0.cast, Stems w0 s w t → w'.stored? s .vars id = w.stored? s .vars id) :
    w'.variableValue? t (.text id) = w.variableValue? t (.text id) := by
  have hst := h.usesStage
  have hst' := hst.of_sprites sprites
  rcases h.stems_or t .vars with ⟨s, mem, stems⟩ | none
  · have ht := h.usesKit mem stems
    rw [variableValue?_text h.stage hst ht,
      variableValue?_text (stage'.trans h.stage) hst' (ht.of_sprites sprites), stage, own s mem stems]
  -- what does not stem from a sprite has no data of its own, and fails to look there as before
  · have missing : w'.data? t .vars = w.data? t .vars := by
      have same : w'.sprite t = w.sprite t := by rw [sprite, sprite, sprites]
      rw [data?, data?, same, Sprite.get?, none]
      rfl
    rw [variableValue?, variableValue?, visible?_beside h.stage hst,
      visible?_beside (stage'.trans h.stage) hst', stage, missing]

/-! An entry of kit `k` gets another value. -/

section

variable {k : Nat} {id : String} {old : Value} (found : w.stored? k .vars id = some old) (new : String)

include found

/-- Who sees the entry of the stage, or that of its own kit beside a stage that has none, reads the
value. -/
theorem reads_new {t : Nat}
    (sees : k = st ∨ w.stored? st .vars id = none ∧ k ∈ w0.cast ∧ Stems w0 k w t) :
    (w.putData (.kit k) .vars id (.text new)).variableValue? t (.text id) = .ok (.text new) := by
  have hst : (w.putData (.kit k) .vars id (.text new)).UsesKit st st := h.usesStage.of_sprites rfl
  have stage : (w.putData (.kit k) .vars id (.text new)).stage = some st := h.stage
  have put : (w.putData (.kit k) .vars id (.text new)).stored? k .vars id = some (.text new) := by
    rw [stored?_putData found, if_pos ⟨rfl, rfl, rfl⟩]
  rcases sees with rfl | ⟨absent, mem, stems⟩
  · rw [variableValue?, visible?_beside stage hst, put]
    rfl
  · have ne : st ≠ k := by
      rintro rfl
      rw [absent] at found
      cases found
    have still : (w.putData (.kit k) .vars id (.text new)).stored? st .vars id = none := by
      rw [stored?_putData found, if_neg fun same => ne same.1, absent]
    rw [variableValue?_text stage hst ((h.usesKit mem stems).of_sprites rfl), still, put]
    rfl

/-- All others read what they have read before, and so do all of other variables. -/
theorem reads_old {t : Nat} {id' : String}
    (apart : id' = id → k ≠ st ∧ ∀ s ∈ w0.cast, Stems w0 s w t → s ≠ k) :
    (w.putData (.kit k) .vars id (.text new)).variableValue? t (.text id') =
      w.variableValue? t (.text id') := by
  refine h.variableValue?_congr rfl rfl ?_ fun s mem stems => ?_
  · rw [stored?_putData found, if_neg fun same => (apart same.2.2).1 same.1.symm]
  · rw [stored?_putData found, if_neg fun same => (apart same.2.2).2 s mem stems same.1]

end

end Kept

/-- A project that has a stage, and a world that it has come to. What a sprite or a clone sets is the entry of
the stage, if this has the variable, or else the entry that the sprite shares with its clones, or else nothing.
Then the value is what everybody reads who sees that entry. All else that anybody reads is as it was. -/
theorem variables_are_scoped (loads : archive.Loads host w0)
    (stage : w0.stage = some st) (mem : s ∈ w0.cast) (came : Chronicle w0 w) :
    ((∀ s ∈ w0.sprites, s.fields.keys.Nodup) → w0.Literal → w0.Named → ∀ w', Does w w' → Chronicle w0 w') ∧
    Stems w0 s w s ∧ ∀ i, Stems w0 s w i → ∀ p id v, ∃ w',
      ((Data.assign i (.text id) v).perform p).play w = (.ok (), w') ∧ Chronicle w0 w' ∧
      (id ∈ (w0.kit st).vars.keys → w' = w.putData (.kit st) .vars id (.text v.asText)) ∧
      (id ∉ (w0.kit st).vars.keys → id ∈ (w0.kit s).vars.keys →
        w' = w.putData (.kit s) .vars id (.text v.asText)) ∧
      (id ∉ (w0.kit st).vars.keys → id ∉ (w0.kit s).vars.keys →
        w' = w ∧ w'.variableValue? i (.text id) = .ok .null) ∧
      (∀ t, (id ∈ (w0.kit st).vars.keys ∨ id ∈ (w0.kit s).vars.keys ∧ Stems w0 s w t) →
        w'.variableValue? t (.text id) = .ok (.text v.asText)) ∧
      ∀ t id', (id' = id → id ∉ (w0.kit st).vars.keys ∧ (id ∈ (w0.kit s).vars.keys → ¬ Stems w0 s w t)) →
        w'.variableValue? t (.text id') = w.variableValue? t (.text id') := by
  have kept := Kept.of_loads loads stage came
  refine ⟨fun distinct literal named w' does => ?_, .of_chronicle .self came, fun i stems p id v => ?_⟩
  · exact does.chronicle (Load.orderly_project loads distinct literal fun _ => named) came
  have after := Chronicle.of_history (Data.history_assign p i (.text id) v w)
  have seen := visible?_text kept.stage kept.usesStage (kept.usesKit mem stems) .vars id
  have isStage := kept.mem_keys st .vars id
  have isOwn := kept.mem_keys s .vars id
  simp only [Kit.get] at isStage isOwn
  rw [isStage, isOwn]
  -- the stage is looked at first, so its entry decides before the sprite's own does
  rcases hst : w.stored? st .vars id with _ | old
  · rcases hs : w.stored? s .vars id with _ | old
    · have play := Data.assign_absent p (by rw [seen, hst, hs]; rfl) v
      have reads : w.variableValue? i (.text id) = .ok .null := by
        rw [variableValue?, seen, hst, hs]
        rfl
      rw [play] at after
      exact ⟨w, play, came.trans after, by simp, by simp, fun _ _ => ⟨rfl, reads⟩, by simp,
        fun _ _ _ => rfl⟩
    · have own : w.visible? i .vars (.text id) = .ok (some (.kit s, old)) := by
        rw [seen, hst, hs]
        rfl
      have play := Data.assign_play p own v
      rw [play] at after
      refine ⟨_, play, came.trans after, by simp, fun _ _ => rfl, by simp, fun t sees => ?_,
        fun t id' apart => ?_⟩
      · exact kept.reads_new hs _ (.inr ⟨hst, mem, by simpa using sees⟩)
      · refine kept.reads_old hs _ fun same => ⟨?_, fun s' mem' stems' => ?_⟩
        · rintro rfl
          rw [hst] at hs
          cases hs
        · rintro rfl
          exact (apart same).2 ⟨old, rfl⟩ stems'
  · have own : w.visible? i .vars (.text id) = .ok (some (.kit st, old)) := by
      rw [seen, hst]
      rfl
    have play := Data.assign_play p own v
    rw [play] at after
    refine ⟨_, play, came.trans after, fun _ => rfl, by simp, by simp, fun t _ => ?_, fun t id' apart => ?_⟩
    · exact kept.reads_new hst _ (.inl rfl)
    · exact kept.reads_old hst _ fun same => absurd ⟨old, rfl⟩ (apart same).1

/-! ## Two sprites with variables of one id, beside a stage -/

/-- A stage with a variable, and two sprites that each have a variable of the same id. -/
def twoScopes : Archive :=
  let zero : Value := .list [.text "V", .text "0"]
  .ofTargets [Archive.target "Stage" true [("g", zero)] [] [],
    Archive.target "Cat" false [("v", zero)] [] [], Archive.target "Dog" false [("v", zero)] [] []]

/-- A clone sets a variable: its sprite reads the value, the other sprite does not, and the variable of the
stage is as it was. -/
theorem variables_are_scoped_twoScopes : let w0 := twoScopes.world
    let w := w0.addClone 1
    (w0.stage = some 0 ∧ w0.cast = [0, 1, 2] ∧ Chronicle w0 w ∧ Stems w0 1 w 3) ∧
      ∃ w', ((Data.assign 3 (.text "v") (.text "7")).perform (player 9)).play w = (.ok (), w') ∧
        w'.variableValue? 1 (.text "v") = .ok (.text "7") ∧
        w'.variableValue? 2 (.text "v") = w.variableValue? 2 (.text "v") ∧
        w'.variableValue? 1 (.text "g") = w.variableValue? 1 (.text "g") := by
  intro w0 w
  have loads : twoScopes.Loads {} w0 := Prod.ext rfl rfl
  have cast : w0.cast = [0, 1, 2] := rfl
  have came : Chronicle w0 w := .single (.proceeds (.clone w0 1))
  have stems : Stems w0 1 w 3 := .clone .self
  have uses : w0.UsesKit 1 1 := ⟨rfl, fun part => by cases part <;> rfl⟩
  have other : ¬ Stems w0 1 w 2 := fun stems => by cases (stems.usesKit uses).kit
  have own : "v" ∈ (w0.kit 1).vars.keys := by decide +kernel
  have notStage : "v" ∉ (w0.kit 0).vars.keys := by decide +kernel
  have mem : 1 ∈ w0.cast := cast ▸ .tail _ (.head _)
  obtain ⟨-, same, sets⟩ := variables_are_scoped loads rfl mem came
  obtain ⟨w', play, -, -, -, -, new, old⟩ := sets 3 stems (player 9) "v" (.text "7")
  refine ⟨⟨rfl, cast, came, stems⟩, w', play, new 1 (.inr ⟨own, same⟩), ?_, ?_⟩
  · exact old 2 "v" fun _ => ⟨notStage, fun _ => other⟩
  · exact old 1 "g" (by simp)

/-- Without a stage no variable can be set or read, nor can it once the variables were taken from a
sprite. -/
theorem variables_are_out_of_reach : let stageless := (Archive.withVariable []).world
    let cat := Archive.target "Cat" false [("v", .list [.text "V", .text "0"])] []
      [("variables", .plain "__delattr__" [])]
    let dropped := ((runBlock 1 (.text "variables")).play
      (Archive.ofTargets [Archive.target "Stage" true [] [] [], cat]).world).2
    ((Data.assign 0 (.text "v") (.text "1")).perform (player 9)).play stageless =
        (.error (.fault (.error .undefinedName)), stageless) ∧
      stageless.variableValue? 0 (.text "v") = .error .undefinedName ∧
      ((Data.assign 1 (.text "v") (.text "1")).perform (player 9)).play dropped =
        (.error (.fault (.error .missingMember)), dropped) ∧
      dropped.variableValue? 1 (.text "v") = .error .missingMember := by
  exact ⟨rfl, rfl, rfl, rfl⟩

end Session

end BlockStage
