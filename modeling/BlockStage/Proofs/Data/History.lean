import BlockStage.Proofs.Data.ListEdits
import BlockStage.Proofs.Data.Shared
import BlockStage.Proofs.Run.Upkeep

/-!
# The history of data

In an orderly world data changes in one way only: where a sprite sees a variable or a list, a block puts
another text or other items. `World.Proceeds` is one change, `World.History` a sequence of them. Whatever
scripts and sessions do is such a history: `World.Orderly.upkeep_history`.
-/

namespace BlockStage

open Run Act

/-- What an entry of a table of data can become: a variable any text, and a list a list of texts and of
items that it had. -/
def DataKind.Renews : DataKind → Value → Value → Prop
  | .vars, _, new => ∃ s, new = .text s
  | .lists, old, new => ∃ items items', old = .list items ∧ new = .list items' ∧
      ∀ v ∈ items', v ∈ items ∨ ∃ s, v = .text s

namespace World

/-- A world with the same sprites, whose data is as it was and kept where it was. -/
structure SameData (w w' : World) : Prop where
  length : w'.sprites.length = w.sprites.length
  tables : ∀ k part, (w'.kit k).get part = (w.kit k).get part
  attributes : ∀ i (part : DataKind),
    Table.get? (w'.sprite i).fields part.key = Table.get? (w.sprite i).fields part.key

/-- What a world can become, one change at a time. -/
inductive Proceeds : World → World → Prop
  | plain {w w' : World} (goes : w.Goes False w') (same : w.SameData w') : Proceeds w w'
  | clone (w : World) (i : Nat) : Proceeds w (w.addClone i)
  | store {w : World} {me : Nat} {part : DataKind} {id : String} {holder : Holder} {old new : Value}
    (found : w.visible? me part (.text id) = .ok (some (holder, old))) (renews : part.Renews old new) :
    Proceeds w (w.putData holder part id new)

/-- A world and what it becomes, one change after another. -/
abbrev History : World → World → Prop := Relation.ReflTransGen Proceeds

variable {w w' : World}

theorem Proceeds.goes (h : w.Proceeds w') : w.Goes False w' := by
  cases h with
  | plain goes _ => exact goes
  | clone i => exact .clone w i
  | store _ _ => exact .putData w _ _ _ _

theorem History.path (h : w.History w') : w.Path False w' := h.lift id fun _ _ step => step.goes

/-! ## Data that is left alone -/

namespace SameData

theorem of_same (sprites : w'.sprites = w.sprites) (kits : w'.kits = w.kits) : w.SameData w' where
  length := by rw [sprites]
  tables k part := by rw [kit, kit, kits]
  attributes i part := by rw [sprite, sprite, sprites]

theorem updateSprite (w : World) (i : Nat) {f : Sprite → Sprite} (attributes : ∀ s (part : DataKind),
    Table.get? (f s).fields part.key = Table.get? s.fields part.key) : w.SameData (w.updateSprite i f) where
  length := by simp [World.updateSprite]
  tables _ _ := rfl
  attributes j part := by
    rcases w.sprite_updateSprite i j f with same | same <;> rw [same]
    exact attributes _ part

theorem put (w : World) (i : Nat) {key : String} (v : Value) (other : ∀ part : DataKind, key ≠ part.key) :
    w.SameData (w.updateSprite i (·.put key v)) :=
  updateSprite w i fun s part => Table.get?_put_of_ne s.fields v (other part)

end SameData

theorem Idles.proceeds (h : w.Idles w') : w.Proceeds w' :=
  .plain h.goes ⟨h.length, h.tables, fun i part =>
    h.attributes i part.key (by cases part <;> decide) (by cases part <;> decide)⟩

end World

open World

/-! ## Requests -/

/-- What blocks ask for that store nothing, beside calling a custom block. -/
def Request.Plain : Request → Prop
  | .look | .record _ | .set _ _ _ | .say _ _ | .showMonitor _ _ | .chance | .resetTimer _ | .sleep _
  | .addClone _ | .start _ _ | .delete _ | .stop | .tick | .run _ _ => True
  | .log line => line.isEntry = false
  | _ => False

variable {w0 w w' : World} {p : Player} {me : Nat} {flag : Value} {r : Request}

theorem Request.Plain.proceeds (p : Player) (h : r.Plain) (single : r.Single) (w : World) :
    w.Proceeds ((r.perform p).play w).2 := by
  have ordinary : r.Ordinary → w.Proceeds ((r.perform p).play w).2 := fun ordinary => by
    have alters := ordinary.alters p w
    refine .plain alters.goes ?_
    generalize ((r.perform p).play w).2 = w' at alters ⊢
    cases alters with
    | note _ _ => exact .of_same rfl rfl
    | give i v _ other _ => exact .put w i v other
    | storeVariable _ _ _ | storeList _ _ _ => exact h.elim
  have runtime : r.Runtime → w.Proceeds ((r.perform p).play w).2 := fun runtime => by
    have manages := runtime.manages p w
    generalize ((r.perform p).play w).2 = w' at manages ⊢
    cases manages with
    | goOn ended _ => exact .plain (Manages.goes (r := r) (.goOn ended ‹_›)) (.of_same rfl rfl)
    | clone i => exact .clone w i
    | bind _ _ _ _ => exact h.elim
    | delete i =>
      refine .plain (Manages.goes (.delete i)) (.updateSprite w i fun s part => ?_)
      rcases deleteClone_eq s with same | same <;> rw [same]
      exact Table.get?_put_of_ne s.fields _ (by cases part <;> decide)
  cases r with
  | look | record _ | set _ _ _ | say _ _ | showMonitor _ _ | chance | resetTimer _ | sleep _ =>
    exact ordinary trivial
  | log line => exact ordinary h
  | addClone _ | start _ _ | delete _ | stop | tick => exact runtime trivial
  | run _ _ => exact single.elim
  | _ => exact h.elim

theorem Opcode.Makes.plain {op : Opcode} (h : op.Makes me r)
    (stores : ∀ b, op = .data b → b ∉ Data.setsVariable ∧ b ∉ Data.setsList) : r.Plain := by
  cases op with
  | motion | looks | operator | control | sensing | custom | flagClicked =>
    cases r <;> simp_all [Opcode.Makes, Motion.Makes, Looks.Makes, Operator.Makes, Control.Makes,
      Sensing.Makes, Request.Plain]
  | data b =>
    obtain ⟨vars, lists⟩ := stores b rfl
    cases r <;> simp_all [Opcode.Makes, Data.Makes, Request.Plain]

theorem Arguments.Makes.plain (h : Arguments.Makes me r) : r.Plain := by
  cases r <;> simp_all [Arguments.Makes, Request.Plain]

theorem Request.Plain.admits (h : r.Plain) (a : r.Reply) : r.Admits (fun _ => True) a := by
  cases r with
  | attempt _ _ _ | invoke _ _ _ => exact h.elim
  | _ => trivial

/-- A run is followed from each world that it can begin in. -/
theorem World.History.always {α : Type} {run : Run α} (h : ∀ w, w0.History w → w.History (run.play w).2) :
    run.Always w0.History :=
  fun w history => history.trans (h w history)

theorem Player.Minds.always_plain {α : Type} {Q : α → Prop} {act : Act α} (hp : p.Minds w0.History)
    (h : act.Sends (fun _ => True) Request.Plain Q) : (act.perform p).Always w0.History := by
  refine h.always (fun _ h => h.admits) fun r plain => ?_
  cases r with
  | run i flag => exact hp.run i flag true
  | attempt _ _ _ | invoke _ _ _ => exact plain.elim
  | _ => exact fun w history => history.tail (plain.proceeds p trivial w)

/-! ## Blocks on data -/

theorem World.list?_eq_ok {id : String} {holder : Holder} {v : Value}
    (h : w.list? me (.text id) = .ok (holder, v)) :
    w.visible? me .lists (.text id) = .ok (some (holder, v)) := by
  unfold World.list? at h
  rcases hv : w.visible? me .lists (.text id) with f | _ | found <;> rw [hv] at h
  · cases h
  · cases h
  · cases h
    rfl

namespace Data

theorem history_assign (p : Player) (me : Nat) (id value : Value) (w : World) :
    w.History (((assign me id value).perform p).play w).2 := by
  rw [assign, Act.play_look_bind]
  rcases found : w.visible? me .vars id with f | _ | ⟨holder, old⟩
  · exact .refl
  · exact .refl
  · cases id with
    | text id => exact .single (.store found ⟨_, rfl⟩)
    | _ => exact .refl

theorem findList_cases (p : Player) (me : Nat) (name : Value) (w : World) :
    (∃ f : Fault, ((findList me name).perform p).play w = (.error (.fault f), w)) ∨
      ∃ id holder v, w.list? me (.text id) = .ok (holder, v) ∧
        ((findList me name).perform p).play w = (.ok ⟨holder, id, v⟩, w) := by
  by_cases hname : name.canName = true
  · rw [findList_play p me hname]
    rcases w.means? me name with f | id
    · exact .inl ⟨f, rfl⟩
    · rw [Run.lift_ok_bind]
      rcases hl : w.list? me (.text id) with f | ⟨holder, v⟩
      · exact .inl ⟨f, rfl⟩
      · exact .inr ⟨id, holder, v, hl, rfl⟩
  · refine .inl ⟨.wrongKind, ?_⟩
    rw [findList, Act.play_look_bind,
      if_pos (by simpa using hname)]
    rfl

theorem history_onList (p : Player) (me : Nat) (args : Arguments) (name : Value) {b : Data}
    (sets : b ∈ setsList) (w : World) :
    w.History (((findList me name >>= fun list => onList args list b).perform p).play w).2 := by
  rcases findList_cases p me name w with ⟨f, failed⟩ | ⟨id, holder, v, found, done⟩
  · rw [Act.perform_bind, play_bind_error failed]
  · rw [Act.play_bind_ok done, onList_eq _ _ sets, Act.perform_bind, Act.perform_lift]
    rcases he : edited? args ⟨holder, id, v⟩ b with f | items'
    · exact .refl
    · obtain ⟨items, rfl, mem⟩ := edited?_yields args ⟨holder, id, v⟩ b items' he
      exact .single (.store (World.list?_eq_ok found) ⟨items, items', rfl, rfl, mem⟩)

theorem always_act (hp : p.Minds w0.History) (b : Data) :
    ((b.act me flag).perform p).Always w0.History := by
  have takes : ((Arguments.eval me flag).perform p).Always w0.History :=
    hp.always_plain (Arguments.sends_eval fun _ => Arguments.Makes.plain)
  have sets : ∀ id value, ((assign me id value).perform p).Always w0.History :=
    fun id value => .always fun w _ => history_assign p me id value w
  by_cases lists : b ∈ setsList
  · have acts : b.act me flag = (Arguments.eval me flag >>= fun args => liftM (args.need "LIST") >>=
        fun name => findList me name >>= fun list => onList args list b) := by
      simp only [setsList, List.mem_cons, List.not_mem_nil, or_false] at lists
      rcases lists with rfl | rfl | rfl | rfl | rfl <;> rfl
    rw [acts, Act.perform_bind]
    refine .bind takes fun args => ?_
    rw [Act.perform_bind, Act.perform_lift]
    exact .bind (.lift _) fun name => .always fun w _ => history_onList p me args name lists w
  by_cases vars : b ∈ setsVariable
  · simp only [setsVariable, List.mem_cons, List.not_mem_nil, or_false] at vars
    rcases vars with rfl | rfl
    all_goals
      simp only [act, Act.perform_bind, Act.perform_look, Act.perform_lift]
      refine .bind takes fun args => .bind (.lift _) fun id => .bind (.lift _) fun value => ?_
    · exact .bind (sets _ _) fun _ => .pure _
    · refine .bind (.lift _) fun step => .bind .get fun w => .bind (.lift _) fun old => ?_
      exact .bind (.lift _) fun number => .bind (sets _ _) fun _ => .pure _
  · have stores : ∀ b', Opcode.data b = .data b' → b' ∉ setsVariable ∧ b' ∉ setsList := by
      rintro _ ⟨⟩
      exact ⟨vars, lists⟩
    have sends : ((Opcode.data b).act me flag).Sends (fun _ => True) Request.Plain fun _ => True :=
      Opcode.sends_act (by simp) (Arguments.sends_eval fun _ => Arguments.Makes.plain)
        fun _ makes => makes.plain stores
    exact hp.always_plain sends

end Data

/-! ## Sessions -/

/-- All that scripts and sessions do to an orderly world is a history. -/
theorem World.Orderly.upkeep_history (orderly : w0.Orderly False) :
    World.Upkeep (fun _ => True) w0.History where
  orderly history := history.path.orderly orderly
  hosts _ _ _ _ := trivial
  rests history h := history.tail h.proceeds
  binds history i name v := history.tail (Idles.bind i _ name v).proceeds
  acts hp op call me flag _ := by
    by_cases data : ∃ b, op = .data b
    · obtain ⟨b, rfl⟩ := data
      exact b.always_act hp
    · exact hp.always_plain (Opcode.sends_act call (Arguments.sends_eval fun _ => Arguments.Makes.plain)
        fun r makes => makes.plain fun b same => absurd ⟨b, same⟩ data)
  assigns p me id v := .always fun w _ => Data.history_assign p me id v w

theorem World.Orderly.upholds_history (orderly : w0.Orderly False) : Session.Upholds w0.History :=
  orderly.upkeep_history.upholds
    (fun history h => history.tail (.plain (.aside h.toAside) (.of_same h.sprites h.kits)))
    fun history => history.tail (.plain (.aside (.finish _)) (.of_same rfl rfl))

namespace Session

/-- One change of a world, or an answer that is closed. -/
inductive Alters : World → World → Prop
  | proceeds {w w' : World} (h : w.Proceeds w') : Alters w w'
  | cleared (w : World) : Alters w { w with log := #[], calls := #[] }

abbrev Chronicle : World → World → Prop := Relation.ReflTransGen Alters

theorem Chronicle.of_history (h : w.History w') : Chronicle w w' := h.lift id fun _ _ => .proceeds

theorem Chronicle.orderly (h : Chronicle w w') (orderly : w.Orderly False) : w'.Orderly False := by
  induction h with
  | refl => exact orderly
  | tail _ alters ih =>
    cases alters with
    | proceeds h => exact h.goes.orderly ih
    | cleared => exact cleared_orderly ih

/-- A session goes on from whatever an orderly world has come to. -/
theorem upholds_chronicle (orderly : w0.Orderly False) : Upholds (Chronicle w0) := by
  have each : ∀ {α : Type} {run : Run α},
      (∀ w : World, w.Orderly False → w.History (run.play w).2) → run.Always (Chronicle w0) :=
    fun h w came => came.trans (Chronicle.of_history (h w (came.orderly orderly)))
  exact {
    onward := fun came h => came.tail (.proceeds (.plain (.aside h.toAside) (.of_same h.sprites h.kits)))
    runs := fun me flag next => each fun w orderly => orderly.upholds_history.runs me flag next w .refl
    reports := fun _ _ _ _ _ _ _ _ => each fun w orderly => by
      have keeps := orderly.upkeep_history
      exact (Run.Always.bind .get fun _ => keeps.always_member (keeps.minds_player _) (fun _ _ => rfl)
        (.inr trivial)) w .refl
    draws := fun i => each fun w orderly => orderly.upholds_history.draws i w .refl
    takes := fun me flag => each fun w orderly => orderly.upholds_history.takes me flag w .refl
    assigns := fun me id v => each fun w orderly => orderly.upholds_history.assigns me id v w .refl
    ends := fun came => came.tail (.proceeds (.plain (.aside (.finish _)) (.of_same rfl rfl))) }

theorem Does.chronicle (orderly : w0.Orderly False) (came : Chronicle w0 w) (h : Does w w') :
    Chronicle w0 w' :=
  (upholds_chronicle orderly).does came h

end Session

end BlockStage
