import BlockStage.Proofs.Clone.Waiting
import BlockStage.Proofs.Custom.Frames
import BlockStage.Proofs.Run.Upkeep

/-!
# Parameters of different scripts

All scripts of a sprite bind their parameters in one table, each under its own number. `World.Binds` follows
a world while scripts run, in any order. In an orderly world what a name reads for a script is what that
script has bound to it last (`Binds.argument?`).
-/

namespace BlockStage

open Run World

variable {w0 w w' : World} {p : Player} {me : Nat} {flag : Value} {r : Request}

/-! ## What is bound -/

/-- A world and what becomes of it, with what is bound meanwhile, each on a sprite and by the script that
runs then. -/
inductive World.Binds (w : World) : List (Nat × Binding) → World → Prop
  | refl : Binds w [] w
  | rest {notes : List (Nat × Binding)} {w' w'' : World} (h : Binds w notes w')
    (changes : Session.Changes False w' w'')
    (same : ∀ i, (w''.sprite i).arguments = (w'.sprite i).arguments) : Binds w notes w''
  | bind {notes : List (Nat × Binding)} {w' : World} (h : Binds w notes w') {i : Nat}
    (there : i < w'.sprites.length) (name v : Value) :
    Binds w (notes ++ [(i, ⟨w'.current, name, v⟩)]) (w'.updateSprite i (·.bind w'.current name v))

/-- What a script has bound last to a name on a sprite. -/
def Binding.latest? (notes : List (Nat × Binding)) (i thread : Nat) (name : String) : Option Value :=
  (notes.filter fun n => n.1 = i && n.2.isFor thread name).getLast?.map (·.2.value)

theorem Binding.latest?_concat (notes : List (Nat × Binding)) (n : Nat × Binding) (i thread : Nat)
    (name : String) : latest? (notes ++ [n]) i thread name =
      if n.1 = i && n.2.isFor thread name then some n.2.value else latest? notes i thread name := by
  unfold latest?
  rw [List.filter_append]
  cases here : decide (n.1 = i) && n.2.isFor thread name <;> simp [here]

/-- What a script has bound last stands among its own notes. -/
theorem Binding.latest?_own (notes : List (Nat × Binding)) (i thread : Nat) (name : String) :
    latest? notes i thread name =
      latest? (notes.filter fun n => n.1 = i && n.2.thread = thread) i thread name := by
  unfold latest?
  rw [List.filter_filter]
  congr 3
  funext n
  simp only [isFor]
  cases decide (n.1 = i) <;> cases decide (n.2.thread = thread) <;> simp

/-- What a script binds is no matter of what others have bound. -/
theorem Sprite.bind_others (s : Sprite) {thread other : Nat} (name v : Value) (h : thread ≠ other) :
    (s.bind thread name v).arguments.filter (·.thread = other) = s.arguments.filter (·.thread = other) := by
  let rebound (b : Binding) : Binding :=
    if b.thread = thread && b.name.alike name then { b with value := v } else b
  have same : (fun b : Binding => decide (b.thread = other)) ∘ rebound = fun b => decide (b.thread = other) := by
    funext b
    simp only [Function.comp, rebound]
    split <;> rfl
  unfold Sprite.bind
  dsimp only
  split
  · rw [List.filter_map, show (_ ∘ _) = _ from same]
    refine (List.map_congr_left fun b mem => ?_).trans (List.map_id _)
    have theirs : b.thread = other := by simpa using (List.mem_filter.1 mem).2
    simp [theirs, Ne.symm h]
  · simp [h]

namespace World.Binds

variable {notes new : List (Nat × Binding)}

theorem goes (h : w.Binds notes w') {w'' : World} (goes : w'.Goes False w'')
    (same : ∀ i, (w''.sprite i).arguments = (w'.sprite i).arguments) : w.Binds notes w'' :=
  h.rest (.goes goes) same

theorem course (h : w.Binds notes w') : Session.Course False w w' := by
  induction h with
  | refl => exact .refl
  | rest _ changes _ ih => exact ih.tail changes
  | bind _ _ _ _ ih => exact ih.tail (.goes (.turn _ _ fun _ => .rebind _))

/-- What is found for a script and a name is what was noted last, or what there was. -/
theorem find? (h : w.Binds notes w') (i thread : Nat) (x : String) :
    ((w'.sprite i).arguments.find? (Binding.isFor thread x)).map Binding.value =
      (Binding.latest? notes i thread x).or
        (((w.sprite i).arguments.find? (Binding.isFor thread x)).map Binding.value) := by
  induction h with
  | refl => rfl
  | rest _ _ same ih => rw [same, ih]
  | @bind notes w' _ j there name v ih =>
    rw [Binding.latest?_concat]
    by_cases here : j = i
    · subst here
      have bound : (w'.updateSprite j (·.bind w'.current name v)).sprite j =
          (w'.sprite j).bind w'.current name v := by
        simp [World.updateSprite, World.sprite, List.getD_eq_getElem?_getD, there]
      rw [bound, Binding.find?_bind, ih]
      cases Binding.isFor thread x ⟨w'.current, name, v⟩ <;> simp
    · rw [w'.sprite_updateSprite_of_ne here, ih]
      simp [here]

/-- What a script has bound stays as it is while others bind. -/
theorem others (h : w.Binds notes w') {thread : Nat} (apart : ∀ n ∈ notes, n.2.thread ≠ thread) (i : Nat) :
    (w'.sprite i).arguments.filter (·.thread = thread) = (w.sprite i).arguments.filter (·.thread = thread) := by
  induction h with
  | refl => rfl
  | rest _ _ same ih => rw [same, ih apart]
  | @bind notes w' _ j _ name v ih =>
    have ih := ih fun n mem => apart n (List.mem_append_left _ mem)
    rcases w'.sprite_updateSprite j i (·.bind w'.current name v) with same | same <;> rw [same]
    · exact ih
    · rw [Sprite.bind_others _ _ _ (apart _ (List.mem_append_right _ (.head _))), ih]

end World.Binds

/-! ## Scripts -/

/-- What comes of a world by what scripts in `T` bind. -/
def World.BoundBy (T : Nat → Prop) (w0 w : World) : Prop :=
  ∃ notes, w0.Binds notes w ∧ (∀ n ∈ notes, T n.2.thread) ∧ T w.current

section

variable {T : Nat → Prop}

theorem World.BoundBy.goes (h : w0.BoundBy T w) (goes : w.Goes False w')
    (same : ∀ i, (w'.sprite i).arguments = (w.sprite i).arguments) (current : w'.current = w.current) :
    w0.BoundBy T w' := by
  obtain ⟨notes, binds, all, running⟩ := h
  exact ⟨notes, binds.goes goes same, all, current ▸ running⟩

theorem World.BoundBy.bind (h : w0.BoundBy T w) (i : Nat) (name v : Value) :
    w0.BoundBy T (w.updateSprite i (·.bind w.current name v)) := by
  obtain ⟨notes, binds, all, running⟩ := h
  by_cases there : i < w.sprites.length
  · refine ⟨_, binds.bind there name v, fun n mem => ?_, running⟩
    rcases List.mem_append.1 mem with earlier | new
    · exact all n earlier
    · cases List.mem_singleton.1 new
      exact running
  · refine ⟨notes, binds.goes (.turn w i fun _ => .rebind _) fun j => ?_, all, running⟩
    rw [World.updateSprite, List.modify_eq_self (Nat.le_of_not_lt there)]

theorem World.arguments_updateSprite (w : World) (i j : Nat) {f : Sprite → Sprite}
    (same : ∀ s, (f s).arguments = s.arguments) :
    ((w.updateSprite i f).sprite j).arguments = (w.sprite j).arguments := by
  rcases w.sprite_updateSprite i j f with kept | changed
  · rw [kept]
  · rw [changed, same]

/-- A clone has bound nothing. -/
theorem World.arguments_addClone (w : World) (i j : Nat) :
    ((w.addClone i).sprite j).arguments = (w.sprite j).arguments := by
  rcases Nat.lt_or_ge j w.sprites.length with there | beyond
  · rw [w.sprite_addClone_of_lt i there]
  · have none : (w.sprite j).arguments = [] := by
      rw [World.sprite, List.getD_eq_getElem?_getD, List.getElem?_eq_none beyond]
      rfl
    rw [none, World.sprite, World.addClone, List.getD_eq_getElem?_getD, List.getElem?_append_right beyond]
    cases j - w.sprites.length <;> rfl

/-- What blocks ask for binds nothing, but for the calls of custom blocks. -/
theorem World.BoundBy.asked (p : Player) (me : Nat) (h : w0.BoundBy T w)
    (asked : r.Ordinary ∨ Request.Asked me r ∨ r = .tick) (single : r.Single) :
    w0.BoundBy T ((r.perform p).play w).2 := by
  rcases asked with ordinary | asked
  · have alters := ordinary.alters p w
    generalize ((r.perform p).play w).2 = w' at alters ⊢
    have goes : w.Goes False w' := alters.goes
    cases alters with
    | note _ _ => exact h.goes goes (fun _ => rfl) rfl
    | give i v _ _ _ => exact h.goes goes (fun j => w.arguments_updateSprite i j fun _ => rfl) rfl
    | storeVariable holder _ _ | storeList holder _ _ =>
      cases holder with
      | kit _ => exact h.goes goes (fun _ => rfl) rfl
      | own i => exact h.goes goes (fun j => w.arguments_updateSprite i j fun s => by split <;> rfl) rfl
  · have runtime : r.Runtime := by
      cases r <;> simp_all [Request.Asked, Request.Runtime, Request.Single]
    have manages := runtime.manages p w
    generalize ((r.perform p).play w).2 = w' at manages ⊢
    have goes : w.Goes False w' := manages.goes
    cases manages with
    | goOn _ _ => exact h.goes goes (fun _ => rfl) rfl
    | clone i => exact h.goes goes (w.arguments_addClone i) rfl
    | delete i =>
      exact h.goes goes (fun j => w.arguments_updateSprite i j fun s => by
        unfold World.deleteClone; split <;> rfl) rfl
    | bind _ _ _ _ => simp [Request.Asked] at asked

theorem World.Orderly.upkeep_binds (orderly : w0.Orderly False) (T : Nat → Prop) :
    World.Upkeep (fun _ => True) (w0.BoundBy T) where
  orderly h := by
    obtain ⟨notes, binds, -⟩ := h
    exact binds.course.orderly orderly
  hosts _ _ _ _ := trivial
  rests h h' := h.goes h'.goes h'.arguments h'.current
  binds h := h.bind
  acts {p} hp {op} call me flag _ := by
    have within : (op.act me flag).Within (fun _ => True) (fun r => Request.Asked me r ∨ r = .tick)
        fun _ => True := Opcode.within_act (fun _ => .inl) call fun _ _ _ => .inr rfl
    refine fun w hw => (within.always (fun _ _ => trivial) (fun r a h => ?_) (fun r asked => ?_) w hw).1
    · cases r <;> simp_all [Request.Asked, Request.Admits]
    · cases r with
      | run i flag => exact hp.run i flag true
      | attempt _ _ _ | invoke _ _ _ => simp [Request.Asked, Request.Ordinary] at asked
      | _ => exact fun w hw => hw.asked p me asked trivial
  assigns p me id v := by
    refine (Data.sends_assign (P := Request.Ordinary) trivial (fun _ _ _ => trivial) id v).always
      (fun r h a => ?_) fun r h w hw => hw.asked p me (.inl h) ?_
    all_goals cases r <;> trivial

/-- All that sessions do to an orderly world is noted. -/
theorem Session.Reaches.binds (orderly : w0.Orderly False) (h : Session.Reaches w0 w) :
    ∃ notes, w0.Binds notes w := by
  have keeps := orderly.upkeep_binds fun _ => True
  suffices bound : w0.BoundBy (fun _ => True) w by
    obtain ⟨notes, binds, -⟩ := bound
    exact ⟨notes, binds⟩
  have go : ∀ {w w' : World}, w0.BoundBy (fun _ => True) w → w.Aside w' →
      w0.BoundBy (fun _ => True) w' := by
    rintro w w' ⟨notes, binds, -⟩ aside
    exact ⟨notes, binds.goes (.aside aside) fun i => by rw [World.sprite, aside.sprites]; rfl,
      fun _ _ => trivial, trivial⟩
  induction h with
  | refl => exact ⟨[], .refl, by simp, trivial⟩
  | tail _ passes ih =>
    cases passes with
    | does does =>
      exact (keeps.upholds (fun h onward => go h onward.toAside) fun h => go h (.finish _)).does ih does
    | within depth me flag next => exact (keeps.minds_player depth).run me flag next _ ih
    | cleared =>
      obtain ⟨notes, binds, -⟩ := ih
      exact ⟨notes, binds.rest (.cleared _) fun _ => rfl, fun _ _ => trivial, trivial⟩

end

/-- What scripts other than one have bound is as it was, and all that was bound meanwhile is of that one. -/
def World.BindsFor (thread : Nat) (w w' : World) : Prop :=
  (∃ new, w.Binds new w' ∧ ∀ n ∈ new, n.2.thread = thread) ∧
    ∀ i other, other ≠ thread → (w'.sprite i).arguments.filter (·.thread = other) =
      (w.sprite i).arguments.filter (·.thread = other)

theorem World.Binds.bindsFor {notes : List (Nat × Binding)} {thread : Nat} (h : w.Binds notes w')
    (own : ∀ n ∈ notes, n.2.thread = thread) : w.BindsFor thread w' :=
  ⟨⟨notes, h, own⟩, fun i _ other => h.others (fun n mem same => other (same.symm.trans (own n mem))) i⟩

theorem World.Orderly.binds_run (orderly : w.Orderly False) (depth me : Nat) (flag : Value) (next : Bool) :
    w.BindsFor w.current (((player depth).run me flag next).play w).2 := by
  obtain ⟨new, bound, own, -⟩ := ((orderly.upkeep_binds (· = w.current)).minds_player depth).run me flag next
    w ⟨[], .refl, nofun, rfl⟩
  exact bound.bindsFor own

theorem World.Orderly.binds_thread (orderly : w.Orderly False) (t : Thread) :
    w.BindsFor t.id (runThread t w) := by
  have runs : (runBlock t.sprite t.flag).Always (w.BoundBy (· = t.id)) :=
    .bind .get fun _ => ((orderly.upkeep_binds (· = t.id)).minds_player _).run t.sprite t.flag true
  obtain ⟨new, bound, own, -⟩ := runs (w.refuel t.id)
    ⟨[], Binds.refl.goes (.aside (.refuel w t.id)) fun _ => rfl, nofun, rfl⟩
  suffices after : w.Binds new (runThread t w) from after.bindsFor own
  unfold runThread
  rcases ran : (runBlock t.sprite t.flag).run.run (w.refuel t.id) with ⟨(_ | _ | _) | _, w'⟩ <;>
    rw [Run.play, ran] at bound <;>
    exact bound.goes (.aside (.of_log ⟨rfl, rfl, rfl, rfl, rfl⟩ rfl rfl id rfl)) fun _ => rfl

/-! ## Reading -/

/-- All sprites have their own tables. -/
theorem Session.Course.keyed (h : Session.Course False w w')
    (keyed : ∀ i < w.sprites.length, Table.get? (w.sprite i).fields Sprite.argumentsKey = some .shared) :
    ∀ i < w'.sprites.length, Table.get? (w'.sprite i).fields Sprite.argumentsKey = some .shared := by
  induction h with
  | refl => exact keyed
  | @tail w' w'' _ change ih =>
    cases change with
    | cleared => exact ih
    | goes goes =>
      intro i there
      by_cases old : i < w'.sprites.length
      · exact goes.shared (.tail _ (.head _)) (ih i old)
      cases goes with
      | clone j =>
        obtain rfl : i = w'.sprites.length := by
          simp only [addClone, List.length_append, List.length_singleton] at there
          omega
        rw [w'.sprite_addClone]
        exact (Table.get?_put_of_ne _ _ (by decide)).trans (Table.get?_put_self _ _ _)
      | aside h => exact absurd (h.sprites ▸ there) old
      | turn i _ => exact absurd (by simpa [World.updateSprite] using there) old
      | enter _ _ _ | data _ _ _ _ | write _ _ _ => exact absurd there old

theorem Load.Makes.arguments {given : Table Value} {s : Sprite} (makes : Load.Makes given s) :
    s.arguments = [] := by
  obtain ⟨fields, kit, -, rfl | ⟨time, rfl⟩⟩ := makes <;> rfl

/-- A name reads what the script has bound to it last on the sprite, if it has bound it there. -/
theorem World.Binds.argument? {archive : Archive} {host : Host} {notes : List (Nat × Binding)}
    (loads : archive.Loads host w0) (h : w0.Binds notes w) {i : Nat}
    (there : i < w.sprites.length) (thread : Nat) (x : String) :
    (w.sprite i).argument? thread (.text x) =
      match Binding.latest? notes i thread x with
      | some v => .ok v
      | none => .error .missingKey := by
  have fresh := (Load.fresh_project archive host).sprites
  rw [loads] at fresh
  have keyed := h.course.keyed fun i there => by
    rw [World.sprite, List.getD_eq_getElem?_getD, List.getElem?_eq_getElem there]
    obtain ⟨given, -, makes⟩ := fresh _ (List.getElem_mem there)
    exact makes.tables (.tail _ (.head _))
  have empty : (w0.sprite i).arguments = [] := by
    rcases w0.sprite_mem i with none | mem
    · rw [none]
      rfl
    · obtain ⟨given, -, makes⟩ := fresh _ mem
      exact makes.arguments
  rw [Sprite.argument?_text (keyed i there), h.find?, empty]
  cases Binding.latest? notes i thread x <;> rfl

/-- Whatever has happened before, in whichever order, a script binds parameters for itself alone. A parameter
reads what the script that runs has bound to it last on the sprite, and cannot be read if it never bound it
there; so two courses in which a script binds the same look the same to it. -/
theorem Session.scripts_bind_apart {archive : Archive} {host : Host}
    (loads : archive.Loads host w0)
    (distinct : ∀ s ∈ w0.sprites, s.fields.keys.Nodup) (literal : w0.Literal) (named : w0.Named) :
    (∀ w, Reaches w0 w → ∃ notes, w0.Binds notes w) ∧ ∀ notes w, w0.Binds notes w →
      (∀ t, w.BindsFor t.id (runThread t w)) ∧
      (∀ depth me flag next, w.BindsFor w.current (((player depth).run me flag next).play w).2) ∧
      (∀ i < w.sprites.length, ∀ thread x, (w.sprite i).argument? thread (.text x) =
        match Binding.latest? notes i thread x with
        | some v => .ok v
        | none => .error .missingKey) ∧
      (∀ p me a x, w.Asks me a x → ((runWith p me a false).play w).1 =
        .ok ((Binding.latest? notes me w.current x).getD .null)) ∧
      ∀ notes' w', w0.Binds notes' w' → ∀ i thread,
        notes.filter (fun n => n.1 = i && n.2.thread = thread) =
          notes'.filter (fun n => n.1 = i && n.2.thread = thread) →
        i < w.sprites.length → i < w'.sprites.length → ∀ x,
          (w.sprite i).argument? thread (.text x) = (w'.sprite i).argument? thread (.text x) := by
  have orderly : w0.Orderly False := Load.orderly_project loads distinct literal fun _ => named
  refine ⟨fun w reaches => reaches.binds orderly, fun notes w binds => ?_⟩
  have orderly' := binds.course.orderly orderly
  refine ⟨orderly'.binds_thread, orderly'.binds_run, fun i there => binds.argument? loads there, ?_, ?_⟩
  · intro p me a x asks
    obtain ⟨name, b, meets, -⟩ := asks.met
    obtain ⟨shared, -⟩ := orderly'.block?_eq meets.found
    rw [runWith_argument p asks, binds.argument? loads (lt_of_attribute shared)]
    cases Binding.latest? notes me w.current x <;> rfl
  · intro notes' w' binds' i thread same there there' x
    rw [binds.argument? loads there, binds'.argument? loads there', Binding.latest?_own, same,
      ← Binding.latest?_own]

/-- Two scripts that call the same custom block have each bound its parameter, and whichever of them is run
again leaves what the other has bound. -/
theorem Session.scripts_bind_apart_shortLived : let w0 := (Archive.ofBlocks shortLived).world
    let w := runThread ⟨2, 0, .text "c"⟩ (runThread ⟨1, 0, .text "c"⟩ w0)
    ((∀ s ∈ w0.sprites, s.fields.keys.Nodup) ∧ w0.Literal ∧ w0.Named) ∧
      (w.sprite 0).arguments.map Binding.thread = [1, 2] ∧
      ∀ flag, ((runThread ⟨1, 0, flag⟩ w).sprite 0).arguments.filter (·.thread = 2) =
        (w.sprite 0).arguments.filter (·.thread = 2) := by
  intro w0 w
  have loads : (Archive.ofBlocks shortLived).Loads {} w0 :=
    Prod.ext rfl rfl
  have distinct := (Session.peopled_project loads fun _ => ordinary_ofBlocks).2
  obtain ⟨noted, apart⟩ := scripts_bind_apart loads distinct shortLived_literal shortLived_named
  obtain ⟨notes, binds⟩ := noted w (.tail (.single (.does (.threaded _))) (.does (.threaded _)))
  refine ⟨⟨distinct, shortLived_literal, shortLived_named⟩, by decide +kernel, fun flag => ?_⟩
  exact ((apart notes w binds).1 ⟨1, 0, flag⟩).2 0 2 (show 2 ≠ 1 by decide)

/-- A text of a project that is evaluated can take away what all scripts of the sprite have bound. -/
theorem Session.evaluated_text_unbinds :
    let w0 := (Archive.ofBlocks (customBlock "[self.argument_dict.clear() or \"n\"]")).world
    let w := runThread ⟨1, 0, .text "c"⟩ w0
    (w.sprite 0).arguments.map Binding.thread = [1] ∧
      ((runThread ⟨2, 0, .text "c"⟩ w).sprite 0).arguments.map Binding.thread = [2] := by
  decide +kernel

end BlockStage
