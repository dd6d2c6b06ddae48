import BlockStage.Proofs.Clone.Life
import BlockStage.Proofs.Stage.WhenDone

/-!
# Scripts of a clone that is deleted

One script of a clone may delete the clone before another is started. That one is started nevertheless: its
first block is run, and none after it (`World.Orderly.run_deleted`). A script that clones begin with enters
two blocks, since the one on top runs what is below it.
-/

namespace BlockStage

open Run

variable {w w' : World} {me : Nat} {flag : Value}

/-! ## What changes leave to a sprite -/

/-- A sprite keeps its tables, unless they can be taken away. -/
theorem Sprite.Turns.tables {s s' : Sprite} (h : s.Turns False s') {key : String}
    (hkey : key ∈ Expression.Site.tableKeys) : Table.get? s'.fields key = Table.get? s.fields key := by
  cases h with
  | same | rebind _ => rfl
  | give k v changing =>
    exact Table.get?_put_of_ne _ _ ((by decide : ∀ k ∈ changingKeys, ∀ key ∈ Expression.Site.tableKeys,
      k ≠ key) k changing key hkey)
  | paint image rect =>
    have other := (by decide : ∀ key ∈ Expression.Site.tableKeys, "image" ≠ key ∧ "rect" ≠ key) key hkey
    exact (Table.get?_put_of_ne _ _ other.2).trans (Table.get?_put_of_ne _ _ other.1)
  | delete clone =>
    exact Table.get?_put_of_ne _ _
      ((by decide : ∀ key ∈ Expression.Site.tableKeys, CloneMode.key ≠ key) key hkey)
  | drop never => exact never.elim
  | bare never => exact never.elim

namespace World

theorem Goes.shared (h : w.Goes False w') {key : String} (hkey : key ∈ Expression.Site.tableKeys)
    (has : Table.get? (w.sprite me).fields key = some .shared) :
    Table.get? (w'.sprite me).fields key = some .shared := by
  cases h with
  | aside h => rw [sprite, h.sprites]; exact has
  | @turn i f turns =>
    rcases w.sprite_updateSprite i me f with same | same <;> rw [same]
    · exact has
    · exact ((turns _).tables hkey).trans has
  | clone i => rw [w.sprite_addClone_of_lt i (lt_of_attribute has)]; exact has
  | enter _ _ _ | data _ _ _ _ | write _ _ _ => exact has

theorem Path.shared (h : w.Path False w') (has : Table.get? (w.sprite me).fields "blocks" = some .shared) :
    Table.get? (w'.sprite me).fields "blocks" = some .shared := by
  induction h with
  | refl => exact has
  | tail _ goes ih => exact goes.shared (.head _) ih

theorem Path.deleted (h : w.Path False w') (deleted : w.HasMode me .deleted) : w'.HasMode me .deleted :=
  (Session.Course.of_path h).ages.deleted me deleted

theorem Orderly.finds (orderly : w.Orderly False) (path : w.Path False w') {b : Block}
    (hb : w.block? me flag = .ok b) : ∃ b', w'.block? me flag = .ok b' := by
  obtain ⟨has, -, id, rfl, found⟩ := orderly.block?_eq hb
  have kit : (w'.sprite me).kit = (w.sprite me).kit := path.later.kits me (lt_of_attribute has)
  have outline : Table.get? (outlineOf (w'.kit (w.sprite me).kit).blocks) id = some b.outline := by
    rw [path.outlines, outlineOf, Table.get?_map, found]
    rfl
  rw [outlineOf, Table.get?_map] at outline
  obtain ⟨b', found', -⟩ := Option.map_eq_some_iff.1 outline
  refine ⟨b', block?_of_get? (t := (w'.kit (w.sprite me).kit).blocks) ?_ found'⟩
  rw [blocks?, Sprite.get?, path.shared has, kit]
  rfl

end World

/-! ## Scripts of a deleted clone -/

/-- Where there is no block to enter, it does not matter whether the script is to go on. -/
theorem runWith_same (p : Player) (none : ∀ name b opcode, w.Meets me flag name b →
    b.opcode? ≠ .ok (.text opcode)) (next : Bool) :
    (runWith p me flag next).play w = (runWith p me flag false).play w := by
  by_cases idle : w.done = true ∨ flag.isNull = true
  · rw [runWith_idle p me next idle, runWith_idle p me false idle]
  obtain ⟨running, hnull⟩ := not_idle idle
  have awake : ¬ (w.done || flag.isNull) = true := by simp [running, hnull]
  have given : ∀ {α : Type} {e : Except Fault α} {a : α} {w' : World},
      (liftM e : Run α).play w = (.ok a, w') → e = .ok a ∧ w' = w := by
    intro α e a w' h
    cases e <;> cases h
    exact ⟨rfl, rfl⟩
  unfold runWith
  rw [play_get_bind, play_get_bind, if_neg awake, if_neg awake]
  refine play_bind_congr rfl fun v _ read => ?_
  obtain ⟨hv, rfl⟩ := given read
  refine play_bind_congr rfl fun name _ read => ?_
  obtain ⟨hname, rfl⟩ := given read
  refine play_bind_congr rfl fun b _ read => ?_
  obtain ⟨hb, rfl⟩ := given read
  refine play_bind_congr rfl fun opcode _ read => ?_
  obtain ⟨hop, rfl⟩ := given read
  refine play_bind_congr rfl fun shown _ _ => play_bind_congr rfl fun _ _ _ => ?_
  cases opcode with
  | text opcode => exact absurd hop (none name b opcode ⟨running, by rw [hv]; exact hname, hb⟩)
  | _ => rfl

theorem goOn_deleted (p : Player) {b : Block} (result : Value) (hb : w.block? me flag = .ok b)
    (deleted : (w.sprite me).hasMode? .deleted = .ok true) :
    ∃ v, (goOn p me flag result).play w = (.ok v, w) := by
  rw [goOn, play_get_bind, hb, Run.lift_ok_bind]
  dsimp only
  cases hnull : b.next.isNull with
  | true => exact ⟨result, by rw [walk_end _ _ _ hnull]; rfl⟩
  | false => exact ⟨.null, by rw [play_bind_ok (walk_deleted _ hnull deleted)]; rfl⟩

/-- A script of a deleted clone comes to its first block. -/
theorem World.Orderly.run_deleted (orderly : w.Orderly False) (deleted : w.HasMode me .deleted)
    (depth : Nat) (flag : Value) : (do let _ ← (player depth).run me flag true : Run Unit).play w =
      (do let _ ← (player depth).run me flag false : Run Unit).play w := by
  obtain _ | depth := depth
  · rfl
  show (do let _ ← runWith (player depth) me flag true : Run Unit).play w =
    (do let _ ← runWith (player depth) me flag false : Run Unit).play w
  by_cases meets : ∃ name b opcode, w.Meets me flag name b ∧ b.opcode? = .ok (.text opcode)
  · obtain ⟨name, b, opcode, meets, hop⟩ := meets
    have stays : (runWith (player depth) me flag false).Stays (w.Trail False) fun _ => True :=
      unfolds_player (depth + 1) orderly me flag false
    rw [play_bind, runWith_next (player depth) meets hop, ← play_bind, bind_assoc]
    refine play_bind_congr rfl fun v w' alone => ?_
    have path := (stays.always w .refl).path
    rw [alone] at path
    obtain ⟨b', found⟩ := orderly.finds path meets.found
    obtain ⟨v', stops⟩ := goOn_deleted (player depth) v found ((path.deleted deleted).hasMode? .deleted)
    rw [play_bind_ok stops]
  · have same := runWith_same (player depth) (fun name b opcode h hop => meets ⟨name, b, opcode, h, hop⟩) true
    rw [play_bind, same, ← play_bind]

/-! ## The block on top -/

def World.Ready (w : World) (me : Nat) (flag : Value) : Prop :=
  ∃ name b opcode, w.Meets me flag name b ∧ b.opcode? = .ok (.text opcode)

theorem World.Ready.enters (h : w.Ready me flag) {depth : Nat} (deep : w.depth ≤ depth + 1)
    {r : Except Stop Value} (play : ((player (depth + 1)).run me flag false).play w = (r, w')) :
    w.Enters me flag r w' := by
  obtain ⟨name, b, opcode, meets, hop⟩ := h
  refine ⟨⟨depth + 1, deep, play⟩, name, b, opcode, meets.named, meets.found, hop, ?_⟩
  simpa [World.enter] using (meets.entered hop play).1.log

theorem World.Orderly.never_faults (orderly : w.Orderly False) (ready : w.Ready me flag) (depth : Nat)
    (e : Failure) : (((player depth).run me flag false).play w).1 ≠ .error (.fault e) := by
  obtain _ | depth := depth
  · exact nofun
  intro failed
  obtain ⟨name, b, opcode, meets, hop⟩ := ready
  have mild := (unfolds_player (depth + 1) orderly me flag false).mild w .refl
  have play : (runWith (player depth) me flag false).play w = (.error (.fault e), _) := Prod.ext failed rfl
  rw [runWith_play (player depth) false meets hop] at play
  rcases play_bind_eq_error play with entering | ⟨_, w1, -, acting⟩
  · rw [enterBlock_play] at entering
    have ended := congrArg Prod.fst entering
    dsimp only at ended
    split at ended <;> cases ended
  · rcases play_bind_eq_error acting with acted | ⟨_, _, -, never⟩
    · cases actBlock_exit acted
      exact mild failed
    · cases never

/-- The block on top of the scripts that clones begin with runs the one below it on its own. -/
theorem World.Orderly.top_deleted (orderly : w.Orderly False) (deleted : w.HasMode me .deleted)
    {name : String} {b : Block} {below : Value} (meets : w.Meets me flag name b)
    (hop : b.opcode? = .ok (.text "control_start_as_clone"))
    (free : (w.sprite me).hides "control_start_as_clone" = false) (next : b.get? "next" = .ok below)
    (fuel : 0 < w.fuel) (ready : (w.enter name "control_start_as_clone").Ready me below) {depth : Nat}
    (deep : w.depth ≤ depth + 2) : ∃ r, (w.enter name "control_start_as_clone").Enters me below r
      (((player (depth + 2)).run me flag false).play w).2 := by
  have entered : w.Path False (w.enter name "control_start_as_clone") :=
    .single (.enter w meets.running name _)
  have orderly' := entered.orderly orderly
  have shallower : (w.enter name "control_start_as_clone").depth + 2 ≤ w.depth :=
    World.depth_le_of_fuel (show w.fuel - 1 < w.fuel by omega) fuel
  have member : Member.ofName? (w.sprite me) "control_start_as_clone" =
      some (.block (.control .startAsClone)) := Member.ofName?_of_free free (by decide)
  have acts : ((Control.act me flag .startAsClone).perform (player (depth + 1))).play
      (w.enter name "control_start_as_clone") = ((do
        let _ ← (player (depth + 1)).run me below false : Run Unit) >>= fun _ =>
          (return .null : Run Value)).play (w.enter name "control_start_as_clone") := by
    have found : (w.enter name "control_start_as_clone").block? me flag = .ok b := meets.found
    simp only [Control.act, Act.perform_bind, Act.perform_look, Act.perform_lift]
    rw [play_get_bind, found, Run.lift_ok_bind, next, Run.lift_ok_bind, Control.branch_perform,
      play_bind, orderly'.run_deleted (entered.deleted deleted) (depth + 1) below, ← play_bind]
    rfl
  have whole : ((player (depth + 2)).run me flag false).play w =
      (contain flag ((Control.act me flag .startAsClone).perform (player (depth + 1)))).play
        (w.enter name "control_start_as_clone") := by
    show (runWith (player (depth + 1)) me flag false).play w = _
    rw [runWith_enters (player (depth + 1)) meets hop member fuel]
    rfl
  have never := orderly'.never_faults ready (depth + 1)
  rcases alone : ((player (depth + 1)).run me below false).play (w.enter name "control_start_as_clone")
    with ⟨r, w'⟩
  refine ⟨r, ?_⟩
  have same : (((player (depth + 2)).run me flag false).play w).2 = w' := by
    rw [whole, contain_play, acts]
    rw [alone] at never
    rcases r with (f | why | _) | v
    · exact absurd rfl (never f)
    · rw [play_bind_error (play_bind_error alone _)]
    · rw [play_bind_error (play_bind_error alone _)]
    · rw [play_bind_ok (play_bind_ok alone _)]
      rfl
  rw [same]
  exact ready.enters (by omega) alone

/-! ## Scripts that wait -/

/-- What is left of a script that was started depends only on how it has ended. -/
theorem World.endThread_congr {r s : Run Value}
    (h : (do let _ ← r : Run Unit).play w = (do let _ ← s : Run Unit).play w) :
    endThread (r.play w) = endThread (s.play w) := by
  rw [play_bind, play_bind] at h
  rcases hr : r.play w with ⟨e | v, w1⟩ <;> rcases hs : s.play w with ⟨e' | v', w2⟩ <;>
    rw [hr, hs] at h <;> cases h <;> rfl

theorem World.endThread_hasMode {out : Except Stop Value × World} {m : CloneMode}
    (h : out.2.HasMode me m) : (World.endThread out).HasMode me m := by
  unfold World.endThread
  split <;> exact h

namespace Session

/-- A project as in `clones_live_and_end`, whatever has become of it in a session, and a script of a clone that
is deleted by the time the script is started. If the program is not to end, the first block is entered, and
nothing comes after it. If it is the block on top of the scripts that clones begin with, the block below it is
entered too. -/
theorem deleted_runs_top {archive : Archive} {host : Host} {w0 : World}
    (loads : archive.Loads host w0)
    (ordinary : ∀ given, archive.HasTarget (.record given) → Load.IsOrdinary given)
    (literal : w0.Literal) (named : w0.Named) {w : World} (course : Course False w0 w) {t : Thread}
    (deleted : w.HasMode t.sprite .deleted) : let start := w.refuel t.id
    let alone := (runBlock t.sprite t.flag false).play start
    (runThread t w = World.endThread alone ∧ (runThread t w).HasMode t.sprite .deleted) ∧
    (w.done = true ∨ t.flag = .null →
      runThread t w = { w with ticks := w.host.ticks, fuel := w.host.fuel, current := 0 }) ∧
    (start.Ready t.sprite t.flag → start.Enters t.sprite t.flag alone.1 alone.2) ∧
    ∀ name b below, start.Meets t.sprite t.flag name b →
      b.opcode? = .ok (.text "control_start_as_clone") →
      (w.sprite t.sprite).hides "control_start_as_clone" = false → b.get? "next" = .ok below →
      0 < w.host.fuel → (start.enter name "control_start_as_clone").Ready t.sprite below →
        ∃ r, (start.enter name "control_start_as_clone").Enters t.sprite below r alone.2 := by
  obtain ⟨-, distinct⟩ := peopled_project loads ordinary
  have orderly : w.Orderly False :=
    course.orderly (Load.orderly_project loads distinct literal fun _ => named)
  have refueled : w.Path False (w.refuel t.id) := .single (.aside (.refuel w t.id))
  have orderly' := refueled.orderly orderly
  have deleted' : (w.refuel t.id).HasMode t.sprite .deleted := deleted
  have runs : ∀ next, (runBlock t.sprite t.flag next).play (w.refuel t.id) =
      ((player (2 * w.host.fuel.toNat + 2 + 2)).run t.sprite t.flag next).play (w.refuel t.id) := fun next =>
    play_get_bind _
  dsimp only
  have ended : runThread t w =
      World.endThread ((runBlock t.sprite t.flag false).play (w.refuel t.id)) := by
    rw [runThread_eq, runs true, runs false]
    exact World.endThread_congr (orderly'.run_deleted deleted' _ t.flag)
  refine ⟨⟨ended, ?_⟩, fun idle => ?_, fun ready => ?_, ?_⟩
  · have path := (Does.ran t.sprite t.flag false).path orderly'
    rw [ended]
    exact World.endThread_hasMode (path.deleted deleted')
  · exact runThread_idle t (idle.imp_right fun none => by rw [none]; rfl)
  · exact ready.enters (Nat.le_refl _) (runs false).symm
  · intro name b below meets hop free next fuel ready
    rw [runs false]
    exact orderly'.top_deleted deleted' meets hop free next fuel ready (Nat.le_refl _)

end Session

/-! ## A clone with two scripts -/

/-- A block that makes a clone, and two scripts of clones. The first deletes them, the second hides them. -/
def twoScripts : Table Block := [
  ("a", .plain "control_start_as_clone" [] (.text "b")),
  ("b", .plain "control_delete_this_clone" []),
  ("c", .plain "control_start_as_clone" [] (.text "d")),
  ("d", .plain "looks_hide" []),
  ("m", .plain "control_create_clone_of" [])]

theorem twoScripts_literal : (Archive.ofBlocks twoScripts).world.Literal :=
  (World.named_of_bare (by decide +kernel)).1

theorem twoScripts_named : (Archive.ofBlocks twoScripts).world.Named :=
  (World.named_of_bare (by decide +kernel)).2

/-- The world once the first script of the clone is over. The second still waits. -/
def twoScriptsLater : World := drain 1 ((runBlock 0 (.text "m")).play (Archive.ofBlocks twoScripts).world).2

/-- The second script of the clone enters the block below the one on top. -/
theorem deleted_runs_top_twoScripts : let archive := Archive.ofBlocks twoScripts
    let w := twoScriptsLater
    let t : Thread := ⟨2, 1, .text "c"⟩
    let alone := (runBlock 1 (.text "c") false).play (w.refuel 2)
    ((∀ given, archive.HasTarget (.record given) → Load.IsOrdinary given) ∧ archive.world.Literal ∧
      archive.world.Named ∧ Session.Course False archive.world w ∧ w.HasMode 1 .deleted) ∧
    runThread t w = World.endThread alone ∧ (runThread t w).HasMode 1 .deleted ∧
      ∃ r, ((w.refuel 2).enter "Cat" "control_start_as_clone").Enters 1 (.text "d") r alone.2 := by
  intro archive w t alone
  have loads : archive.Loads {} archive.world := Prod.ext rfl rfl
  obtain ⟨peopled, distinct⟩ := Session.peopled_project loads fun _ => ordinary_ofBlocks
  have orderly : archive.world.Orderly False :=
    Load.orderly_project loads distinct twoScripts_literal fun _ => twoScripts_named
  have course : Session.Course False archive.world w := by
    have ran := (Session.Does.ran 0 (.text "m") true).path orderly
    exact .of_path (ran.trans ((Session.Does.drained 1).path (ran.orderly orderly)))
  have clones : w.clones = [1] := by decide +kernel
  have deleted : w.HasMode 1 .deleted :=
    .deleted_of ((course.peopled peopled).clones 1 (clones ▸ .head _)) (by decide +kernel)
  obtain ⟨⟨ended, stays⟩, -, -, below⟩ := Session.deleted_runs_top loads (fun _ => ordinary_ofBlocks)
    twoScripts_literal twoScripts_named course (t := t) deleted
  refine ⟨⟨fun _ => ordinary_ofBlocks, twoScripts_literal, twoScripts_named, course, deleted⟩, ended, stays, ?_⟩
  have meets : ((w.refuel 2).enter "Cat" "control_start_as_clone").Ready 1 (.text "d") :=
    ⟨"Cat", _, "looks_hide", ⟨by decide +kernel, rfl, rfl⟩, rfl⟩
  exact below "Cat" _ (.text "d") ⟨by decide +kernel, rfl, rfl⟩ rfl rfl rfl (by decide +kernel) meets

/-- The clone is deleted, and the script that waits enters two blocks. -/
theorem deleted_enters_two :
    (twoScriptsLater.sprite 1).hasMode? .deleted = .ok true ∧ twoScriptsLater.queue.length = 1 ∧
      twoScriptsLater.log.toList.getLast? = some (.entered "Cat" "control_delete_this_clone") ∧
      (drain 1 twoScriptsLater).log.toList = twoScriptsLater.log.toList ++
        [.entered "Cat" "control_start_as_clone", .entered "Cat" "looks_hide"] := by
  decide +kernel

end BlockStage
