import BlockStage.Proofs.Script.Quiet

/-!
# The scripts of a clone

A clone gets a script for every block that starts one. Such a block runs the script below it when it acts,
and then the script is gone through once more. So a clone runs each of its scripts twice:
`drain_createClone`.
-/

namespace BlockStage

open Run

variable {id name : String} {w : World} {me : Nat} {t : Table Block} {script : List Statement} {b : Block}

/-! ## Scripts that wait -/

/-- The world once a script that was started is over. -/
def World.endThread (out : Except Stop Value × World) : World :=
  match out.1 with
  | .ok _ | .error .endless => { out.2 with current := 0 }
  | .error (.killed why) => { out.2 with calls := out.2.calls.push (.killed why), current := 0 }
  | .error (.fault f) => { out.2 with calls := out.2.calls.push (.died f), current := 0 }

theorem runThread_eq (t : Thread) (w : World) :
    runThread t w = World.endThread ((runBlock t.sprite t.flag).play (w.refuel t.id)) := by
  show runThread t w = World.endThread ((runBlock t.sprite t.flag).run.run (w.refuel t.id))
  unfold runThread
  rcases (runBlock t.sprite t.flag).run.run (w.refuel t.id) with ⟨(_ | _ | _) | _, w'⟩ <;> rfl

/-- Runs scripts one after another, given what each of them does. -/
def drainBy (run : Thread → Run Value) : List Thread → World → World
  | [], w => w
  | t :: rest, w =>
    drainBy run rest (World.endThread ((run t).play ({ w with queue := rest }.refuel t.id)))

/-- Scripts that wait are run one after another, if they start no others and keep what they rely on. -/
theorem drain_eq_drainBy {J : World → Prop} {run : Thread → Run Value} {ts : List Thread}
    (limits : ∀ w q i, J w → J ({ w with queue := q }.refuel i))
    (ends : ∀ out, J out.2 → J (World.endThread out))
    (runs : ∀ t ∈ ts, ∀ w, J w → (runBlock t.sprite t.flag).play w = (run t).play w ∧
      J ((run t).play w).2 ∧ ((run t).play w).2.queue = w.queue)
    {n : Nat} (enough : ts.length ≤ n) (hw : J w) (waiting : w.queue = ts) :
    drain n w = drainBy run ts w := by
  induction ts generalizing n w with
  | nil =>
    cases n with
    | zero => rfl
    | succ n => rw [drain, waiting, drainBy]
  | cons t rest ih =>
    obtain ⟨n, rfl⟩ : ∃ m, n = m + 1 := ⟨n - 1, by rw [List.length_cons] at enough; omega⟩
    obtain ⟨same, kept, queue⟩ := runs t (.head _) _ (limits w rest t.id hw)
    have left : (World.endThread ((run t).play ({ w with queue := rest }.refuel t.id))).queue =
        rest := by
      rw [World.endThread]
      split <;> exact queue
    rw [drain, waiting, drainBy]
    simp only [runThread_eq, same]
    refine ih (fun t' mem => runs t' (.tail _ mem)) ?_ (ends _ kept) left
    rw [List.length_cons] at enough
    omega

/-! ## The block on top of a script -/

/-- What a script comes to that stands under the block on top of a clone's scripts. -/
def runTwice (me : Nat) (name : String) (script : List Statement) : Run Value := do
  enterBlock name "control_start_as_clone"
  execAll me name script
  execAll me name script
  return .null

/-- A table holds a script for clones: the block on top of it, and the blocks below. -/
def CloneScript (t : Table Block) (id : String) (script : List Statement) : Prop :=
  ∃ b first, Table.get? t id = some b ∧ b.opcode? = .ok (.text "control_start_as_clone") ∧
    b.get? "next" = .ok first ∧ ScriptIn t script first

theorem Block.next_of_get? {v : Value} (h : b.get? "next" = .ok v) : b.next = v := by
  rw [Block.get?, Value.field?] at h
  rw [Block.next]
  split at h <;> simp_all

section

variable {w0 : World} {me depth : Nat} {name : String} {t : Table Block}

/-- When the block on top acts, it runs the script below it. -/
theorem startAsClone_agree (plays : w0.Plays me name t) {first : Value}
    (hb : Table.get? t id = some b) (next : b.get? "next" = .ok first)
    (written : ScriptIn t script first) :
    Agree (w0.Held me depth) ((Control.act me (.text id) .startAsClone).perform (player depth))
      (do
        execAll me name script
        return .null) := by
  have body := runs_body plays (allAgree script) written depth
  refine .of_play (fun w hw => ?_) (body.bind fun _ => Agree.refl (.pure trivial))
  simp only [Control.act, Act.perform_bind, Act.perform_look]
  rw [play_get_bind, (plays.meets hw hb).found]
  simp only [Act.perform_lift, lift_ok_bind, next, Control.branch_perform]
  rfl

/-- The script is run when the block on top acts, and once more after it. -/
theorem hat_agree (plays : w0.Plays me name t)
    (free : (w0.sprite me).hides "control_start_as_clone" = false) (written : CloneScript t id script) :
    Agree (w0.Held me depth) ((player depth).run me (.text id) true)
      (do
        enterBlock name "control_start_as_clone"
        let result ← contain (.text id) (do
          execAll me name script
          return .null)
        execAll me name script
        return result) := by
  obtain ⟨b, first, hb, hop, next, inside⟩ := written
  obtain _ | depth := depth
  · exact .zero
  have acts : Agree (w0.Held me depth)
      (actBlock (player depth) me (.text id) "control_start_as_clone")
      (contain (.text id) (do
        execAll me name script
        return .null)) := by
    refine .of_play (fun w hw => ?_) (startAsClone_agree plays hb next inside).contain
    have free : (w.sprite me).hides "control_start_as_clone" = false := by
      rw [hw.1.hides (by decide), free]
    exact Control.actBlock_play _ free (by decide) rfl
  have onward := goOn_agree plays (allAgree script) hb (Block.next_of_get? next ▸ inside) depth
  refine .of_play (fun w hw => ?_) ((acts.bind onward).enter name "control_start_as_clone")
  exact runWith_play (player depth) true (plays.meets hw hb) hop

end

/-- A script for clones is run twice, one block after the other. -/
theorem runBlock_cloneScript (plays : w.Plays me name t)
    (free : (w.sprite me).hides "control_start_as_clone" = false) (written : CloneScript t id script) :
    (runBlock me (.text id)).play w = (runTwice me name script).play w := by
  have agree : Agree (w.Held me w.depth) _ _ := hat_agree plays free written
  obtain ⟨b, first, -, -, -, inside⟩ := written
  rw [runBlock, play_get_bind, agree.same w ⟨.refl me w, by unfold World.depth; omega⟩]
  refine play_bind_congr rfl fun _ w1 entered => ?_
  -- nothing is there to be contained, since a script meets no fault
  have quiet : w.Quiet me w1 := by
    have enters : Stays (w.Quiet me) _ _ := .enterBlock name "control_start_as_clone"
    have stays := enters.always w (.refl me w)
    rw [entered] at stays
    exact stays
  have contained : (contain (.text id) (do
      execAll me name script
      return .null)).play w1 = (do
      execAll me name script
      return .null : Run Value).play w1 := by
    rw [contain_play, play_bind]
    rcases ran : (execAll me name script).play w1 with ⟨(f | _ | _) | _, w2⟩
    · exact absurd ran (execAll_never_faults plays inside quiet f)
    all_goals rfl
  rw [play_bind, contained, ← play_bind]
  simp only [bind_assoc, pure_bind]

/-! ## Making a clone -/

/-- The blocks that start scripts of clones, in the order of the table. -/
def cloneHats (t : Table Block) : List String :=
  (t.filter fun p => p.2.hasOpcode "control_start_as_clone").map Prod.fst

def World.startAll (w : World) (i : Nat) (flags : List String) : World :=
  flags.foldl (fun w flag => w.start i (.text flag)) w

theorem Block.hasOpcode_of_opcode? {v : Value} (h : b.opcode? = .ok v) (opcode : String) :
    b.hasOpcode opcode = v.isText opcode := by
  rw [Block.opcode?, Block.get?, Value.field?] at h
  rw [Block.hasOpcode]
  split at h <;> simp_all

theorem startScripts_play (p : Player) {clone : Nat} {t : List (String × Block)}
    (coded : ∀ q ∈ t, ∃ v, q.2.opcode? = .ok v) (titled : (w.sprite clone).title? = .ok name) :
    ((Control.startScripts clone t).perform p).play w =
      (.ok (), w.startAll clone (cloneHats t)) := by
  induction t generalizing w with
  | nil => rfl
  | cons q rest ih =>
    obtain ⟨flag, b⟩ := q
    obtain ⟨v, hv⟩ := coded (flag, b) (.head _)
    have later := fun q mem => coded q (.tail _ mem)
    have hat := Block.hasOpcode_of_opcode? hv "control_start_as_clone"
    rw [Control.startScripts, hv, Act.lift_ok_bind]
    cases starts : v.isText "control_start_as_clone" with
    | false =>
      have skipped : cloneHats ((flag, b) :: rest) = cloneHats rest := by
        simp [cloneHats, hat, starts]
      rw [skipped]
      exact ih later titled
    | true =>
      have started : cloneHats ((flag, b) :: rest) = flag :: cloneHats rest := by
        simp [cloneHats, hat, starts]
      rw [started]
      rw [if_pos rfl, Act.play_look_bind, titled]
      exact ih later (w := w.start clone (.text flag)) titled

/-- A sprite that can be cloned, and whose clones can run their scripts. -/
structure World.Clonable (w : World) (me : Nat) (name : String) (t : Table Block) : Prop where
  running : w.done = false
  titled : (w.sprite me).title? = .ok name
  blocks : w.blocks? me = .ok t
  coded : ∀ q ∈ t, ∃ v, q.2.opcode? = .ok v
  free : ∀ key ∈ ["copy", "control_start_as_clone", "control_repeat", "control_if"],
    (w.sprite me).hides key = false

/-- A sprite that can be copied, and each of whose blocks has an opcode. -/
structure World.Copyable (w : World) (me : Nat) (name : String) (t : Table Block) : Prop where
  titled : (w.sprite me).title? = .ok name
  blocks : w.blocks? me = .ok t
  coded : ∀ q ∈ t, ∃ v, q.2.opcode? = .ok v
  able : (w.sprite me).hides "copy" = false

theorem World.Clonable.copyable (h : w.Clonable me name t) : w.Copyable me name t :=
  ⟨h.titled, h.blocks, h.coded, h.free _ (by simp)⟩

/-- The attributes in which a clone differs from its sprite. -/
def cloneKeys : List String := [Sprite.wordsKey, Sprite.argumentsKey, CloneMode.key]

theorem World.get?_addClone (w : World) (me : Nat) {key : String} (h : key ∉ cloneKeys) :
    Table.get? ((w.addClone me).sprite w.sprites.length).fields key =
      Table.get? (w.sprite me).fields key := by
  simp only [cloneKeys, List.mem_cons, List.not_mem_nil, or_false, not_or] at h
  obtain ⟨words, arguments, mode⟩ := h
  rw [World.sprite_addClone]
  show Table.get? (Table.put (Table.put (Table.put _ _ _) _ _) _ _) key = _
  rw [Table.get?_put_of_ne _ _ (Ne.symm mode), Table.get?_put_of_ne _ _ (Ne.symm arguments),
    Table.get?_put_of_ne _ _ (Ne.symm words)]

theorem World.blocks?_addClone (w : World) (me : Nat) :
    (w.addClone me).blocks? w.sprites.length = w.blocks? me := by
  have kit : ((w.addClone me).sprite w.sprites.length).kit = (w.sprite me).kit := by
    rw [World.sprite_addClone]
    rfl
  rw [World.blocks?, World.blocks?, Sprite.get?, Sprite.get?, w.get?_addClone me (by decide), kit]
  rfl

theorem World.title?_addClone (w : World) (me : Nat) :
    ((w.addClone me).sprite w.sprites.length).title? = (w.sprite me).title? := by
  rw [Sprite.title?, Sprite.title?, Sprite.name?, Sprite.name?, Sprite.get?, Sprite.get?,
    w.get?_addClone me (by decide)]

theorem World.hides_addClone (w : World) (me : Nat) {key : String} (h : key ∉ cloneKeys) :
    ((w.addClone me).sprite w.sprites.length).hides key = (w.sprite me).hides key := by
  rw [Sprite.hides, Sprite.hides, Table.has, Table.has, w.get?_addClone me h]

theorem Sprite.displayed_of_title? {s : Sprite} (h : s.title? = .ok name) :
    s.name?.bind Value.display? = .ok name := by
  rw [Sprite.title?] at h
  rcases hn : s.name? with f | v
  · rw [hn] at h
    cases h
  · rw [hn] at h
    cases v <;> cases h
    rfl

theorem World.Clonable.plays
    (h : w.Clonable me name t) : (w.addClone me).Plays w.sprites.length name t where
  running := h.running
  named := Sprite.displayed_of_title? ((w.title?_addClone me).trans h.titled)
  blocks := (w.blocks?_addClone me).trans h.blocks
  alive := by
    rw [Sprite.hasMode?, Sprite.get?, World.sprite_addClone, Sprite.put, Table.get?_put_self]
    rfl
  loops := (w.hides_addClone me (by decide)).trans (h.free _ (by simp))
  conditions := (w.hides_addClone me (by decide)).trans (h.free _ (by simp))

/-- Once its arguments are taken, the block that makes a clone adds it, and starts its scripts. -/
theorem createClone_play (p : Player) {w1 : World} {flag : Value} {args : Arguments}
    (taken : ((Arguments.eval me flag).perform p).play w = (.ok args, w1))
    (copyable : w1.Copyable me name t) : ((Control.act me flag .createClone).perform p).play w =
      (.ok .null, (w1.addClone me).startAll w1.sprites.length (cloneHats t)) := by
  have titled := (w1.title?_addClone me).trans copyable.titled
  rw [Control.act, Act.play_bind_ok taken, Act.play_look_bind, Sprite.can?_of_free copyable.able, Act.lift_ok_bind]
  show ((Act.look >>= fun w => liftM (w.blocks? w1.sprites.length) >>= fun blocks =>
      Control.startScripts w1.sprites.length blocks >>= fun _ => pure Value.null).perform p).play
    (w1.addClone me) = _
  rw [Act.play_look_bind, w1.blocks?_addClone,
    copyable.blocks, Act.lift_ok_bind, Act.play_bind_ok (startScripts_play p copyable.coded titled)]
  rfl

theorem runBlock_createClone {w1 : World} {m : String}
    {args : Arguments} (meets : w.Meets me (.text m) name b) (alive : 0 < w.fuel)
    (hop : b.opcode? = .ok (.text "control_create_clone_of"))
    (free : (w.sprite me).hides "control_create_clone_of" = false)
    (taken : ((Arguments.eval me (.text m)).perform (player (2 * w.fuel.toNat + 3))).play
      (w.enter name "control_create_clone_of") = (.ok args, w1))
    (copyable : w1.Copyable me name t) :
    (runBlock me (.text m) false).play w =
      (.ok .null, (w1.addClone me).startAll w1.sprites.length (cloneHats t)) := by
  have member : Member.ofName? (w.sprite me) "control_create_clone_of" =
      some (.block (.control .createClone)) := Member.ofName?_of_free free (by decide)
  have acts : ((Opcode.act me (.text m) (.control .createClone)).perform
      (player (2 * w.fuel.toNat + 3))).play (w.enter name "control_create_clone_of") = _ :=
    createClone_play _ taken copyable
  rw [runBlock_play, runWith_enters _ meets hop member alive, contain_play, acts]

/-! ## Making a clone and letting its scripts run -/

theorem World.startAll_eq (w : World) (i : Nat) (flags : List String) :
    ∃ ts : List Thread, w.startAll i flags =
        { w with queue := w.queue ++ ts, threads := w.threads + flags.length } ∧
      ts.map (fun t => (t.sprite, t.flag)) = flags.map fun flag => (i, .text flag) := by
  induction flags generalizing w with
  | nil => exact ⟨[], by simp [World.startAll], rfl⟩
  | cons flag rest ih =>
    obtain ⟨ts, started, each⟩ := ih (w.start i (.text flag))
    refine ⟨⟨w.threads + 1, i, .text flag⟩ :: ts, ?_, by simp [each]⟩
    rw [World.startAll, List.foldl_cons]
    refine started.trans ?_
    simp only [World.start, List.append_assoc, List.singleton_append, List.length_cons]
    rw [Nat.add_assoc, Nat.add_comm 1]

def World.Hosts (me : Nat) (name : String) (t : Table Block) (w : World) : Prop :=
  w.Plays me name t ∧ (w.sprite me).hides "control_start_as_clone" = false

theorem runTwice_stays (plays : w.Plays me name t) (written : CloneScript t id script) :
    (runTwice me name script).Stays (w.Quiet me) fun _ => True := by
  obtain ⟨b, first, -, -, -, inside⟩ := written
  have body := execAll_stays plays script inside
  exact .bind (.enterBlock name _) fun _ _ => .bind body fun _ _ => .bind body fun _ _ => .pure trivial

theorem World.Hosts.runs (h : w.Hosts me name t) (written : CloneScript t id script) :
    (runBlock me (.text id)).play w = (runTwice me name script).play w ∧
      World.Hosts me name t ((runTwice me name script).play w).2 ∧
      ((runTwice me name script).play w).2.queue = w.queue := by
  obtain ⟨kept, queue⟩ := (runTwice_stays h.1 written).always w (.refl me w)
  refine ⟨runBlock_cloneScript h.1 h.2 written, ⟨h.1.kept kept, ?_⟩, queue⟩
  rw [kept.hides (by decide), h.2]

theorem World.Hosts.endThread {out : Except Stop Value × World} (h : out.2.Hosts me name t) :
    (World.endThread out).Hosts me name t := by
  rw [World.endThread]
  split <;> exact ⟨{ h.1 with }, h.2⟩

theorem World.Hosts.startAll
    (h : w.Hosts me name t) (i : Nat) (flags : List String) : (w.startAll i flags).Hosts me name t := by
  induction flags generalizing w with
  | nil => exact h
  | cons flag rest ih =>
    have started : (w.start i (.text flag)).Hosts me name t := ⟨{ h.1 with }, h.2⟩
    exact ih started

/-- Making a clone starts a script for every block that is on top of one, in the order of the table.
When these scripts are run, each of them goes through the blocks below twice. -/
theorem drain_createClone {w w1 : World} {me n : Nat} {m name : String} {b : Block}
    {t : Table Block} {args : Arguments} (scripts : Value → List Statement)
    (meets : w.Meets me (.text m) name b) (alive : 0 < w.fuel)
    (hop : b.opcode? = .ok (.text "control_create_clone_of"))
    (free : (w.sprite me).hides "control_create_clone_of" = false)
    (taken : ((Arguments.eval me (.text m)).perform (player (2 * w.fuel.toNat + 3))).play
      (w.enter name "control_create_clone_of") = (.ok args, w1))
    (clonable : w1.Clonable me name t) (idle : w1.queue = [])
    (hats : ∀ h ∈ cloneHats t, CloneScript t h (scripts (.text h)))
    (enough : (cloneHats t).length ≤ n) :
    let clone := w1.sprites.length
    let w2 := ((runBlock me (.text m) false).play w).2
    w2 = (w1.addClone me).startAll clone (cloneHats t) ∧
      drain n w2 =
        drainBy (fun thread => runTwice clone name (scripts thread.flag)) w2.queue w2 := by
  have made : ((runBlock me (.text m) false).play w).2 =
      (w1.addClone me).startAll w1.sprites.length (cloneHats t) :=
    congrArg Prod.snd (runBlock_createClone meets alive hop free taken clonable.copyable)
  refine ⟨made, ?_⟩
  rw [made]
  obtain ⟨ts, started, each⟩ := (w1.addClone me).startAll_eq w1.sprites.length (cloneHats t)
  have waiting : ((w1.addClone me).startAll w1.sprites.length (cloneHats t)).queue = ts := by
    rw [started, show (w1.addClone me).queue = [] from idle, List.nil_append]
  have length := congrArg List.length each
  rw [List.length_map, List.length_map] at length
  rw [waiting]
  refine drain_eq_drainBy (J := World.Hosts w1.sprites.length name t) ?_ (fun _ => .endThread) ?_
    (length ▸ enough) ?_ waiting
  · rintro w q i ⟨⟨running, named, blocks, alive, loops, conditions⟩, free⟩
    exact ⟨⟨running, named, blocks, alive, loops, conditions⟩, free⟩
  · intro thread mem w hosts
    obtain ⟨h, hmem, same⟩ := List.mem_map.1 (each ▸ List.mem_map_of_mem mem)
    obtain ⟨sprite, flag⟩ := Prod.mk.inj same
    rw [← sprite, ← flag]
    exact hosts.runs (hats h hmem)
  · have free := (w1.hides_addClone me (by decide)).trans
      (clonable.free "control_start_as_clone" (by simp))
    exact World.Hosts.startAll ⟨clonable.plays, free⟩ _ _

/-! ## A clone that shows itself twice -/

/-- A block that makes a clone, and a script for clones. -/
def showingClone : Table Block := [
  ("m", .plain "control_create_clone_of" []),
  ("h", .plain "control_start_as_clone" [] (.text "b")),
  ("b", .plain "looks_show" [] (.text "c")),
  ("c", .plain "looks_hide" [])]

/-- The blocks of the script stand in it once, and are entered twice. -/
theorem showingClone_enters_twice :
    (drain 9 ((runBlock 0 (.text "m")).play (.ofBlocks showingClone)).2).log.toList = [
      .entered "Cat" "control_create_clone_of", .entered "Cat" "control_start_as_clone",
      .entered "Cat" "looks_show", .entered "Cat" "looks_hide",
      .entered "Cat" "looks_show", .entered "Cat" "looks_hide"] := rfl

def showAndHide : List Statement := [.leaf "b" "looks_show" .nil, .leaf "c" "looks_hide" .nil]

theorem showAndHide_written : CloneScript showingClone "h" showAndHide := by
  refine ⟨_, _, rfl, rfl, rfl, rfl, _, ⟨⟨_, rfl, .bare (by decide) (by decide), rfl⟩, trivial⟩, rfl, _,
    ⟨⟨_, rfl, .bare (by decide) (by decide), rfl⟩, trivial⟩, rfl⟩

theorem drain_createClone_showingClone : let w := World.ofBlocks showingClone
    let w1 := w.enter "Cat" "control_create_clone_of"
    let w2 := ((runBlock 0 (.text "m") false).play w).2
    (w1.Clonable 0 "Cat" showingClone ∧ CloneScript showingClone "h" showAndHide) ∧
      w2 = (w1.addClone 0).startAll 1 ["h"] ∧
      drain 9 w2 = drainBy (fun _ => runTwice 1 "Cat" showAndHide) w2.queue w2 := by
  intro w w1 w2
  have clonable : w1.Clonable 0 "Cat" showingClone := by
    refine ⟨rfl, rfl, rfl, ?_, by decide⟩
    simp only [showingClone, List.mem_cons, List.not_mem_nil, or_false]
    rintro q (rfl | rfl | rfl | rfl) <;> exact ⟨_, rfl⟩
  have hats : ∀ h ∈ cloneHats showingClone, CloneScript showingClone h showAndHide := by
    intro h mem
    rw [show cloneHats showingClone = ["h"] from rfl, List.mem_singleton] at mem
    rw [mem]
    exact showAndHide_written
  exact ⟨⟨clonable, showAndHide_written⟩, drain_createClone (fun _ => showAndHide) ⟨rfl, rfl, rfl⟩
    (by decide) rfl rfl rfl clonable rfl hats (by decide)⟩

end BlockStage
