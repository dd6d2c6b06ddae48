import BlockStage.Proofs.Run.Orderly

/-!
# Scripts and sessions as changes

In an orderly world, whatever a script does is a sequence of the changes of `World.Goes` that leaves the roster
alone: `Player.Unfolds`. So is what a session does, apart from steps that use a name of a sprite directly:
`World.Orderly.upholds`.
-/

namespace BlockStage

open Act Run
open Expression (Site)

variable {loose : Prop} {w0 w : World} {p : Player} {me : Nat} {flag : Value}

/-- A script ends before it enters a block, or it enters one while the program is not to end. -/
theorem runWith_cases (p : Player) (me : Nat) (flag : Value) (next : Bool) (w : World) :
    (∃ e : Except Fault Value, (runWith p me flag next).play w = (e.mapError (.fault ·), w)) ∨
      ∃ name opcode b, w.done = false ∧ w.block? me flag = .ok b ∧
        ((b.opcode? = .ok (.text opcode) ∧ (runWith p me flag next).play w = (do
            enterBlock name opcode
            let result ← actBlock p me flag opcode
            if next then goOn p me flag result else return result).play w) ∨
          (runWith p me flag next).play w = (do
            enterBlock name opcode
            throw (.fault (.error .wrongKind)) : Run Value).play w) := by
  by_cases idle : w.done = true ∨ flag.isNull = true
  · exact .inl ⟨.ok .null, runWith_idle p me next idle⟩
  obtain ⟨running, hnull⟩ := not_idle idle
  unfold runWith
  rw [play_get_bind, if_neg (by simp [running, hnull])]
  cases hname : (w.sprite me).name? with
  | error f => exact .inl ⟨.error f, rfl⟩
  | ok v =>
    rw [Run.lift_ok_bind]
    cases named : v.display? with
    | error f => exact .inl ⟨.error f, rfl⟩
    | ok name =>
      rw [Run.lift_ok_bind]
      cases hb : w.block? me flag with
      | error f => exact .inl ⟨.error f, rfl⟩
      | ok b =>
        rw [Run.lift_ok_bind]
        cases hop : b.opcode? with
        | error f => exact .inl ⟨.error f, rfl⟩
        | ok opcode =>
          rw [Run.lift_ok_bind]
          cases hshown : opcode.display? with
          | error f => exact .inl ⟨.error f, rfl⟩
          | ok shown =>
            refine .inr ⟨name, shown, b, running, rfl, ?_⟩
            cases opcode with
            | text opcode =>
              cases hshown
              exact .inl ⟨hop, rfl⟩
            | _ => exact .inr rfl

/-! ## Requests -/

namespace Request

/-- What blocks of a sprite ask for: that a script of the sprite is run, or a change. -/
def Made (loose : Prop) (me : Nat) (r : Request) : Prop :=
  (∃ flag, r = .run me flag) ∨ (r.Single ∧ r.Allowed loose)

variable {r : Request}

theorem Made.of_runtime (h : r.Runtime) : r.Made loose me := by
  refine .inr ⟨?_, .inl ⟨0, .inr (.inl h)⟩⟩
  cases r with
  | run _ _ | attempt _ _ _ | invoke _ _ _ => exact h.elim
  | _ => trivial

theorem Made.of_asked (h : r.Asked me) : r.Made loose me := by
  cases r with
  | run i flag => exact .inl ⟨flag, by rw [show i = me from h]⟩
  | addClone _ | start _ _ | delete _ | stop => exact .of_runtime trivial
  | _ => exact h.elim

end Request

/-- Scripts are run such that all that they do is a sequence of changes. -/
def Player.Unfolds (loose : Prop) (p : Player) : Prop :=
  ∀ {w0 : World}, w0.Orderly loose → ∀ me flag next,
    (p.run me flag next).Stays (w0.Trail loose) fun _ => True

namespace World.Orderly

section

variable (orderly : w0.Orderly loose) (hp : p.Unfolds loose)

include orderly hp

theorem stays_request (me : Nat) {r : Request} (h : r.Ordinary ∨ r.Made loose me) :
    (r.perform p).Stays (w0.Trail loose) (r.Admits fun _ => True) := by
  have single : r.Single → r.Allowed loose →
      (r.perform p).Stays (w0.Trail loose) (r.Admits fun _ => True) := by
    intro single allowed
    refine ⟨fun w hw => hw.tail ⟨allowed.goes p w, allowed.enlists p w⟩, fun _ _ _ _ => ?_, fun w _ => allowed.mild p w⟩
    cases r with
    | attempt _ _ _ | invoke _ _ _ => exact single.elim
    | _ => trivial
  rcases h with ordinary | ⟨flag, rfl⟩ | ⟨single', allowed⟩
  · refine single ?_ (.inl ⟨0, .inl ordinary⟩)
    cases r with
    | run _ _ | attempt _ _ _ | invoke _ _ _ => exact ordinary.elim
    | _ => trivial
  · exact hp orderly me flag true
  · exact single single' allowed

theorem stays_within (me : Nat) {α : Type} {Q : α → Prop} {act : Act α}
    (h : act.Within (fun _ => True) (Request.Made loose me) Q) :
    (act.perform p).Stays (w0.Trail loose) Q :=
  stays_perform (fun _ => orderly.stays_request hp me) h

end

/-! ## Calls of custom blocks -/

/-- Where a custom block is called in an orderly world, all changes keep what the call needs. -/
theorem ground (orderly : w.Orderly loose) (there : me < w.sprites.length) {prototype : String}
    (found : Custom.prototype? (w.kit (w.sprite me).kit).blocks = some prototype) (runs : Value → Prop) :
    Site.Ground { me, kit := (w.sprite me).kit, prototype, runs } (w.Trail loose) where
  stands {w'} path := by
    have orderly' := path.path.orderly orderly
    refine ⟨fun key hkey v found => ?_, path.path.later.kits me there, fun b v hb hv => ?_⟩
    · exact orderly'.tabled me (key, v) (Table.mem_of_get? found) hkey
    · obtain ⟨o, ho, isPrototype⟩ := Custom.outline_of_prototype? found
      exact orderly'.literal _ _ o (path.path.outlines _ ▸ ho) isPrototype b v hb hv
  calls _ := trivial
  bind path i _ _ _ := path.tail ⟨.turn _ i fun _ => .rebind _, {}⟩
  write {w'} path v plain w'' written := by
    have goes : w'.Goes loose _ := .mutation w' (w.sprite me).kit prototype plain
    have enlists := World.Enlists.mutation w' (w.sprite me).kit prototype v
    rw [Site.mutation] at written
    rw [written] at goes enlists
    exact path.tail ⟨goes, enlists⟩

theorem trusts (orderly : w.Orderly loose) (hp : p.Unfolds loose) (me kit : Nat) (prototype : String)
    (runs : Value → Prop) : Site.Trusts { me, kit, prototype, runs } (w.Trail loose) p :=
  fun flag _ => (hp orderly me flag true).keeps

theorem trail_called (orderly : w.Orderly loose) (hp : p.Unfolds loose) {kit : Nat} {prototype : String}
    {runs : Value → Prop} {w' : World} {r : Request} (path : w.Trail loose w')
    (h : (w.Trail loose w' ∧ Site.Notes { me, kit, prototype, runs } r) ∨
      Site.Body { me, kit, prototype, runs } (w.Trail loose) w' r) :
    w.Trail loose ((r.perform p).play w').2 := by
  cases r with
  | look => exact path
  | bind i script name v => exact path.tail ⟨World.Manages.goes (.bind i script name v), {}⟩
  | write r v =>
    obtain ⟨-, rfl, plain⟩ := h.resolve_right id
    exact path.tail ⟨.mutation w' kit prototype plain, .mutation w' kit prototype v⟩
  | attempt i flag next => exact Run.Always.attempt (hp orderly i flag next).always w' path
  | _ => exact (h.elim And.right id).elim

theorem stays_enter (orderly : w.Orderly loose) (hp : p.Unfolds loose) (there : me < w.sprites.length)
    {callee : Custom.Callee}
    (found : Custom.prototype? (w.kit (w.sprite me).kit).blocks = some callee.prototype)
    (args : Arguments) :
    ((Custom.enter me callee args).perform p).Stays (w.Trail loose) fun _ => True := by
  have ground := orderly.ground there found (· = .text callee.definition)
  have trusts := orderly.trusts hp me (w.sprite me).kit callee.prototype (· = .text callee.definition)
  have keeps := Custom.keeps_enter ground trusts rfl rfl args
  refine ⟨fun w' path => ?_, fun _ _ _ _ => trivial, fun w' path failed => ?_⟩
  · exact (Custom.calls_enter ground trusts rfl rfl args path).always
      (fun _ _ called path => trail_called orderly hp path called) path
  · exact (keeps.fault path (Prod.ext failed rfl)).2 rfl

end World.Orderly

/-- A run that looks at the world is followed from there. -/
theorem Run.Stays.look {α : Type} {Q : α → Prop} {k : World → Run α}
    (h : ∀ w, w0.Trail loose w → (k w).Stays (w.Trail loose) Q) : (get >>= k).Stays (w0.Trail loose) Q where
  always w hw := hw.trans ((h w hw).always w .refl)
  ok w a hw := (h w hw).ok w a .refl
  mild w hw := (h w hw).mild w .refl

namespace World.Orderly

section

variable (orderly : w0.Orderly loose) (hp : p.Unfolds loose)

include orderly hp

theorem stays_call : ((Custom.call.act me flag).perform p).Stays (w0.Trail loose) fun _ => True := by
  have takes : TakesWithin (fun _ => True) (Request.Made loose me) me flag :=
    .of_asked fun _ => .of_asked
  rw [Custom.perform_call]
  refine .bind (orderly.stays_within hp me takes) fun args _ => .look fun w path => ?_
  have orderly' := path.path.orderly orderly
  refine .bind (.lift fun _ => Custom.callee?_eq_ok) ?_
  rintro callee ⟨⟨b, hb⟩, found⟩
  obtain ⟨shared, blocks, -⟩ := orderly'.block?_eq hb
  exact orderly'.stays_enter hp (lt_of_attribute shared) (blocks ▸ found) args

omit orderly hp in
/-- What a name on a sprite asks for that is used with the id of a block, or with nothing. -/
theorem within_member {m : Member} (other : m ≠ .block (.custom .call)) {arg : Value}
    (given : arg = .null ∨ ∃ id, arg = .text id)
    (bares : m = .common .deleteAttribute → arg = .null ∨ loose) :
    (m.invoke me [arg]).Within (fun _ => True) (Request.Made loose me) fun _ => True := by
  cases m with
  | block op =>
    exact Opcode.within_act (fun _ => .of_asked) (by simpa using other) fun _ _ _ => .of_runtime trivial
  | property | touches | enterCustom | copy | draw | describe => simp [Member.invoke]
  | common c =>
    rcases given with rfl | ⟨id, rfl⟩
    · cases c <;> simp [Member.invoke, Member.useCommon, Value.fields?]
    · cases c with
      | format =>
        show Within _ _ _ (Member.useCommon me .format [.text id])
        unfold Member.useCommon
        split <;> simp_all
      | getAttribute => simp [Member.invoke, Member.useCommon]
      | deleteAttribute =>
        have h : loose := (bares rfl).resolve_left (by simp)
        have drops : Request.Made loose me (.drop me id) := .inr ⟨trivial, .inr (.inr ⟨h, .inl ⟨_, _, rfl⟩⟩)⟩
        have empties : Request.Made loose me (.replace me []) := .inr ⟨trivial, .inr (.inr ⟨h, .inr ⟨_, rfl⟩⟩)⟩
        simp [Member.invoke, Member.useCommon, drops, empties]
      | _ => simp [Member.invoke, Member.useCommon, Value.fields?]

theorem stays_member {m : Member} {arg : Value} (given : arg = .null ∨ ∃ id, arg = .text id)
    (bares : m = .common .deleteAttribute → arg = .null ∨ loose) :
    ((m.invoke me [arg]).perform p).Stays (w0.Trail loose) fun _ => True := by
  by_cases call : m = .block (.custom .call)
  · subst call
    exact orderly.stays_call hp
  · exact orderly.stays_within hp me (within_member call given bares)

/-! ## Scripts -/

omit orderly hp in
theorem stays_contain {r : Run Value} (h : r.Stays (w0.Trail loose) fun _ => True) :
    (contain flag r).Stays (w0.Trail loose) fun _ => True :=
  h.contain_of fun _ _ path => path.tail ⟨.aside (.push _ rfl), {}⟩

theorem stays_actBlock {opcode : String} (given : ∃ id, flag = .text id)
    (plain : ¬ loose → opcode.toList.take 2 ≠ ['_', '_']) :
    (actBlock p me flag opcode).Stays (w0.Trail loose) fun _ => True := by
  refine .get_bind fun w _ => ?_
  split
  · next m hm =>
    refine stays_contain (orderly.stays_member hp (.inr given) fun bares => .inr ?_)
    by_contra strict
    rcases Member.ofName?_plain (plain strict) hm with simple | ⟨op, block, -⟩
    · rw [bares] at simple
      simp at simple
    · cases bares.symm.trans block
  · refine .bind (Q := fun _ => True) ?_ fun _ _ => stays_contain (.throw nofun)
    exact (orderly.stays_request hp me (r := .log (.opcodeMissing opcode)) (.inl rfl)).mono
      fun _ _ => trivial

theorem stays_walk (n : Nat) :
    (walk (fun f => p.run me f false) me n flag).Stays (w0.Trail loose) fun _ => True := by
  induction n generalizing flag with
  | zero =>
    rw [walk]
    split
    · exact .pure trivial
    · exact .throw (by simp)
  | succ n ih =>
    rw [walk]
    split
    · exact .pure trivial
    · refine .get_bind fun w _ => .bind (Q := fun _ => True) (.lift (by simp)) fun deleted _ => ?_
      split
      · exact .pure trivial
      · refine .bind (hp orderly me flag false) fun _ _ => .get_bind fun w _ => ?_
        exact .bind (Q := fun _ => True) (.lift (by simp)) fun b _ => ih

theorem stays_goOn (result : Value) : (goOn p me flag result).Stays (w0.Trail loose) fun _ => True := by
  refine .get_bind fun w _ => .bind (Q := fun _ => True) (.lift (by simp)) fun b _ => ?_
  exact .bind (orderly.stays_walk hp _) fun _ _ => .pure trivial

omit orderly hp in
/-- A block is entered only while the program is not to end. -/
theorem stays_entered (running : w.done = false) {name opcode : String} {k : Run Value}
    (h : k.Stays (w.Trail loose) fun _ => True) : let run := do
      enterBlock name opcode
      k
    w.Trail loose (run.play w).2 ∧ (run.play w).1 ≠ .error (.fault .exit) := by
  have entered : w.Trail loose (w.enter name opcode) := .single ⟨.enter w running name opcode, {}⟩
  dsimp only
  rw [play_bind, enterBlock_play]
  by_cases fuel : w.fuel - 1 < 0
  · rw [if_pos fuel]
    exact ⟨entered, nofun⟩
  · rw [if_neg fuel]
    exact ⟨h.always _ entered, h.mild _ entered⟩

theorem stays_runWith (next : Bool) : (runWith p me flag next).Stays (w0.Trail loose) fun _ => True := by
  have each : ∀ w, w0.Trail loose w → w.Trail loose ((runWith p me flag next).play w).2 ∧
      ((runWith p me flag next).play w).1 ≠ .error (.fault .exit) := by
    intro w path
    have orderly' := path.path.orderly orderly
    rcases runWith_cases p me flag next w with ⟨e, same⟩ | ⟨name, shown, b, running, hb, entered⟩
    · rw [same]
      cases e <;> exact ⟨.refl, nofun⟩
    · obtain ⟨-, -, id, rfl, -⟩ := orderly'.block?_eq hb
      rcases entered with ⟨hop, acts⟩ | fails
      · rw [acts]
        refine stays_entered running (.bind (orderly'.stays_actBlock hp ⟨id, rfl⟩ fun strict =>
          orderly'.opcode? strict hb hop) fun result _ => ?_)
        cases next with
        | true => exact orderly'.stays_goOn hp result
        | false => exact .pure trivial
      · rw [fails]
        exact stays_entered running (.throw nofun)
  exact ⟨fun w path => path.trans (each w path).1, fun _ _ _ _ => trivial, fun w path => (each w path).2⟩

end

end World.Orderly

theorem unfolds_player (depth : Nat) : (player depth).Unfolds loose := by
  induction depth with
  | zero => exact fun _ _ _ _ => .throw nofun
  | succ depth ih => exact fun orderly _ _ next => orderly.stays_runWith ih next

/-! ## Sessions -/

namespace Stage

variable {J : World → Prop} (record : ∀ {w : World}, J w → ∀ call, J (w.record call))

include record

theorem always_records (p : Player) (calls : List Call) :
    ((calls.forM Act.record).perform p).Always J := by
  induction calls with
  | nil => exact .pure _
  | cons call rest ih =>
    show ((Act.record call >>= fun _ => rest.forM Act.record).perform p).Always _
    rw [Act.perform_bind]
    exact .bind (fun w hw => record hw call) fun _ => ih

theorem always_draw (p : Player) {α : Type} (picture : Paint α) :
    ((Stage.draw picture).perform p).Always J := by
  unfold Stage.draw
  rw [Act.perform_bind]
  refine .bind (always_records record p _) fun _ => ?_
  rw [Act.perform_lift]
  exact .lift _

theorem always_drawSprite (p : Player) (i : Nat)
    (painted : ∀ {w : World}, J w → ∀ image rect, J (w.updateSprite i (·.paint image rect))) :
    ((Stage.drawSprite i).perform p).Always J := by
  unfold Stage.drawSprite
  simp only [Act.perform_bind, Act.perform_look]
  refine .bind .get fun w => .bind (always_draw record p _) fun drawn => ?_
  rcases drawn with _ | ⟨image, rect⟩
  · exact .pure _
  · exact .bind (fun w hw => painted hw image rect) fun _ =>
      always_draw record p (Bubble.draw Stage.screen ((w.sprite i).get? Sprite.wordsKey) (.ok rect))

end Stage

namespace World.Orderly

/-- All that a session does before the program ends is a sequence of changes that leaves the roster alone. -/
theorem carries (orderly : w0.Orderly loose) : Session.Carries (w0.Trail loose) where
  onward path h := path.tail ⟨.aside h.toAside, h.enlists⟩
  runs me flag next := .bind .get fun _ => (unfolds_player _ orderly me flag next).always
  reports _ _ _ _ _ _ _ _ := .bind .get fun _ =>
    (orderly.stays_member (unfolds_player _) (.inl rfl) fun _ => .inl rfl).always
  draws i := .bind .get fun _ => Stage.always_drawSprite
    (fun path call => path.tail ⟨.aside (.record _ call), .records _ [call]⟩) _ i
    fun path image rect => path.tail ⟨.turn _ i fun _ => .paint image rect, {}⟩
  takes me _ := .bind .get fun _ =>
    (orderly.stays_within (unfolds_player _) me (TakesWithin.of_asked fun _ => .of_asked)).always
  assigns me id v := .bind .get fun _ =>
    (orderly.stays_within (unfolds_player _) me
      (Data.sends_assign (.inl trivial) (fun _ _ _ => .inl trivial) id v)).always

/-- All that a session does is a sequence of changes, and so it keeps an orderly world orderly. -/
theorem upholds (orderly : w0.Orderly loose) : Session.Upholds (w0.Path loose) := by
  have each : ∀ {α : Type} {run : Run α}, (∀ w : World, w.Orderly loose → run.Always (w.Trail loose)) →
      run.Always (w0.Path loose) :=
    fun h w path => path.trans (h w (path.orderly orderly) w .refl).path
  exact {
    onward := fun path h => path.tail (.aside h.toAside)
    runs := fun me flag next => each fun w orderly => orderly.carries.runs me flag next
    reports := fun _ _ _ _ _ _ _ _ => each fun w orderly => .bind .get fun _ =>
      (orderly.stays_member (unfolds_player _) (.inl rfl) fun _ => .inl rfl).always
    draws := fun i => each fun w orderly => orderly.carries.draws i
    takes := fun me flag => each fun w orderly => orderly.carries.takes me flag
    assigns := fun me id v => each fun w orderly => orderly.carries.assigns me id v
    ends := fun path => path.tail (.aside (.finish _)) }

end World.Orderly

end BlockStage
