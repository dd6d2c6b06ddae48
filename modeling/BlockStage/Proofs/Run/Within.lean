import BlockStage.Proofs.Run.Kept

/-!
# What acts ask for

`Act.Sends I P Q` says of an act that all its requests satisfy `P`, that it does not leave the program, and that it
answers with what satisfies `Q`, as long as every world it sees satisfies `I`. `sends_bind` and the lemmas beside it
compute it on the tree that an act is. `Act.Within I X Q` is the case of ordinary requests and those in `X`.

It holds of the run that carries the act out: `Act.keeps_perform` for what every allowed request keeps, and
`Act.perform_congr` for two ways of running scripts that agree on the allowed requests.
-/

namespace BlockStage

open Run

/-- What is known of an answer in worlds that satisfy `I`: a world that was looked at does, and no script
that was run leaves the program. -/
def Request.Admits (I : World → Prop) : (r : Request) → r.Reply → Prop
  | .look, w => I w
  | .attempt _ _ _, reply | .invoke _ _ _, reply => reply ≠ .error .exit
  | _, _ => True

namespace Act

variable {α β : Type} {I : World → Prop} {P X : Request → Prop} {Q : α → Prop} {R : β → Prop}

def Sends (I : World → Prop) (P : Request → Prop) (Q : α → Prop) : Act α → Prop
  | .ret a => Q a
  | .fail e => e ≠ .exit
  | .endless => P .tick
  | .ask r k => P r ∧ ∀ a, r.Admits I a → (k a).Sends I P Q

abbrev Within (I : World → Prop) (X : Request → Prop) (Q : α → Prop) : Act α → Prop :=
  Sends I (fun r => r.Ordinary ∨ X r) Q

@[simp] theorem sends_ret (a : α) : (Act.ret a).Sends I P Q ↔ Q a := Iff.rfl

@[simp] theorem sends_pure (a : α) : (pure a : Act α).Sends I P Q ↔ Q a := Iff.rfl

@[simp] theorem sends_fail (e : Failure) : (Act.fail e : Act α).Sends I P Q ↔ e ≠ .exit := Iff.rfl

@[simp] theorem sends_throw (f : Fault) : (throw f : Act α).Sends I P Q := nofun

@[simp] theorem sends_endless : (Act.endless : Act α).Sends I P Q ↔ P .tick := Iff.rfl

@[simp] theorem sends_lift (e : Except Fault α) : (liftM e : Act α).Sends I P Q ↔ Yields Q e := by
  cases e with
  | error f => exact iff_of_true nofun (.error f)
  | ok a => rw [Yields.ok]; rfl

@[simp] theorem sends_bind (act : Act α) (k : α → Act β) :
    (act >>= k).Sends I P R ↔ act.Sends I P fun a => (k a).Sends I P R := by
  induction act with
  | ask r k' ih => simp only [ask_bind, Sends, ih]
  | _ => rfl

@[simp] theorem sends_map (f : α → β) (act : Act α) :
    (f <$> act).Sends I P R ↔ act.Sends I P fun a => R (f a) := by
  rw [map_eq_pure_bind, sends_bind]
  rfl

@[simp] theorem sends_ite (c : Prop) [Decidable c] (d e : Act α) :
    (if c then d else e).Sends I P Q ↔ (c → d.Sends I P Q) ∧ (¬ c → e.Sends I P Q) := by
  by_cases h : c <;> simp [h]

@[simp] theorem sends_ask (r : Request) (k : r.Reply → Act α) :
    (Act.ask r k).Sends I P Q ↔ P r ∧ ∀ a, r.Admits I a → (k a).Sends I P Q := Iff.rfl

theorem Sends.mono {I' : World → Prop} {P' : Request → Prop} {Q' : α → Prop} {act : Act α}
    (h : act.Sends I P Q) (hI : ∀ w, I' w → I w) (hP : ∀ r, P r → P' r) (hQ : ∀ a, Q a → Q' a) :
    act.Sends I' P' Q' := by
  induction act with
  | ret a => exact hQ a h
  | fail f => exact h
  | endless => exact hP _ h
  | ask r k ih =>
    refine ⟨hP r h.1, fun a ha => ih a (h.2 a ?_)⟩
    cases r with
    | look => exact hI a ha
    | _ => exact ha

theorem Sends.answer {Q' : α → Prop} {act : Act α} (h : act.Sends I P Q) (hQ : ∀ a, Q a → Q' a) :
    act.Sends I P Q' :=
  h.mono (fun _ h => h) (fun _ h => h) hQ

theorem Sends.bind {act : Act α} {k : α → Act β} (h : act.Sends I P fun _ => True)
    (hk : ∀ a, (k a).Sends I P R) : (act >>= k).Sends I P R :=
  (sends_bind _ _).2 (h.answer fun a _ => hk a)

theorem Sends.lift_bind {e : Except Fault α} {k : α → Act β} (h : ∀ a, (k a).Sends I P R) :
    ((liftM e : Act α) >>= k).Sends I P R :=
  (sends_bind _ _).2 ((sends_lift e).2 fun a _ => h a)

theorem Sends.look_bind {k : World → Act β} (look : P .look) (h : ∀ w, (k w).Sends I P R) :
    (Act.look >>= k).Sends I P R :=
  ⟨look, fun w _ => h w⟩

theorem Sends.ite {c : Prop} [Decidable c] {d e : Act α} (hd : d.Sends I P Q) (he : e.Sends I P Q) :
    (if c then d else e).Sends I P Q :=
  (sends_ite c d e).2 ⟨fun _ => hd, fun _ => he⟩

/-! ## The requests as acts -/

section

variable {S : Unit → Prop}

theorem answered : (∀ u, True → S u) ↔ S () := ⟨fun h => h () trivial, fun h _ _ => h⟩

@[simp] theorem sends_look {S : World → Prop} :
    Act.look.Sends I P S ↔ P .look ∧ ∀ w, I w → S w := Iff.rfl

@[simp] theorem sends_log (line : LogLine) : (Act.log line).Sends I P S ↔ P (.log line) ∧ S () :=
  and_congr_right fun _ => answered

@[simp] theorem sends_record (call : Call) : (Act.record call).Sends I P S ↔ P (.record call) ∧ S () :=
  and_congr_right fun _ => answered

@[simp] theorem sends_set (i : Nat) (a : Attribute) (v : Value) :
    (Act.set i a v).Sends I P S ↔ P (.set i a v) ∧ S () :=
  and_congr_right fun _ => answered

@[simp] theorem sends_say (i : Nat) (words : String) :
    (Act.say i words).Sends I P S ↔ P (.say i words) ∧ S () :=
  and_congr_right fun _ => answered

@[simp] theorem sends_stop : Act.stop.Sends I P S ↔ P .stop ∧ S () :=
  and_congr_right fun _ => answered

@[simp] theorem sends_tick : Act.tick.Sends I P S ↔ P .tick ∧ S () :=
  and_congr_right fun _ => answered

@[simp] theorem sends_chance {S : Int → Prop} : Act.chance.Sends I P S ↔ P .chance ∧ ∀ n, S n :=
  and_congr_right fun _ => forall_congr' fun _ => true_imp_iff

@[simp] theorem sends_sleep (seconds : Float) :
    (Act.sleep seconds).Sends I P S ↔ P (.sleep seconds) ∧ S () :=
  and_congr_right fun _ => answered

end

@[simp] theorem sends_run {S : Value → Prop} (i : Nat) (flag : Value) :
    (Act.run i flag).Sends I P S ↔ P (.run i flag) ∧ ∀ v, S v :=
  and_congr_right fun _ => forall_congr' fun _ => true_imp_iff

theorem sends_attr (look : P .look) (i : Nat) (a : Attribute) :
    (Act.attr i a).Sends I P fun _ => True := by
  simp [Act.attr, look]

theorem sends_adjust (look : P .look) (op : Number → Number → Except Fault Number) {i : Nat} {a : Attribute}
    (set : ∀ v, P (.set i a v)) (amount : Except Fault Value) :
    (Act.adjust op i a amount).Sends I P fun _ => True := by
  simp [Act.adjust, sends_attr look, set]

theorem sends_change (look : P .look) {i : Nat} {a : Attribute} (set : ∀ v, P (.set i a v)) (amount : Except Fault Value) :
    (Act.change i a amount).Sends I P fun _ => True :=
  sends_adjust look _ set amount

@[simp] theorem within_look {S : World → Prop} : Act.look.Within I X S ↔ ∀ w, I w → S w :=
  ⟨fun h => h.2, fun h => ⟨.inl trivial, h⟩⟩

@[simp] theorem within_run {S : Value → Prop} (i : Nat) (flag : Value) :
    (Act.run i flag).Within I X S ↔ X (.run i flag) ∧ ∀ v, S v := by
  simp [Request.Ordinary]

end Act

/-! ## Carrying acts out -/

/-- A run that keeps `J` and answers with what satisfies `Q`. It may fail with an error, and then `J` is kept too; or
a limit may end it. -/
structure Run.Keeps {α : Type} (J : World → Prop) (Q : α → Prop) (r : Run α) : Prop where
  ok : ∀ {w w' a}, J w → r.play w = (.ok a, w') → J w' ∧ Q a
  fault : ∀ {w w' e}, J w → r.play w = (.error (.fault e), w') → J w' ∧ e ≠ .exit

namespace Run.Keeps

variable {α β : Type} {J : World → Prop} {Q : α → Prop} {R : β → Prop} {r : Run α}

theorem of_eq {s : Run α} (h : s.Keeps J Q) (same : ∀ w, J w → r.play w = s.play w) : r.Keeps J Q where
  ok hw hr := h.ok hw (same _ hw ▸ hr)
  fault hw hr := h.fault hw (same _ hw ▸ hr)

theorem pure {a : α} (h : Q a) : (pure a : Run α).Keeps J Q where
  ok hw hr := by cases hr; exact ⟨hw, h⟩
  fault _ hr := nomatch hr

theorem throw {e : Stop} (h : e ≠ .fault .exit) : (throw e : Run α).Keeps J Q where
  ok _ hr := nomatch hr
  fault hw hr := by cases hr; exact ⟨hw, fun exits => h (congrArg _ exits)⟩

theorem lift {e : Except Fault α} (h : Yields Q e) : (liftM e : Run α).Keeps J Q := by
  cases e with
  | error f => exact throw (by simp)
  | ok a => exact pure (by simpa using h)

theorem bind {k : α → Run β} (hr : r.Keeps J Q) (hk : ∀ a, Q a → (k a).Keeps J R) :
    (r >>= k).Keeps J R where
  ok hw h := by
    obtain ⟨a, w', first, second⟩ := play_bind_eq_ok h
    obtain ⟨hw', ha⟩ := hr.ok hw first
    exact (hk a ha).ok hw' second
  fault hw h := by
    rcases play_bind_eq_error h with first | ⟨a, w', first, second⟩
    · exact hr.fault hw first
    · obtain ⟨hw', ha⟩ := hr.ok hw first
      exact (hk a ha).fault hw' second

end Run.Keeps

/-- A run that meets no fault from worlds that satisfy `P`, and whose answer and the world it leaves
satisfy `R`. A limit may end it. -/
structure Run.Leads {α : Type} (P : World → Prop) (R : α → World → Prop) (r : Run α) : Prop where
  ok : ∀ {w w' a}, P w → r.play w = (.ok a, w') → R a w'
  never : ∀ {w w' f}, P w → r.play w ≠ (.error (.fault f), w')

namespace Run.Leads

variable {α β : Type} {P : World → Prop} {R : α → World → Prop} {r : Run α}

theorem of_play (h : ∀ w, P w → ∃ a w', r.play w = (.ok a, w') ∧ R a w') : r.Leads P R where
  ok hw hr := by
    obtain ⟨_, _, same, holds⟩ := h _ hw
    cases same.symm.trans hr
    exact holds
  never hw hr := by
    obtain ⟨_, _, same, -⟩ := h _ hw
    cases same.symm.trans hr

theorem pure {a : α} (h : ∀ w, P w → R a w) : (pure a : Run α).Leads P R :=
  of_play fun w hw => ⟨a, w, rfl, h w hw⟩

theorem throw {e : Stop} (h : ∀ f, e ≠ .fault f) : (throw e : Run α).Leads P R where
  ok _ hr := nomatch hr
  never _ hr := by cases hr; exact h _ rfl

theorem of_each (h : ∀ w0, P w0 → r.Leads (· = w0) R) : r.Leads P R where
  ok hw hr := (h _ hw).ok rfl hr
  never hw hr := (h _ hw).never rfl hr

theorem of_eq {s : Run α} (h : s.Leads P R) (same : ∀ w, P w → r.play w = s.play w) : r.Leads P R where
  ok hw hr := h.ok hw (same _ hw ▸ hr)
  never hw hr := h.never hw (same _ hw ▸ hr)

theorem get_bind {k : World → Run β} {T : β → World → Prop}
    (h : ∀ w0, P w0 → (k w0).Leads (· = w0) T) : (get >>= k).Leads P T :=
  of_each fun w0 hw => (h w0 hw).of_eq fun w hw => by
    subst hw
    exact play_get_bind k

theorem bind {k : α → Run β} {T : β → World → Prop} (hr : r.Leads P R)
    (hk : ∀ a, (k a).Leads (R a) T) : (r >>= k).Leads P T where
  ok hw h := by
    obtain ⟨a, w', first, second⟩ := play_bind_eq_ok h
    exact (hk a).ok (hr.ok hw first) second
  never hw h := by
    rcases play_bind_eq_error h with first | ⟨a, w', first, second⟩
    · exact hr.never hw first
    · exact (hk a).never (hr.ok hw first) second

/-- An attempt meets no fault; a fault of what is tried is answered. -/
theorem attempt {R : Except Failure α → World → Prop}
    (ok : ∀ {w w' a}, P w → r.play w = (.ok a, w') → R (.ok a) w')
    (fault : ∀ {w w' f}, P w → r.play w = (.error (.fault f), w') → R (.error f) w') :
    (attempt r).Leads P R where
  ok {w w' a} hw h := by
    rw [play_attempt] at h
    rcases hr : r.play w with ⟨(f | _ | _) | a, w1⟩ <;> rw [hr] at h <;> cases h
    · exact fault hw hr
    · exact ok hw hr
  never {w w' f} _ h := by
    rw [play_attempt] at h
    rcases hr : r.play w with ⟨(f | _ | _) | a, w1⟩ <;> rw [hr] at h <;> cases h

theorem mono {P' : World → Prop} {R' : α → World → Prop} (h : r.Leads P R) (hP : ∀ w, P' w → P w)
    (hR : ∀ a w, R a w → R' a w) : r.Leads P' R' where
  ok hw hr := hR _ _ (h.ok (hP _ hw) hr)
  never hw hr := h.never (hP _ hw) hr

theorem keeps {J : World → Prop} {Q : α → Prop} (h : r.Leads J fun a w => J w ∧ Q a) : r.Keeps J Q where
  ok hw hr := h.ok hw hr
  fault hw hr := absurd hr (h.never hw)

end Run.Leads

/-- A run that leaves a world that satisfies `J` in such a world, however it ends. It answers with what
satisfies `Q`, and does not leave the program. -/
structure Run.Stays {α : Type} (J : World → Prop) (Q : α → Prop) (r : Run α) : Prop where
  always : ∀ w, J w → J (r.play w).2
  ok : ∀ w a, J w → (r.play w).1 = .ok a → Q a
  mild : ∀ w, J w → (r.play w).1 ≠ .error (.fault .exit)

namespace Run.Stays

variable {α β : Type} {J : World → Prop} {Q : α → Prop} {R : β → Prop} {r : Run α}

theorem pure {a : α} (h : Q a) : (pure a : Run α).Stays J Q where
  always _ hw := hw
  ok _ _ _ hr := by cases hr; exact h
  mild _ _ hr := nomatch hr

theorem throw {e : Stop} (h : e ≠ .fault .exit) : (throw e : Run α).Stays J Q where
  always _ hw := hw
  ok _ _ _ hr := nomatch hr
  mild _ _ hr := h (Except.error.inj hr)

theorem lift {e : Except Fault α} (h : Yields Q e) : (liftM e : Run α).Stays J Q := by
  cases e with
  | error f => exact throw (by simp)
  | ok a => exact pure (by simpa using h)

theorem bind {k : α → Run β} (hr : r.Stays J Q) (hk : ∀ a, Q a → (k a).Stays J R) :
    (r >>= k).Stays J R := by
  refine ⟨fun w hw => ?_, fun w b hw => ?_, fun w hw => ?_⟩ <;> rw [play_bind]
  all_goals
    have kept := hr.always w hw
    have answers := fun a => hr.ok w a hw
    have failing := hr.mild w hw
    rcases hp : r.play w with ⟨e | a, w'⟩ <;> rw [hp] at kept answers failing
  · exact kept
  · exact (hk a (answers a rfl)).always w' kept
  · exact nofun
  · exact (hk a (answers a rfl)).ok w' b kept
  · exact fun he => failing (congrArg _ (Except.error.inj he))
  · exact (hk a (answers a rfl)).mild w' kept

theorem get_bind {k : World → Run α} (h : ∀ w, J w → (k w).Stays J Q) : (get >>= k).Stays J Q where
  always w hw := (h w hw).always w hw
  ok w a hw hr := (h w hw).ok w a hw hr
  mild w hw := (h w hw).mild w hw

theorem mono {Q' : α → Prop} (h : r.Stays J Q) (hQ : ∀ a, Q a → Q' a) : r.Stays J Q' :=
  ⟨h.always, fun w a hw hr => hQ a (h.ok w a hw hr), h.mild⟩

theorem contain_of {flag : Value} {r : Run Value} (h : r.Stays J fun _ => True)
    (noted : ∀ w f, J w → J (w.noteFailure flag f)) : (contain flag r).Stays J fun _ => True where
  always := Always.contain_of h.always noted
  ok _ _ _ _ := trivial
  mild w hw hr := h.mild w hw (congrArg Prod.fst (contain_eq_error (Prod.ext hr rfl)).1)

theorem keeps (h : r.Stays J Q) : r.Keeps J Q where
  ok {w w' a} hw hr := by
    have kept := h.always w hw
    rw [hr] at kept
    exact ⟨kept, h.ok w a hw (by rw [hr])⟩
  fault {w w' e} hw hr := by
    have kept := h.always w hw
    rw [hr] at kept
    exact ⟨kept, fun exits => h.mild w hw (by rw [hr, exits])⟩

end Run.Stays

namespace Act

variable {α : Type} {p q : Player} {I J : World → Prop} {X : Request → Prop} {Q : α → Prop}

theorem keeps_perform
    (steps : ∀ r : Request, r.Ordinary ∨ X r → (r.perform p).Keeps J (r.Admits I)) {act : Act α}
    (h : act.Within I X Q) : (act.perform p).Keeps J Q := by
  induction act with
  | ret a => exact .pure h
  | fail e => exact .throw fun exits => h (Stop.fault.inj exits)
  | endless => exact .throw nofun
  | ask r k ih => exact (steps r h.1).bind fun a ha => ih a (h.2 a ha)

theorem stays_perform
    (steps : ∀ r : Request, r.Ordinary ∨ X r → (r.perform p).Stays J (r.Admits I)) {act : Act α}
    (h : act.Within I X Q) : (act.perform p).Stays J Q := by
  induction act with
  | ret a => exact .pure h
  | fail e => exact .throw fun exits => h (Stop.fault.inj exits)
  | endless => exact .throw nofun
  | ask r k ih => exact (steps r h.1).bind fun a ha => ih a (h.2 a ha)

/-- An act does the same for two ways of running scripts that answer the allowed requests alike. -/
theorem perform_congr (steps : ∀ r : Request, r.Ordinary ∨ X r → (r.perform q).Keeps J (r.Admits I))
    (same : ∀ r : Request, r.Ordinary ∨ X r → ∀ w, J w → (r.perform p).play w = (r.perform q).play w)
    {act : Act α} (h : act.Within I X Q) {w : World} (hw : J w) :
    (act.perform p).play w = (act.perform q).play w := by
  induction act generalizing w with
  | ret a => rfl
  | fail f => rfl
  | endless => rfl
  | ask r k ih =>
    refine play_bind_congr (same r h.1 w hw) fun a w' hr => ?_
    obtain ⟨kept, admitted⟩ := (steps r h.1).ok hw hr
    exact ih a (h.2 a admitted) kept

end Act

namespace Request

theorem perform_ordinary (p q : Player) {r : Request} (h : r.Ordinary) : r.perform p = r.perform q := by
  cases r with
  | run _ _ | attempt _ _ _ | invoke _ _ _ => exact absurd h id
  | _ => rfl

/-- What depends only on what ordinary requests keep, they keep. -/
theorem keeps_ordinary (p : Player) (me : Nat) {I J : World → Prop} (look : ∀ w, J w → I w)
    (closed : ∀ w w', J w → w.Kept me w' → J w') {r : Request} (h : r.Ordinary) :
    (r.perform p).Keeps J (r.Admits I) where
  ok {w w' a} hw hr := by
    have kept := (h.alters p w).kept me
    rw [hr] at kept
    refine ⟨closed w w' hw kept, ?_⟩
    cases r with
    | look =>
      obtain ⟨rfl, -⟩ : w = a ∧ w = w' := by simpa [perform] using hr
      exact look w hw
    | attempt _ _ _ | invoke _ _ _ => exact absurd h id
    | _ => trivial
  fault {w w' f} hw hr := by
    have kept := (h.alters p w).kept me
    rw [hr] at kept
    refine ⟨closed w w' hw kept, fun exits => ?_⟩
    obtain ⟨f, hf⟩ := h.mild p w (congrArg Prod.fst hr)
    cases exits.symm.trans (Stop.fault.inj hf)

end Request

end BlockStage
