import BlockStage.Proofs.Run.Footing
import BlockStage.Proofs.Run.Fuelless

/-!
# Runs that settle

A run `Settles` if, given enough fuel, it ends in one way: more fuel changes neither what comes of it nor what
it does. It may depend on what stops a script that nests too deep, and on two numbers that grow with the fuel:
how deep scripts nest, and how far a walk goes. A block settles if it runs scripts that settle and does not
look at the fuel (`Act.settles_perform`).
-/

namespace BlockStage

open Act Run

/-! ## Runs that settle -/

namespace Run

variable {α β : Type} {J : World → Prop} {w : World}

/-- With enough fuel, and with numbers that are large enough, a run spends the same fuel, comes to the same and
leaves the same world, of which `J` is true. -/
def Settles (J : World → Prop) (r : Stop → Nat → Int → Run α) (w : World) : Prop :=
  ∃ (least spent : Nat) (a : Except Failure α) (w' : World), spent ≤ least ∧ J w' ∧
    ∀ (bottom : Stop) (depth : Nat) (size fuel : Int), least ≤ depth → least ≤ size → least ≤ fuel →
      (r bottom depth size).play (w.withFuel fuel) = (a.mapError .fault, w'.withFuel (fuel - spent))

namespace Settles

theorem of_play {r : Stop → Nat → Int → Run α} (a : Except Failure α) {w' : World} (hw : J w')
    (play : ∀ bottom depth size fuel,
      (r bottom depth size).play (w.withFuel fuel) = (a.mapError .fault, w'.withFuel fuel)) : Settles J r w :=
  ⟨0, 0, a, w', Nat.le_refl 0, hw, fun bottom depth size fuel _ _ _ => by simp [play]⟩

theorem pure (a : α) (hw : J w) : Settles J (fun _ _ _ => pure a) w :=
  .of_play (.ok a) hw fun _ _ _ _ => rfl

theorem fail (f : Failure) (hw : J w) : Settles J (fun _ _ _ => (throw (.fault f) : Run α)) w :=
  .of_play (.error f) hw fun _ _ _ _ => rfl

theorem modify {f : World → World} (hw : J (f w))
    (same : ∀ fuel, f (w.withFuel fuel) = (f w).withFuel fuel) : Settles J (fun _ _ _ => modify f) w :=
  .of_play (.ok ()) hw fun _ _ _ fuel => by rw [play_modify, same]; rfl

variable {r : Stop → Nat → Int → Run α} {k : Stop → Nat → Int → α → Run β}

/-- What is left to do is known to settle where the first part has left off. -/
theorem bind (h : Settles J r w) (hk : ∀ a w', J w' → Settles J (k · · · a) w') :
    Settles J (fun bottom depth size => r bottom depth size >>= k bottom depth size) w := by
  obtain ⟨least, spent, a, w', le, hw', play⟩ := h
  cases a with
  | error f =>
    exact ⟨least, spent, .error f, w', le, hw', fun bottom depth size fuel hd hs hf =>
      play_bind_error (play bottom depth size fuel hd hs hf) _⟩
  | ok a =>
    obtain ⟨least', spent', b, w'', le', hw'', play'⟩ := hk a w' hw'
    refine ⟨least + least', spent + spent', b, w'', by omega, hw'', fun bottom depth size fuel hd hs hf => ?_⟩
    rw [play_bind_ok (play bottom depth size fuel (by omega) (by omega) (by omega)),
      play' bottom depth size _ (by omega) (by omega) (by omega), Int.sub_sub, ← Int.natCast_add]

theorem lift_bind {e : Except Fault α} (hw : J w) (hk : ∀ a, e = .ok a → Settles J (k · · · a) w) :
    Settles J (fun bottom depth size => (liftM e : Run α) >>= k bottom depth size) w := by
  cases e with
  | error f => exact .fail f hw
  | ok a => exact hk a rfl

/-- Where the fuel that is left does not matter to what comes after a look, it need not be known. -/
theorem get_bind {k : Stop → Nat → Int → World → Run β}
    (same : ∀ bottom depth size fuel, k bottom depth size (w.withFuel fuel) = k bottom depth size w)
    (h : Settles J (k · · · w) w) :
    Settles J (fun bottom depth size => get >>= k bottom depth size) w := by
  obtain ⟨least, spent, a, w', le, hw', play⟩ := h
  refine ⟨least, spent, a, w', le, hw', fun bottom depth size fuel hd hs hf => ?_⟩
  rw [play_get_bind, same, play bottom depth size fuel hd hs hf]

/-- The fuel that a run finds is one of the numbers that are large enough. -/
theorem get_fuel {k : Stop → Nat → World → Run β}
    (h : Settles J (fun bottom depth size => k bottom depth (w.withFuel size)) w) :
    Settles J (fun bottom depth _ => get >>= k bottom depth) w := by
  obtain ⟨least, spent, a, w', le, hw', play⟩ := h
  exact ⟨least, spent, a, w', le, hw', fun bottom depth _ fuel hd _ hf => play bottom depth fuel fuel hd hf hf⟩

theorem of_large {s : Stop → Nat → Int → Run α} (h : Settles J r w) (bound : Nat)
    (same : ∀ bottom depth (size : Int), bound ≤ size → s bottom depth size = r bottom depth size) : Settles J s w := by
  obtain ⟨least, spent, a, w', le, hw', play⟩ := h
  refine ⟨least + bound, spent, a, w', by omega, hw', fun bottom depth size fuel hd hs hf => ?_⟩
  rw [same bottom depth size (by omega), play bottom depth size fuel (by omega) (by omega) (by omega)]

theorem of_deeper {s : Stop → Nat → Int → Run α} (h : Settles J r w)
    (same : ∀ bottom depth size, s bottom (depth + 1) size = r bottom depth size) : Settles J s w := by
  obtain ⟨least, spent, a, w', le, hw', play⟩ := h
  refine ⟨least + 1, spent, a, w', by omega, hw', fun bottom depth size fuel hd hs hf => ?_⟩
  cases depth with
  | zero => omega
  | succ depth => rw [same, play bottom depth size fuel (by omega) (by omega) (by omega)]

theorem enterBlock (sprite opcode : String) (hw : J (w.enter sprite opcode)) :
    Settles J (fun _ _ _ => enterBlock sprite opcode) w := by
  refine ⟨1, 1, .ok (), w.enter sprite opcode, Nat.le_refl 1, hw, fun _ _ _ fuel _ _ hf => ?_⟩
  rw [enterBlock_play, if_neg (by simp only [World.withFuel]; omega)]
  rfl

theorem contain {r : Stop → Nat → Int → Run Value} (h : Settles J r w) (flag : Value)
    (logs : ∀ w f, J w → J (w.noteFailure flag f)) :
    Settles J (fun bottom depth size => contain flag (r bottom depth size)) w := by
  obtain ⟨least, spent, a, w', le, hw', play⟩ := h
  cases a with
  | ok v =>
    refine ⟨least, spent, .ok v, w', le, hw', fun bottom depth size fuel hd hs hf => ?_⟩
    rw [contain_play, play bottom depth size fuel hd hs hf]
    rfl
  | error e =>
    cases e with
    | error f =>
      refine ⟨least, spent, .ok .null, w'.noteFailure flag f, le, logs w' f hw', fun bottom depth size fuel hd hs hf => ?_⟩
      rw [contain_play, play bottom depth size fuel hd hs hf]
      rfl
    | exit =>
      refine ⟨least, spent, .error .exit, w', le, hw', fun bottom depth size fuel hd hs hf => ?_⟩
      rw [contain_play, play bottom depth size fuel hd hs hf]
      rfl

end Settles

end Run

/-! ## The blocks stay -/

/-- The blocks that a sprite has. -/
def World.HasBlocks (me : Nat) (blocks : Table Block) (w : World) : Prop := w.blocks? me = .ok blocks

namespace World.HasBlocks

variable {me : Nat} {blocks : Table Block} {w w' : World}

theorem there (h : w.HasBlocks me blocks) : me < w.sprites.length := by
  by_contra none
  have missing : w.sprite me = default := by
    rw [World.sprite, List.getD_eq_getElem?_getD, List.getElem?_eq_none (by omega)]
    rfl
  rw [HasBlocks, World.blocks?, missing] at h
  cases h

theorem kept (h : w.HasBlocks me blocks) (kept : w.Kept me w') : w'.HasBlocks me blocks :=
  kept.blocks?.trans h

theorem addClone (h : w.HasBlocks me blocks) (i : Nat) : (w.addClone i).HasBlocks me blocks := by
  have same := w.sprite_addClone_of_lt i h.there
  rw [HasBlocks, World.blocks?, same]
  exact h

theorem delete (h : w.HasBlocks me blocks) (i : Nat) :
    (w.updateSprite i World.deleteClone).HasBlocks me blocks := by
  have same : ((w.updateSprite i World.deleteClone).sprite me).get? "blocks" = (w.sprite me).get? "blocks" ∧
      ((w.updateSprite i World.deleteClone).sprite me).kit = (w.sprite me).kit := by
    rcases w.sprite_updateSprite i me World.deleteClone with sprite | sprite <;> rw [sprite]
    · exact ⟨rfl, rfl⟩
    · rcases World.deleteClone_eq (w.sprite me) with deleted | deleted <;> rw [deleted]
      · exact ⟨rfl, rfl⟩
      · exact ⟨by rw [Sprite.get?, Sprite.get?, Sprite.put, Table.get?_put_of_ne _ _ (by decide)], rfl⟩
  rw [HasBlocks, World.blocks?, same.1, same.2]
  exact h

theorem get?_of_block? (h : w.HasBlocks me blocks) {flag : Value} {b : Block} (hb : w.block? me flag = .ok b) :
    ∃ id, flag = .text id ∧ Table.get? blocks id = some b := by
  obtain ⟨t, id, found, rfl, hb⟩ := World.block?_eq_ok hb
  cases h.symm.trans found
  exact ⟨id, rfl, hb⟩

end World.HasBlocks

/-! ## What acts ask for -/

/-- What blocks ask for beside ordinary requests, if they run only what `G` allows. -/
def Request.Steps (me : Nat) (G : Value → Prop) : Request → Prop
  | .run i flag => i = me ∧ G flag
  | .addClone _ | .start _ _ | .delete _ | .stop => True
  | _ => False

/-- A script settles, however its first block is run. -/
def RunSettles (p : Stop → Nat → Player) (me : Nat) (blocks : Table Block) (flag : Value) : Prop :=
  ∀ next w, w.HasBlocks me blocks →
    Settles (World.HasBlocks me blocks) (fun bottom depth _ => (p bottom depth).run me flag next) w

section

variable {p : Stop → Nat → Player} {me : Nat} {blocks : Table Block} {w : World} {G : Value → Prop}
  (runs : ∀ flag, G flag → RunSettles p me blocks flag)

include runs

theorem Request.settles_perform {r : Request} (h : r.Ordinary ∨ r.Steps me G) (other : r ≠ .look)
    (hw : w.HasBlocks me blocks) :
    Settles (World.HasBlocks me blocks) (fun bottom depth _ => r.perform (p bottom depth)) w := by
  have left : r.Ordinary → ((r.perform (player 0)).play w).2.HasBlocks me blocks := fun ordinary =>
    hw.kept ((ordinary.alters _ w).kept me)
  cases r with
  | look => exact absurd rfl other
  | run i flag =>
    rcases h with h | ⟨rfl, hflag⟩
    · cases h
    · exact runs flag hflag true w hw
  | log _ => exact .modify hw fun _ => rfl
  | set _ _ _ | say _ _ | showMonitor _ _ => exact .modify (left trivial) fun _ => rfl
  | record call => exact .modify (left trivial) fun _ => by cases call <;> rfl
  | setVariable holder _ _ | setList holder _ _ =>
    exact .modify (left trivial) fun _ => by cases holder <;> rfl
  | chance => exact .of_play (.ok w.host.chance.1) (left trivial) fun _ _ _ _ => rfl
  | resetTimer i =>
    refine .get_bind (fun _ _ _ _ => rfl) (.lift_bind hw fun now _ => .modify ?_ fun _ => rfl)
    exact hw.kept (.put i _ (by decide))
  | sleep seconds =>
    refine .get_bind (fun _ _ _ _ => rfl) (.lift_bind hw fun ms _ => ?_)
    exact .bind (.modify hw fun _ => rfl) fun _ _ hw' => .modify hw' fun _ => rfl
  | addClone i => exact .of_play (.ok w.sprites.length) (hw.addClone i) fun _ _ _ _ => rfl
  | start _ _ | stop => exact .modify hw fun _ => rfl
  | delete i => exact .modify (hw.delete i) fun _ => rfl
  | _ => exact h.elim False.elim False.elim

theorem Act.settles_perform {α : Type} {act : Act α} {Q : α → Prop}
    (within : act.Within (World.HasBlocks me blocks) (Request.Steps me G) Q) (veil : act.veil = act)
    (hw : w.HasBlocks me blocks) :
    Settles (World.HasBlocks me blocks) (fun bottom depth _ => act.perform (p bottom depth)) w := by
  induction act generalizing w with
  | ret a => exact .pure a hw
  | fail f => exact .fail f hw
  | endless => exact within.elim False.elim False.elim
  | ask r k ih =>
    by_cases look : r = .look
    · subst look
      obtain ⟨same, veil⟩ := veiled_look veil w
      exact .get_bind (fun _ _ _ fuel => by rw [same fuel]) (ih w (within.2 w hw) veil hw)
    · rw [veil_ask look] at veil
      refine .bind (Request.settles_perform runs within.1 look hw)
        fun a w' hw' => ih a (within.2 a ?_) (congrFun (eq_of_heq (Act.ask.inj veil).2) a) hw'
      cases r with
      | look => exact absurd rfl look
      | attempt _ _ _ | invoke _ _ _ => exact within.1.elim False.elim False.elim
      | _ => trivial

end

end BlockStage
