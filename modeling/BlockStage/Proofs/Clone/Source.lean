import BlockStage.Proofs.Clone.Scripts

/-!
# What a clone is of

The block that makes a clone takes what its menu says among its arguments, but makes no use of it: the clone is
always one of the sprite that runs the block, `clone_is_of_running_sprite`.
-/

namespace BlockStage

open Run

variable {w : World} {me : Nat} {name : String} {t : Table Block} {b : Block}

/-- Sprite `i` has the name, the costumes, the place, the direction, the size and the blocks of sprite `j` of
another world. -/
def World.Resembles (w : World) (i : Nat) (w' : World) (j : Nat) : Prop :=
  (∀ key ∈ ["name", "costumes", "x", "y", "direction", "size"],
    Table.get? (w.sprite i).fields key = Table.get? (w'.sprite j).fields key) ∧ w.blocks? i = w'.blocks? j

theorem World.resembles_addClone (w : World) (me : Nat) : (w.addClone me).Resembles w.sprites.length w me := by
  refine ⟨fun key copied => w.get?_addClone me fun own => ?_, w.blocks?_addClone me⟩
  have apart : ∀ key ∈ cloneKeys, key ∉ ["name", "costumes", "x", "y", "direction", "size"] := by decide
  exact apart key own copied

namespace World.Resembles

variable {w w1 w2 : World} {i j k : Nat}

theorem symm (h : w.Resembles i w1 j) : w1.Resembles j w i := ⟨fun key mem => (h.1 key mem).symm, h.2.symm⟩

theorem trans (h : w.Resembles i w1 j) (h' : w1.Resembles j w2 k) : w.Resembles i w2 k :=
  ⟨fun key mem => (h.1 key mem).trans (h'.1 key mem), h.2.trans h'.2⟩

theorem title? (h : w.Resembles i w1 j) : (w.sprite i).title? = (w1.sprite j).title? := by
  rw [Sprite.title?, Sprite.title?, Sprite.name?, Sprite.name?, Sprite.get?, Sprite.get?, h.1 "name" (.head _)]

end World.Resembles

/-- Whatever the menu says, the clone is one of the sprite that runs the block: it is added to the clones, and a
thread is started for each block that starts one. So it is never like the sprite that the menu names if that has
another name. -/
theorem clone_is_of_running_sprite {w1 : World} {m : String} {args : Arguments}
    (meets : w.Meets me (.text m) name b) (alive : 0 < w.fuel)
    (hop : b.opcode? = .ok (.text "control_create_clone_of"))
    (free : (w.sprite me).hides "control_create_clone_of" = false)
    (taken : ((Arguments.eval me (.text m)).perform (player (2 * w.fuel.toNat + 3))).play
      (w.enter name "control_create_clone_of") = (.ok args, w1))
    (copyable : w1.Copyable me name t) :
    let clone := w1.sprites.length
    ∃ w2 ts, (runBlock me (.text m) false).play w = (.ok .null, w2) ∧ w2.clones = w1.clones ++ [clone] ∧
      (∃ s, w2.sprites = w1.sprites ++ [s] ∧ s.hasMode? .clone = .ok true) ∧ w2.queue = w1.queue ++ ts ∧
      ts.map (fun t => (t.sprite, t.flag)) = (cloneHats t).map (fun flag => (clone, .text flag)) ∧
      w2.Resembles clone w1 me ∧ (∀ i, w2.Resembles clone w1 i ↔ w1.Resembles me w1 i) ∧
      ∀ title, args.need "CLONE_OPTION" = .ok (.text title) → title ≠ name →
        ∀ i, (w1.sprite i).title? = .ok title → ¬ w2.Resembles clone w1 i := by
  intro clone
  obtain ⟨ts, started, each⟩ := (w1.addClone me).startAll_eq clone (cloneHats t)
  have made := runBlock_createClone meets alive hop free taken copyable
  rw [started] at made
  have like : World.Resembles _ clone w1 me := w1.resembles_addClone me
  refine ⟨_, ts, made, rfl, ⟨_, rfl, ?_⟩, rfl, each, like,
    fun i => ⟨like.symm.trans, like.trans⟩, fun title _ other i titled same => other ?_⟩
  · rw [Sprite.hasMode?, Sprite.get?, Sprite.put, Table.get?_put_self]
    rfl
  · exact Except.ok.inj (titled.symm.trans ((like.symm.trans same).title?.symm.trans copyable.titled))

/-- A sprite whose block asks for a clone of another one, and a script for clones. -/
def asksForDog : Table Block := [
  ("m", .plain "control_create_clone_of" [("CLONE_OPTION", .list [Value.int 1, .text "n"])]),
  ("n", ⟨[("opcode", .text "control_create_clone_of_menu"), ("next", .null), ("inputs", .record []),
    ("fields", .record [("CLONE_OPTION", .list [.text "Dog", .null])])]⟩),
  ("h", .plain "control_start_as_clone" [])]

def catAndDog : World :=
  let w := World.ofBlocks asksForDog
  { w with sprites := w.sprites ++ [{ fields := [("name", .text "Dog"), ("blocks", .shared)], kit := 1 }] }

theorem clone_is_of_running_sprite_catAndDog :
    let w1 := (catAndDog.enter "Cat" "control_create_clone_of").enter "Cat" "control_create_clone_of_menu"
    w1.Copyable 0 "Cat" asksForDog ∧ ∃ w2, (runBlock 0 (.text "m") false).play catAndDog = (.ok .null, w2) ∧
      w2.Resembles 2 w1 0 ∧ ¬ w2.Resembles 2 w1 1 := by
  intro w1
  have copyable : w1.Copyable 0 "Cat" asksForDog := by
    refine ⟨rfl, rfl, ?_, rfl⟩
    simp only [asksForDog, List.mem_cons, List.not_mem_nil, or_false]
    rintro q (rfl | rfl | rfl) <;> exact ⟨_, rfl⟩
  have meets : catAndDog.Meets 0 (.text "m") "Cat" _ := ⟨rfl, rfl, rfl⟩
  have taken : ((Arguments.eval 0 (.text "m")).perform (player (2 * catAndDog.fuel.toNat + 3))).play
      (catAndDog.enter "Cat" "control_create_clone_of") = (.ok [("CLONE_OPTION", .text "Dog")], w1) := rfl
  obtain ⟨w2, ts, made, -, -, -, -, own, -, others⟩ :=
    clone_is_of_running_sprite meets (by decide) rfl rfl taken copyable
  exact ⟨copyable, w2, made, own, others "Dog" rfl (by decide) 1 rfl⟩

/-- The menu says that the clone is to be one of the dog, but it is one of the cat. -/
theorem dog_is_not_cloned : let w2 := ((runBlock 0 (.text "m") false).play catAndDog).2
    ((runBlock 0 (.text "n")).play catAndDog).1 = .ok (.text "Dog") ∧ (catAndDog.sprite 1).title? = .ok "Dog" ∧
      w2.clones = [2] ∧ (w2.sprite 2).title? = .ok "Cat" := ⟨rfl, rfl, rfl, rfl⟩

end BlockStage
