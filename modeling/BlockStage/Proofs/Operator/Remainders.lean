import BlockStage.Proofs.Number.Numerals
import BlockStage.Proofs.Operator.Formula

/-!
# Remainders of integers

A block that divides two integers, written in decimal, answers the exact remainder, which lies on the side of the
divisor (`isRemainder_iff`). It fails if the divisor is zero, and if an attribute of the sprite is called
`operator_mod` and so hides the method.
-/

namespace BlockStage

open Run

/-- What is left of `x` when as many `y` as possible are taken away: it lies between zero and `y`. -/
structure IsRemainder (x y r : Int) : Prop where
  left : ∃ q, x = y * q + r
  above : 0 < y → 0 ≤ r ∧ r < y
  below : y < 0 → y < r ∧ r ≤ 0

theorem isRemainder_iff {x y r : Int} (ne : y ≠ 0) : IsRemainder x y r ↔ r = x.fmod y := by
  constructor
  · rintro ⟨⟨q, rfl⟩, above, below⟩
    rw [Int.add_comm, Int.add_mul_fmod_self_left]
    rcases Int.lt_or_gt_of_ne ne with neg | pos
    · obtain ⟨low, high⟩ := below neg
      rw [← Int.neg_neg (r.fmod y), ← Int.neg_fmod_neg, Int.fmod_eq_of_lt (by omega) (by omega), Int.neg_neg]
    · obtain ⟨low, high⟩ := above pos
      exact (Int.fmod_eq_of_lt low high).symm
  · rintro rfl
    refine ⟨⟨x.fdiv y, (Int.mul_fdiv_add_fmod x y).symm⟩, fun pos => ?_, fun neg => ?_⟩
    · exact ⟨Int.fmod_nonneg_of_pos x pos, Int.fmod_lt_of_pos x pos⟩
    · have low := Int.fmod_nonneg_of_pos (-x) (Int.neg_pos_of_neg neg)
      have high := Int.fmod_lt_of_pos (-x) (Int.neg_pos_of_neg neg)
      rw [Int.neg_fmod_neg] at low high
      omega

variable {w u : World} {me : Nat} {flag : Value} {name opcode : String} {b : Block}

/-- A block at the end of its script that is given up or answers, and stays where it is. -/
theorem World.Begins.runBlock {op : Opcode} {v : Value} (h : w.Begins me flag name opcode op b) (last : b.next = .null)
    (acts : ∀ p, (contain flag ((op.act me flag).perform p)).play (w.enter name opcode) = (.ok v, u))
    (kept : u.block? me flag = .ok b) (next : Bool) : (runBlock me flag next).play w = (.ok v, u) := by
  rw [runBlock_play]
  have ran := fun p => (h.run p).trans (acts p)
  cases next with
  | false => exact ran _
  | true => rw [runWith_next _ h.toMeets h.coded, play_bind_ok (ran _), goOn_last _ _ kept last]

namespace Operator

/-- A block for the remainder of two integers that can be read answers the one number that is their remainder.
If the divisor is zero, it answers nothing and changes nothing. No attribute of the sprite hides the method of a
block that begins its rule. -/
theorem remainders_are_exact {x y : Int} (hx : x.natAbs < 10 ^ digitLimit) (hy : y.natAbs < 10 ^ digitLimit)
    {fields : Arguments} (begins : w.Begins me flag name "operator_mod" (.operator .mod) b) (last : b.next = .null)
    (gives : b.Gives [("NUM1", .text (intText x)), ("NUM2", .text (intText y))] fields) (next : Bool) :
    (y ≠ 0 → ∃ r, IsRemainder x y r ∧ (∀ r', IsRemainder x y r' → r' = r) ∧
      (runBlock me flag next).play w = (.ok (.text (intText r)),
        { w with log := w.log.push (.entered name "operator_mod"), fuel := w.fuel - 1 })) ∧
    (y = 0 → (runBlock me flag next).play w = (.ok .null,
      { w with
        log := (w.log.push (.entered name "operator_mod")).push (.blockFailed flag.asText .divisionByZero)
        fuel := w.fuel - 1 })) := by
  obtain ⟨args, taken, given, -⟩ := Arguments.eval_given (w := w.enter name "operator_mod")
    begins.flag_ne_null begins.found gives (by simp)
  have first : args.need "NUM1" = .ok (.text (intText x)) := by rw [Arguments.need, given _ (.head _)]
  have second : args.need "NUM2" = .ok (.text (intText y)) := by rw [Arguments.need, given _ (.tail _ (.head _))]
  have acts : ∀ p, ((act me flag .mod).perform p).play (w.enter name "operator_mod") =
      (((Number.mod (.int x) (.int y)).map fun n => .text (Value.num n).asText).mapError (.fault ·),
        w.enter name "operator_mod") := by
    intro p
    rw [act_rule rfl, Act.play_bind_ok (taken p), Act.perform_lift, play_lift, first, second]
    simp only [bind, Except.bind, Value.asInt_intText hx, Value.asInt_intText hy]
    cases Number.mod (.int x) (.int y) <;> rfl
  constructor
  · intro ne
    have remainder := (isRemainder_iff (x := x) ne).2 rfl
    have readable : (x.fmod y).natAbs < 10 ^ digitLimit := by
      have above := remainder.above
      have below := remainder.below
      omega
    have answer : (Value.num (.int (x.fmod y))).asText = intText (x.fmod y) := by
      rw [Value.asText, show Value.num (.int (x.fmod y)) = Value.int (x.fmod y) from rfl, Value.display?_int readable]
    refine ⟨x.fmod y, remainder, fun _ => (isRemainder_iff ne).1, ?_⟩
    refine begins.runBlock (u := w.enter name _) last (fun p => ?_) begins.found next
    refine contain_ok ((acts p).trans ?_)
    rw [Number.mod, if_neg ne, ← answer]
    rfl
  · rintro rfl
    exact begins.runBlock (u := (w.enter name _).noteFailure flag _) last (fun p => contain_fault (acts p))
      begins.found next

def dividing (x y : Int) : Block :=
  .plain "operator_mod" [("NUM1", .literal (intText x)), ("NUM2", .literal (intText y))]

def dividingStage : World := .ofBlocks [("m", dividing 7 (-3)), ("z", dividing 7 0)]

/-- Seven leaves minus two when it is divided by minus three, and it is not divided by zero. -/
theorem remainders_are_exact_negative : IsRemainder 7 (-3) (-2) ∧
    ((runBlock 0 (.text "m")).play dividingStage).1 = .ok (.text (intText (-2))) ∧
    ((runBlock 0 (.text "z")).play dividingStage).1 = .ok .null := by
  have gives : ∀ x y, (dividing x y).Gives [("NUM1", .text (intText x)), ("NUM2", .text (intText y))] [] := fun x y =>
    Block.plain_gives (.cons (Input.gives_literal (by decide +kernel) _)
      (.cons (Input.gives_literal (by decide +kernel) _) .nil))
  have few : ∀ n < 10, n < 10 ^ digitLimit := fun n small => Nat.lt_of_lt_of_le small (Nat.le_self_pow (by decide) 10)
  have left : IsRemainder 7 (-3) (-2) := ⟨⟨-3, rfl⟩, by decide, by decide⟩
  have exactly : dividingStage.Begins 0 (.text "m") "Cat" "operator_mod" (.operator .mod) (dividing 7 (-3)) :=
    ⟨⟨rfl, rfl, rfl⟩, rfl, rfl, by decide⟩
  have zero : dividingStage.Begins 0 (.text "z") "Cat" "operator_mod" (.operator .mod) (dividing 7 0) :=
    ⟨⟨rfl, rfl, rfl⟩, rfl, rfl, by decide⟩
  obtain ⟨r, -, only, ran⟩ :=
    (remainders_are_exact (few _ (by decide)) (few _ (by decide)) exactly rfl (gives 7 (-3)) true).1 (by decide)
  have ended := (remainders_are_exact (few _ (by decide)) (few _ (by decide)) zero rfl (gives 7 0) true).2 rfl
  exact ⟨left, by rw [ran, only _ left], by rw [ended]⟩

/-- A sprite with an attribute that is called like the block answers nothing, although seven leaves one. -/
theorem hidden_mod_answers_null : IsRemainder 7 3 1 ∧
    ((runBlock 0 (.text "m")).play ((World.ofBlocks [("m", dividing 7 3)]).updateSprite 0
      (·.put "operator_mod" (.text "")))).1 = .ok .null :=
  ⟨⟨⟨2, rfl⟩, by decide, by decide⟩, rfl⟩

end Operator

end BlockStage
