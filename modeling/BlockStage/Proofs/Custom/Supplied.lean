import BlockStage.Proofs.Custom.Frames
import BlockStage.Proofs.Custom.WrittenLists
import Mathlib.Data.List.Perm.Subperm

/-!
# Arguments that a call supplies

A call supplies some parameters, each by an input. What an input comes to is taken under the id of the
parameter in upper case, but a branch keeps the id as it is (`Supply.key`). Every argument that is bound
brings the ids of the prototype to upper case (`World.Lists`). Which are bound, and when the body starts:
`World.Lists.binds_supplied`.
-/

namespace BlockStage

open Run World

/-! ## Tables -/

namespace Table

variable {α : Type}

theorem put_of_notMem {t : Table α} {key : String} (h : key ∉ t.map Prod.fst) (a : α) :
    put t key a = t ++ [(key, a)] := by
  induction t with
  | nil => rfl
  | cons q rest ih =>
    simp only [List.map_cons, List.mem_cons, not_or] at h
    rw [put, if_neg (Ne.symm h.1), ih h.2]
    rfl

theorem ofPairs_of_nodup {pairs : List (String × α)} (distinct : (pairs.map Prod.fst).Nodup) :
    ofPairs pairs = pairs := by
  have more : ∀ (rest t : Table α), ((t ++ rest).map Prod.fst).Nodup →
      rest.foldl (fun t q => put t q.1 q.2) t = t ++ rest := by
    intro rest
    induction rest with
    | nil => simp
    | cons q rest ih =>
      intro t distinct
      have new : q.1 ∉ t.map Prod.fst := by
        rw [List.map_append, List.map_cons] at distinct
        exact fun h => List.disjoint_of_nodup_append distinct h (.head _)
      rw [List.foldl_cons, put_of_notMem new, ih (t ++ [q]) (by simpa using distinct)]
      simp
  exact more pairs [] distinct

end Table

/-! ## What a call supplies -/

/-- An argument of a call: the id of a parameter, the input that supplies it, and what that comes to. -/
structure Supply where
  id : String
  input : Input
  value : Value

namespace Supply

/-- The name under which the argument is taken. -/
def key (q : Supply) : String := q.input.key q.id

/-- The argument is taken under the id in upper case. A branch is so only if its id is in upper case. -/
def Fits (q : Supply) : Prop := ∀ v, q.input = .branch v → Text.upper q.id = q.id

end Supply

/-- Inputs are taken one after the other: a reporter is run, a variable is read, and a constant or a branch
is handed over as it stands. -/
inductive Supplies (p : Player) (me : Nat) : List (String × Value) → World → List Supply → World → Prop
  | nil {w : World} : Supplies p me [] w [] w
  | cons {id : String} {raw v : Value} {input : Input} {rest : List (String × Value)} {given : List Supply}
      {w w1 w2 : World} (read : Input.ofValue? raw = .ok input)
      (comes : ((Arguments.ofInput me input).perform p).play w = (.ok (some v), w1))
      (more : Supplies p me rest w1 given w2) :
      Supplies p me ((id, raw) :: rest) w (⟨id, input, v⟩ :: given) w2

namespace Supplies

variable {p : Player} {me : Nat} {inputs : List (String × Value)} {given : List Supply} {w w1 : World}

theorem ids (h : Supplies p me inputs w given w1) : given.map Supply.id = inputs.map Prod.fst := by
  induction h with
  | nil => rfl
  | cons _ _ _ ih => rw [List.map_cons, List.map_cons, ih]

theorem ofInputs (h : Supplies p me inputs w given w1) (args : Arguments) :
    ((Arguments.ofInputs me inputs args).perform p).play w =
      (.ok (given.foldl (fun args q => Table.put args q.key q.value) args), w1) := by
  induction h generalizing args with
  | nil => rfl
  | cons read comes _ ih =>
    rw [Arguments.ofInputs, read, Act.lift_ok_bind, Act.play_bind_ok comes]
    exact ih _

end Supplies

/-! ## Custom blocks with ids in any case -/

/-- A custom block whose parameters have ids that are different in upper case, and different names. -/
structure CustomBlock.Regular (c : CustomBlock) : Prop where
  plain : ∀ id ∈ c.ids, Expression.IsPlain id
  distinct : (c.ids.map Text.upper).Nodup
  named : c.names.Nodup
  paired : c.ids.length = c.names.length
  few : c.ids.length < Expression.Datum.walkLimit

/-- The custom block with its ids in upper case. -/
def CustomBlock.raised (c : CustomBlock) : CustomBlock := { c with ids := c.ids.map Text.upper }

namespace CustomBlock.Regular

variable {c : CustomBlock} (h : c.Regular)

include h

theorem byId : c.raised.byId = (c.ids.map Text.upper).zip c.names := by
  refine Table.ofPairs_of_nodup ?_
  show (((c.ids.map Text.upper).zip c.names).map Prod.fst).Nodup
  rw [List.map_fst_zip (by simp [h.paired])]
  exact h.distinct

theorem keys_byId : c.raised.byId.map Prod.fst = c.ids.map Text.upper := by
  rw [h.byId, List.map_fst_zip (by simp [h.paired])]

theorem get?_byId {id name : String} (paired : (id, name) ∈ c.ids.zip c.names) :
    Table.get? c.raised.byId (Text.upper id) = some name := by
  refine Table.get?_of_mem (by rw [h.keys_byId]; exact h.distinct) ?_
  rw [h.byId, List.zip_map_left]
  exact List.mem_map.2 ⟨_, paired, rfl⟩

theorem has_byId {id key : String} (hid : id ∈ c.ids) (same : Text.upper key = Text.upper id) :
    Table.has c.raised.byId key = true ↔ key = Text.upper id := by
  constructor
  · intro has
    obtain ⟨name, found⟩ := Option.isSome_iff_exists.1 has
    have listed : key ∈ c.ids.map Text.upper := by
      rw [← h.keys_byId]
      exact List.mem_map_of_mem (Table.mem_of_get? found)
    obtain ⟨id', hid', rfl⟩ := List.mem_map.1 listed
    rw [← same, (h.plain id' hid').upper_upper]
  · rintro rfl
    have listed : Text.upper id ∈ c.raised.byId.map Prod.fst := by
      rw [h.keys_byId]
      exact List.mem_map_of_mem hid
    obtain ⟨q, hq, key⟩ := List.mem_map.1 listed
    exact key ▸ Table.isSome_get?_of_mem hq

theorem eq_of_byId {key key' name : String} (hk : Table.get? c.raised.byId key = some name)
    (hk' : Table.get? c.raised.byId key' = some name) : key = key' := by
  have named : (c.raised.byId.map Prod.snd).Nodup := by
    rw [h.byId, List.map_snd_zip (by simp [h.paired])]
    exact h.named
  have same := List.inj_on_of_nodup_map named (Table.mem_of_get? hk) (Table.mem_of_get? hk') rfl
  exact congrArg Prod.fst same

end CustomBlock.Regular

/-! ## Binding what is supplied -/

theorem Custom.bound_of_listed {byId : Table String} {args : Arguments}
    (listed : ∀ q ∈ args, Table.has byId q.1 = true) :
    Custom.bound byId args = args.map fun q => ((Table.get? byId q.1).getD "", q.2) := by
  induction args with
  | nil => rfl
  | cons q rest ih =>
    obtain ⟨hq, hrest⟩ := List.forall_mem_cons.1 listed
    obtain ⟨name, found⟩ := Option.isSome_iff_exists.1 hq
    rw [Custom.bound, found, List.map_cons, found, ih hrest]
    rfl

/-- What is bound under the name of a parameter is read there, if no two parameters have one name. -/
theorem Custom.get?_bound {byId : Table String} {args : Arguments}
    (listed : ∀ q ∈ args, Table.has byId q.1 = true) (distinct : (args.map Prod.fst).Nodup)
    (named : ∀ {key key' name}, Table.get? byId key = some name → Table.get? byId key' = some name →
      key = key')
    {key name : String} {v : Value} (given : (key, v) ∈ args) (found : Table.get? byId key = some name) :
    Table.get? (Table.ofPairs (Custom.bound byId args)) name = some v := by
  rw [Custom.bound_of_listed listed]
  refine Table.get?_foldl_put_of_mem _ _ ?_ (List.mem_map.2 ⟨_, given, by rw [found]; rfl⟩)
  rw [List.map_map]
  refine List.Nodup.map_on (fun q hq q' hq' same => ?_) distinct.of_map
  obtain ⟨n, hn⟩ := Option.isSome_iff_exists.1 (listed q hq)
  obtain ⟨n', hn'⟩ := Option.isSome_iff_exists.1 (listed q' hq')
  simp only [Function.comp, hn, hn', Option.getD_some] at same
  exact List.inj_on_of_nodup_map distinct hq hq' (named hn (same ▸ hn'))

namespace Supply

variable {c : CustomBlock} {q : Supply}

theorem upper_key (plain : Expression.IsPlain q.id) : Text.upper q.key = Text.upper q.id := by
  obtain ⟨id, input, v⟩ := q
  cases input with
  | branch v => rfl
  | _ => exact plain.upper_upper

theorem fits_iff : q.Fits ↔ q.key = Text.upper q.id := by
  obtain ⟨id, input, v⟩ := q
  cases input with
  | branch v => exact ⟨fun h => (h v rfl).symm, fun h _ _ => h.symm⟩
  | _ => exact ⟨fun _ => rfl, fun _ _ h => by cases h⟩

instance : Decidable q.Fits := decidable_of_iff _ fits_iff.symm

end Supply

/-- The arguments of a call, as they are taken. -/
def Supply.arguments (given : List Supply) : Arguments := given.map fun q => (q.key, q.value)

section

variable {p : Player} {me : Nat} {inputs : List (String × Value)} {given : List Supply} {w w1 : World}
  {c : CustomBlock}

/-- The arguments of a call are taken under different names. -/
theorem Supply.nodup_arguments (regular : c.Regular) (known : ∀ q ∈ given, q.id ∈ c.ids)
    (distinct : (given.map Supply.id).Nodup) : ((Supply.arguments given).map Prod.fst).Nodup := by
  rw [Supply.arguments, List.map_map]
  refine List.Nodup.map_on (fun q hq q' hq' same => ?_) distinct.of_map
  have hid := known q hq
  have hid' := known q' hq'
  have upper : Text.upper q.id = Text.upper q'.id := by
    rw [← Supply.upper_key (regular.plain _ hid), ← Supply.upper_key (regular.plain _ hid')]
    exact congrArg Text.upper same
  exact List.inj_on_of_nodup_map distinct hq hq' (List.inj_on_of_nodup_map regular.distinct hid hid' upper)

theorem Supply.all_listed (regular : c.Regular) (known : ∀ q ∈ given, q.id ∈ c.ids) :
    ((Supply.arguments given).all fun q => Table.has c.raised.byId q.1) = true ↔ ∀ q ∈ given, q.Fits := by
  simp only [Supply.arguments, List.all_map, List.all_eq_true]
  refine forall₂_congr fun q hq => ?_
  have hid := known q hq
  rw [Supply.fits_iff]
  exact regular.has_byId hid (Supply.upper_key (regular.plain _ hid))

end

/-! ## Prototypes that are called again and again -/

/-- What a prototype says of its parameters has no part in finding prototypes and definitions. -/
theorem Block.find?_amendIn {t : Table Block} {id key : String} {v : Value} {p : Block → Bool}
    (apart : ∀ b : Block, p ⟨Table.put b.fields key v⟩ = p b) :
    ((amendIn t id key v).reverse.find? fun q => p q.2).map Prod.fst =
      (t.reverse.find? fun q => p q.2).map Prod.fst := by
  have looked : ∀ t : Table Block, (t.reverse.find? fun q => p q.2).map Prod.fst =
      ((t.map fun q => (q.1, p q.2)).reverse.find? Prod.snd).map Prod.fst := by
    intro t
    rw [← List.map_reverse, List.find?_map, Option.map_map]
    rfl
  have same : ((amendIn t id key v).map fun q => (q.1, p q.2)) = t.map fun q => (q.1, p q.2) := by
    unfold amendIn
    split
    · next b hb =>
      rw [← Table.put_map, apart]
      exact Table.put_of_get? (by rw [Table.get?_map, hb]; rfl)
    · rfl
  rw [looked, looked, same]

theorem Custom.prototype?_amendIn (t : Table Block) (id : String) (v : Value) :
    prototype? (Block.amendIn t id "mutation" v) = prototype? t :=
  Block.find?_amendIn (p := fun b => b.hasOpcode "procedures_prototype") fun b => by
    simp only [Block.hasOpcode, Table.get?_put_of_ne _ _ (show "mutation" ≠ "opcode" by decide)]

theorem Custom.definition?_amendIn (t : Table Block) (id prototype : String) (v : Value) :
    definition? (Block.amendIn t id "mutation" v) prototype = definition? t prototype :=
  Block.find?_amendIn (p := fun b => defines b prototype) fun b => by
    simp only [Custom.defines, Block.branch?, Block.get?, Value.field?,
      Table.get?_put_of_ne _ _ (show "mutation" ≠ "inputs" by decide)]

/-- All that a call changes in the blocks is what the prototype says. -/
theorem World.Bound.blocks {w w' : World} {me : Nat} {prototype : String} {ids names : List String}
    {given : List (String × Value)} (offers : w.Offers me prototype ids names)
    (h : w.Bound me prototype ids names given w') :
    ∃ v, w'.blocks me = Block.amendIn (w.blocks me) prototype "mutation" v := by
  obtain ⟨said, m, -, rfl⟩ := h
  have sprite := offers.sprite_amend (.record said) (Binding.putAll (w.sprite me).arguments w.current given) m
  refine ⟨.record said, ?_⟩
  rw [blocks_of_shared (by rw [sprite]; exact offers.blocks), blocks_of_shared offers.blocks, sprite]
  exact offers.kit_amend _ _ _

/-- The last custom block of a sprite is `c`, and its prototype writes the ids of the parameters as a list
that was brought to upper case some number of times. -/
structure World.Lists (w : World) (me : Nat) (c : CustomBlock) : Prop where
  blocks : Table.get? (w.sprite me).fields "blocks" = some .shared
  bindings : Table.get? (w.sprite me).fields "argument_dict" = some .shared
  plain : ∀ b ∈ (w.sprite me).arguments, b.IsPlain
  prototype : Custom.prototype? (w.blocks me) = some c.prototype
  definition : Custom.definition? (w.blocks me) c.prototype = some c.definition
  declared : ∃ b fields gap n, Table.get? (w.kit (w.sprite me).kit).blocks c.prototype = some b ∧
    Table.get? b.fields "mutation" = some (.record fields) ∧
    Table.get? fields "argumentids" =
      some (.text (Expression.upperCase^[n] (Expression.listText gap c.ids))) ∧
    (∃ s, Table.get? fields "argumentnames" = some (.text s) ∧ Expression.Writes s c.names) ∧
    (∀ q ∈ fields, q.2.isFlat = true) ∧ (fields.map Prod.fst).Nodup

namespace World.Lists

variable {w w1 : World} {me : Nat} {c : CustomBlock}

theorem offers (h : w.Lists me c) (regular : c.Regular) :
    w.Offers me c.prototype c.raised.ids c.names := by
  obtain ⟨b, fields, gap, n, hb, hm, hids, hnames, flat, distinct⟩ := h.declared
  refine ⟨h.blocks, h.bindings, ⟨b, fields, hb, hm, ⟨_, hids, fun k => ?_⟩, hnames, flat, distinct, ?_⟩,
    h.plain⟩
  · rw [← Function.iterate_add_apply, Nat.add_right_comm]
    exact Expression.writes_upperCase_listText gap regular.plain (k + n)
  · rw [List.length_zip, CustomBlock.raised, List.length_map, ← regular.paired, Nat.min_self]
    exact regular.few

/-- Binding arguments brings the list to upper case once more for each of them. -/
theorem bound (h : w.Lists me c) (regular : c.Regular) {given : List (String × Value)}
    (simple : ∀ q ∈ given, q.2.isSimple = true)
    (bound : w.Bound me c.prototype c.raised.ids c.names given w1) (raises : w.Raises me c.prototype w1) :
    w1.Lists me c := by
  have offers := h.offers regular
  have offers1 := bound.offers offers simple
  obtain ⟨b, fields, gap, n, hb, hm, hids, -⟩ := h.declared
  obtain ⟨n', b1, fields1, hb1, hm1, hids1⟩ := raises _ ⟨b, fields, hb, hm, hids⟩
  obtain ⟨v, blocks⟩ := bound.blocks offers
  refine ⟨offers1.blocks, offers1.bindings, offers1.plain, ?_, ?_, ?_⟩
  · rw [blocks, Custom.prototype?_amendIn, h.prototype]
  · rw [blocks, Custom.definition?_amendIn, h.definition]
  · obtain ⟨b', fields', hb', hm', declares⟩ := offers1.declared
    cases hb1.symm.trans hb'
    cases hm1.symm.trans hm'
    refine ⟨b1, fields1, gap, n' + n, hb1, hm1, ?_, declares.hasNames, declares.flat, declares.distinct⟩
    rw [Function.iterate_add_apply]
    exact hids1

end World.Lists

/-! ## The call -/

/-- Block `flag` of a sprite calls a custom block with these inputs, which come to these arguments. `w1` is
the world once they are taken, which may have run blocks. -/
structure World.CallsWith (p : Player) (me : Nat) (flag : Value) (inputs : List (String × Value))
    (given : List Supply) (w w1 : World) : Prop where
  met : ∃ name b, w.Meets me flag name b ∧ b.opcode? = .ok (.text "procedures_call") ∧
    b.Holds inputs [] ∧ Supplies p me inputs (w.enter name "procedures_call") given w1
  free : (w.sprite me).hides "procedures_call" = false
  fuelled : 0 < w.fuel
  coded : ∃ b mutation code, w1.block? me flag = .ok b ∧ b.get? "mutation" = .ok mutation ∧
    mutation.field? "proccode" = .ok (.text code)
  able : (w1.sprite me).hides "procedure" = false
  simple : ∀ q ∈ given, q.value.isSimple = true

section

variable {p : Player} {me : Nat} {flag : Value} {c : CustomBlock} {inputs : List (String × Value)}
  {given : List Supply} {w w1 : World}

theorem World.CallsWith.ids (h : w.CallsWith p me flag inputs given w1) :
    given.map Supply.id = inputs.map Prod.fst := by
  obtain ⟨name, b, -, -, -, supplies⟩ := h.met
  exact supplies.ids

/-- A call with inputs is a call with the arguments that they come to. -/
theorem World.CallsWith.calls (h : w.CallsWith p me flag inputs given w1)
    (distinct : ((Supply.arguments given).map Prod.fst).Nodup) :
    ∃ code, w.Calls p me flag code (Supply.arguments given) w1 := by
  obtain ⟨name, b, meets, hop, holds, supplies⟩ := h.met
  obtain ⟨b', mutation, code, coded⟩ := h.coded
  have taken : ((Arguments.eval me flag).perform p).play (w.enter name "procedures_call") =
      (.ok (Supply.arguments given), w1) := by
    rw [Arguments.eval_play p meets.flag_ne_null
      (show (w.enter name "procedures_call").block? me flag = .ok b from meets.found) holds,
      supplies.ofInputs, ← Table.ofPairs_of_nodup distinct, Table.ofPairs, Supply.arguments, List.foldl_map]
  exact ⟨code, ⟨name, b, meets, hop, taken⟩, h.free, h.fuelled, ⟨b', mutation, coded⟩, h.able,
    List.forall_mem_map.2 h.simple⟩

end

/-- If every branch among the inputs of a call has an id in upper case, each parameter that the call supplies
reads, when the body starts, what its input came to. If one has not, the call fails there and the body does not
start. Either way the custom block can be called again. -/
theorem World.Lists.binds_supplied (depth : Nat) {me : Nat} {flag : Value} {c : CustomBlock}
    {inputs : List (String × Value)} {given : List Supply} {w w1 : World} (regular : c.Regular)
    (lists : w1.Lists me c) (calls : w.CallsWith (player (depth + 1)) me flag inputs given w1)
    (known : ∀ q ∈ inputs, q.1 ∈ c.ids) (distinct : (inputs.map Prod.fst).Nodup) : ∃ w2 m n,
      w2.Lists me c ∧
      w1.Bound me c.prototype c.raised.ids c.names
        (Custom.bound c.raised.byId (Supply.arguments given)) w2 ∧
      ((∀ q ∈ given, q.Fits) →
        (runWith (player (depth + 1)) me flag false).play w =
          (contain flag ((player (depth + 1)).run me (.text c.definition) true >>= fun _ =>
            Custom.leave m)).play w2 ∧
        ∀ q ∈ given, ∀ name, (q.id, name) ∈ c.ids.zip c.names →
          (w2.sprite me).argument? w2.current (.text name) = .ok q.value ∧
          ∀ p a, w2.Asks me a name → ((runWith p me a false).play w2).1 = .ok q.value) ∧
      ((∃ q ∈ given, ¬ q.Fits) → (runWith (player (depth + 1)) me flag false).play w =
        (.ok .null, w2.noteFailure flag (.raised "KeyError" "" n))) := by
  have known' : ∀ q ∈ given, q.id ∈ c.ids := by
    intro q hq
    have mem : q.id ∈ inputs.map Prod.fst := calls.ids ▸ List.mem_map_of_mem hq
    obtain ⟨raw, hraw, id⟩ := List.mem_map.1 mem
    exact id ▸ known raw hraw
  have distinct' : (given.map Supply.id).Nodup := calls.ids ▸ distinct
  have keys := Supply.nodup_arguments regular known' distinct'
  obtain ⟨code, called⟩ := calls.calls keys
  have offers := lists.offers regular
  obtain ⟨w2, m, n, ⟨bound, raises⟩, runs⟩ := runWith_call called lists.prototype
    lists.definition offers
  have byId : Table.ofPairs (c.raised.ids.zip c.names) = c.raised.byId := rfl
  have simple : ∀ q ∈ Custom.bound c.raised.byId (Supply.arguments given), q.2.isSimple = true :=
    Custom.isSimple_bound called.simple
  have listed := Supply.all_listed regular known'
  refine ⟨w2, m, n, lists.bound regular simple bound raises, bound, fun fits => ⟨?_, ?_⟩, ?_⟩
  · rw [runs, byId, Custom.body, if_pos (listed.2 fits)]
  · intro q hq name paired
    have read : (w2.sprite me).argument? w2.current (.text name) = .ok q.value := by
      have here := bound.argument? offers simple w1.current name
      rw [if_pos rfl, Custom.get?_bound (List.all_eq_true.1 (listed.2 fits)) keys regular.eq_of_byId
        (List.mem_map.2 ⟨q, hq, rfl⟩) ((Supply.fits_iff.1 (fits q hq)) ▸ regular.get?_byId paired)] at here
      rw [bound.current]
      exact here
    refine ⟨read, fun p a asks => ?_⟩
    rw [runWith_argument p asks, read]
    rfl
  · rintro ⟨q, hq, misfit⟩
    rw [runs, byId, Custom.body, if_neg fun all => misfit (listed.1 all q hq), contain_play]
    rfl

def mixedCase : CustomBlock := ⟨"p", "d", "f %s %s %b %s", ["aB", "q", "C", "z"], ["n", "m", "k", "l"]⟩

/-- It was called before, and is called with a branch, a reporter and a constant, and without its last
parameter. -/
def mixedCall : Table Block :=
  mixedCase.blocks "[\"AB\", \"Q\", \"C\", \"Z\"]" "[\"n\", \"m\", \"k\", \"l\"]" .null ++ [
    ("e", .plain "operator_join" [("STRING1", .literal "x"), ("STRING2", .literal "y")]),
    ("c", .call mixedCase.code [("C", .slot "s"), ("q", .filled "e"), ("aB", .literal "1")])]

theorem binds_supplied_mixedCall : let w := World.ofBlocks mixedCall
    let w1 := (w.enter "Cat" "procedures_call").enter "Cat" "operator_join"
    let inputs : List (String × Value) := [("C", .slot "s"), ("q", .filled "e"), ("aB", .literal "1")]
    let given : List Supply := [⟨"C", .branch (.text "s"), .text "s"⟩,
      ⟨"q", .reporter (.text "e"), .text "xy"⟩, ⟨"aB", .constant (.text "1"), .text "1"⟩]
    (mixedCase.Regular ∧ w1.Lists 0 mixedCase ∧ w.CallsWith (player 8) 0 (.text "c") inputs given w1 ∧
      (∀ q ∈ inputs, q.1 ∈ mixedCase.ids) ∧ (inputs.map Prod.fst).Nodup ∧ ∀ q ∈ given, q.Fits) ∧
    ∃ w2 m, w2.Lists 0 mixedCase ∧
      (runWith (player 8) 0 (.text "c") false).play w =
        (contain (.text "c") ((player 8).run 0 (.text "d") true >>= fun _ => Custom.leave m)).play w2 ∧
      (w2.sprite 0).argument? w2.current (.text "n") = .ok (.text "1") ∧
      (w2.sprite 0).argument? w2.current (.text "m") = .ok (.text "xy") ∧
      (w2.sprite 0).argument? w2.current (.text "k") = .ok (.text "s") := by
  intro w w1 inputs given
  have regular : mixedCase.Regular := ⟨by decide, by decide, by decide, rfl, by decide⟩
  have lists : w1.Lists 0 mixedCase := by
    have ids : Expression.upperCase^[1] (Expression.listText 1 mixedCase.ids) =
        "[\"AB\", \"Q\", \"C\", \"Z\"]" := by
      show Expression.upperCase (Expression.listText 1 mixedCase.ids) = _
      rw [Expression.upperCase_listText]
      decide
    have names : Expression.listText 1 mixedCase.names = "[\"n\", \"m\", \"k\", \"l\"]" := by decide
    refine ⟨rfl, rfl, nofun, rfl, rfl, _, _, 1, 1, rfl, rfl, ?_, ⟨_, rfl, ?_⟩, ?_, ?_⟩
    · rw [ids]
      rfl
    · rw [← names]
      exact Expression.writes_listText 1 (by decide)
    · simp [Value.isFlat, Value.isSimple]
    · simp
  have calls : w.CallsWith (player 8) 0 (.text "c") inputs given w1 := {
    met := ⟨"Cat", _, ⟨rfl, rfl, rfl⟩, rfl, ⟨rfl, [], rfl, rfl⟩,
      .cons rfl rfl (.cons rfl rfl (.cons rfl rfl .nil))⟩
    free := rfl
    fuelled := by decide
    coded := ⟨_, _, _, rfl, rfl, rfl⟩
    able := rfl
    simple := by simp [given, Value.isSimple] }
  have known : ∀ q ∈ inputs, q.1 ∈ mixedCase.ids := by simp [inputs, mixedCase]
  have fits : ∀ q ∈ given, q.Fits := by decide
  refine ⟨⟨regular, lists, calls, known, by decide, fits⟩, ?_⟩
  obtain ⟨w2, m, n, lists2, -, binds, -⟩ :=
    World.Lists.binds_supplied 7 regular lists calls known (by decide)
  obtain ⟨runs, reads⟩ := binds fits
  refine ⟨w2, m, lists2, runs, ?_, ?_, ?_⟩
  · exact (reads _ (.tail _ (.tail _ (.head _))) "n" (by decide)).1
  · exact (reads _ (.tail _ (.head _)) "m" (by decide)).1
  · exact (reads _ (.head _) "k" (by decide)).1

/-- A custom block that says its parameter, which a branch supplies under an id in lower case. -/
def lowerCaseBranch : Table Block :=
  (CustomBlock.mk "p" "d" "f %b" ["a"] ["n"]).blocks "[\"a\"]" "[\"n\"]" (.text "t") ++ [
    ("t", .plain "looks_say" [("MESSAGE", .filled "r")]),
    ("r", ⟨[("opcode", .text "argument_reporter_string_number"), ("next", .null), ("inputs", .record []),
      ("fields", .record [("VALUE", .list [.text "n", .null])])]⟩),
    ("e", .plain "operator_join" [("STRING1", .literal "e"), ("STRING2", .literal "")]),
    ("c", .call "f %b" [("a", .slot "e")])]

/-- The argument is not bound, and the body does not start. -/
theorem lowerCaseBranch_unbound :
    ((runBlock 0 (.text "c")).play (World.ofBlocks lowerCaseBranch)).2.log.toList =
      [.entered "Cat" "procedures_call", .blockFailed "c" (.raised "KeyError" "" 0)] := by
  decide +kernel

end BlockStage
