import BlockStage.Proofs.Custom.Bound
import BlockStage.Proofs.Script.Containment

/-!
# Calls of custom blocks

A call binds its arguments (`World.Bound`) and then runs a body, unless an argument is not listed:
`Custom.enter_play`. Which body that is does not depend on what is called: `runWith_call_last`.
-/

namespace BlockStage

open Run World

namespace Custom

/-- What runs once the arguments of a call are bound: the body, if the prototype lists all arguments. -/
def body (p : Player) (me : Nat) (definition : String) (byId : Table String) (args : Arguments)
    (n : Nat) : Run Value :=
  if args.all fun q => Table.has byId q.1 then p.run me (.text definition) true
  else throw (.fault (.error (.raised "KeyError" "" n)))

/-- A call answers nothing. Something may have been made for the value of the body. -/
def leave (m : Expression.Memory) : Run Value := do
  modify fun w => { w with memory := m }
  return .null

end Custom

/-! ## The call -/

namespace Custom

variable {p : Player} {w : World} {me : Nat} {prototype definition : String} {ids names : List String}
  {args : Arguments}

theorem runFrom_play (p : Player) (me : Nat) (flag : Value) (w : World) :
    ((Written.use.runFrom me flag true).perform p).play w = (p.run me flag true).play w := by
  show (attempt (p.run me flag true) >>= fun reply => (Written.use.ofReply reply).perform p).play w = _
  rw [play_bind, play_attempt]
  rcases (p.run me flag true).play w with ⟨(f | _ | _) | v, w'⟩ <;> rfl

theorem enter_play (callee : Callee) (offers : w.Offers me callee.prototype ids names)
    (simple : ∀ q ∈ args, q.2.isSimple = true) : ∃ w1 m n,
      (w.Bound me callee.prototype ids names (bound (Table.ofPairs (ids.zip names)) args) w1 ∧
        w.Raises me callee.prototype w1) ∧
      ((enter me callee args).perform p).play w =
        (body p me callee.definition (Table.ofPairs (ids.zip names)) args n >>= fun _ => leave m).play w1 := by
  obtain ⟨w1, bound, binds⟩ := Parameter.bindAll_play (p := p) offers simple
  let run := body p me callee.definition (Table.ofPairs (ids.zip names)) args 0
  refine ⟨w1, (run.play w1).2.memory, 0, bound, ?_⟩
  unfold enter
  rw [Act.play_look_bind, Parameter.areLiteral_of_offers offers,
    if_pos rfl, Act.perform_bind]
  by_cases listed : args.all fun q => Table.has (Table.ofPairs (ids.zip names)) q.1
  · rw [if_pos listed] at binds
    have runs : run = p.run me (.text callee.definition) true := if_pos listed
    rw [play_bind_ok binds, Act.perform_bind, play_bind, runFrom_play, ← runs]
    rcases ran : run.play w1 with ⟨stop | v, w2⟩
    · rw [play_bind_error ran]
    · rw [play_bind_ok ran]
      rfl
  · rw [if_neg listed] at binds
    have throws : run = throw (.fault (.error (.raised "KeyError" "" 0))) := if_neg listed
    have fails : run.play w1 = (.error (.fault (.error (.raised "KeyError" "" 0))), w1) := by rw [throws]; rfl
    rw [play_bind_error binds, play_bind_error fails]

end Custom

/-- Block `flag` of a sprite calls a custom block by its code. `w1` is the world once the arguments of the
call are taken, which may have run blocks. -/
structure World.Calls (p : Player) (me : Nat) (flag : Value) (code : String) (args : Arguments)
    (w w1 : World) : Prop where
  met : ∃ name b, w.Meets me flag name b ∧ b.opcode? = .ok (.text "procedures_call") ∧
    ((Arguments.eval me flag).perform p).play (w.enter name "procedures_call") = (.ok args, w1)
  free : (w.sprite me).hides "procedures_call" = false
  fuelled : 0 < w.fuel
  coded : ∃ b mutation, w1.block? me flag = .ok b ∧ b.get? "mutation" = .ok mutation ∧
    mutation.field? "proccode" = .ok (.text code)
  able : (w1.sprite me).hides "procedure" = false
  simple : ∀ q ∈ args, q.2.isSimple = true

section

variable {p : Player} {w w1 : World} {me : Nat} {flag : Value} {code prototype definition : String}
  {ids names : List String} {args : Arguments}

/-- What a call does once its arguments are taken: it looks for the last prototype and for its last
definition. -/
theorem Custom.act_call {w0 : World} (calls : w.Calls p me flag code args w1)
    (taken : ((Arguments.eval me flag).perform p).play w0 = (.ok args, w1))
    (hprototype : prototype? (w1.blocks me) = some prototype)
    (hdefinition : definition? (w1.blocks me) prototype = some definition)
    (offers : w1.Offers me prototype ids names) : ∃ w2 m n,
      (w1.Bound me prototype ids names (bound (Table.ofPairs (ids.zip names)) args) w2 ∧
        w1.Raises me prototype w2) ∧
      ((act me flag .call).perform p).play w0 =
        (body p me definition (Table.ofPairs (ids.zip names)) args n >>= fun _ => leave m).play w2 := by
  obtain ⟨b, mutation, hb, hm, hcode⟩ := calls.coded
  obtain ⟨w2, m, n, bound, enters⟩ :=
    enter_play (p := p) ⟨prototype, definition, .text code, flag⟩ offers calls.simple
  refine ⟨w2, m, n, bound, ?_⟩
  have able := Sprite.can?_of_free calls.able
  have callee : callee? w1 me flag = .ok ⟨prototype, definition, .text code, flag⟩ := by
    simp only [callee?, hb, hm, hcode, hprototype, hdefinition, able, found?, bind, Except.bind, Option.elim]
    rfl
  rw [perform_call, play_bind_ok taken, play_get_bind, callee, lift_ok_bind]
  exact enters

/-- Running a call is running the last definition of the last prototype, with the arguments bound. What is
changed in the prototype is the case of its ids. -/
theorem runWith_call (calls : w.Calls p me flag code args w1)
    (hprototype : Custom.prototype? (w1.blocks me) = some prototype)
    (hdefinition : Custom.definition? (w1.blocks me) prototype = some definition)
    (offers : w1.Offers me prototype ids names) : ∃ w2 m n,
      (w1.Bound me prototype ids names (Custom.bound (Table.ofPairs (ids.zip names)) args) w2 ∧
        w1.Raises me prototype w2) ∧
      (runWith p me flag false).play w =
        (contain flag (Custom.body p me definition (Table.ofPairs (ids.zip names)) args n >>= fun _ =>
          Custom.leave m)).play w2 := by
  obtain ⟨name, b, meets, hop, taken⟩ := calls.met
  obtain ⟨w2, m, n, bound, acts⟩ := Custom.act_call calls taken hprototype hdefinition offers
  refine ⟨w2, m, n, bound, ?_⟩
  have means : Member.ofName? (w.sprite me) "procedures_call" = some (.block (.custom .call)) := by
    rw [Member.ofName?_of_free calls.free (by decide)]
    rfl
  rw [runWith_enters p meets hop means calls.fuelled, contain_play, contain_play,
    show (Opcode.custom Custom.call).act me flag = Custom.act me flag .call from rfl, acts]

end

/-! ## Which definition is run -/

/-- A custom block of a sprite: the ids of its two blocks, its code, and its parameters. -/
structure CustomBlock where
  prototype : String
  definition : String
  code : String
  ids : List String
  names : List String

def CustomBlock.byId (c : CustomBlock) : Table String := Table.ofPairs (c.ids.zip c.names)

/-- A sprite has these custom blocks, with different codes, in the order of their prototypes. -/
structure World.Defines (w : World) (me : Nat) (customs : List CustomBlock) : Prop where
  blocks : Table.get? (w.sprite me).fields "blocks" = some .shared
  bindings : Table.get? (w.sprite me).fields "argument_dict" = some .shared
  plain : ∀ b ∈ (w.sprite me).arguments, b.IsPlain
  distinct : ((w.kit (w.sprite me).kit).blocks.map Prod.fst).Nodup
  prototypes : ((w.kit (w.sprite me).kit).blocks.filter fun q =>
    q.2.hasOpcode "procedures_prototype").map Prod.fst = customs.map CustomBlock.prototype
  definitions : ∀ c ∈ customs, ((w.kit (w.sprite me).kit).blocks.filter fun q =>
    Custom.defines q.2 c.prototype).map Prod.fst = [c.definition]
  declared : ∀ c ∈ customs, ∃ b fields,
    Table.get? (w.kit (w.sprite me).kit).blocks c.prototype = some b ∧
    Table.get? b.fields "mutation" = some (.record fields) ∧
    Table.get? fields "proccode" = some (.text c.code) ∧ Expression.Declares fields c.ids c.names
  codes : (customs.map CustomBlock.code).Nodup

theorem World.blocks_of_shared {w : World} {me : Nat}
    (h : Table.get? (w.sprite me).fields "blocks" = some .shared) :
    w.blocks me = (w.kit (w.sprite me).kit).blocks := by
  simp only [World.blocks, World.blocks?, Sprite.get?, h]
  rfl

theorem Table.find?_last {α : Type} {t : Table α} {p : String × α → Bool} {last : String}
    (before : List String) (h : (t.filter p).map Prod.fst = before ++ [last]) :
    (t.reverse.find? p).map Prod.fst = some last := by
  rw [← List.head?_filter, List.filter_reverse, List.head?_reverse, ← List.getLast?_map, h,
    List.getLast?_concat]

namespace World.Defines

variable {w : World} {me : Nat} {customs before : List CustomBlock} {c c' last : CustomBlock}

theorem offers (h : w.Defines me customs) (hc : c ∈ customs) : w.Offers me c.prototype c.ids c.names := by
  obtain ⟨b, fields, hb, hm, -, declares⟩ := h.declared c hc
  exact ⟨h.blocks, h.bindings, ⟨b, fields, hb, hm, declares⟩, h.plain⟩

theorem blocks_eq (h : w.Defines me customs) : w.blocks me = (w.kit (w.sprite me).kit).blocks :=
  blocks_of_shared h.blocks

theorem prototype? (h : w.Defines me (before ++ [last])) :
    Custom.prototype? (w.blocks me) = some last.prototype := by
  rw [h.blocks_eq]
  refine Table.find?_last (before.map CustomBlock.prototype) ?_
  rw [h.prototypes, List.map_append]
  rfl

theorem definition? (h : w.Defines me customs) (hc : c ∈ customs) :
    Custom.definition? (w.blocks me) c.prototype = some c.definition := by
  rw [h.blocks_eq]
  exact Table.find?_last [] (h.definitions c hc)

/-- Custom blocks with one definition are one custom block. -/
theorem eq_of_definition (h : w.Defines me customs) (hc : c ∈ customs) (hc' : c' ∈ customs)
    (same : c.definition = c'.definition) : c = c' := by
  have found : ∀ c ∈ customs, ∃ b, Table.get? (w.kit (w.sprite me).kit).blocks c.definition = some b ∧
      Custom.defines b c.prototype = true := by
    intro c hc
    have here : c.definition ∈ [c.definition] := .head _
    rw [← h.definitions c hc] at here
    obtain ⟨q, hq, hd⟩ := List.mem_map.1 here
    obtain ⟨mem, defines⟩ := List.mem_filter.1 hq
    exact ⟨q.2, Table.get?_of_mem h.distinct (hd ▸ mem), defines⟩
  obtain ⟨b, hb, defines⟩ := found c hc
  obtain ⟨b', hb', defines'⟩ := found c' hc'
  have prototype : c.prototype = c'.prototype := by
    rw [same, hb'] at hb
    cases hb
    unfold Custom.defines at defines defines'
    split at defines
    · next v hv =>
      rw [hv] at defines'
      exact Value.text.inj ((Value.isText_iff.1 defines).symm.trans (Value.isText_iff.1 defines'))
    · cases defines
  obtain ⟨_, _, hb1, hm1, code, -⟩ := h.declared c hc
  obtain ⟨_, _, hb2, hm2, code', -⟩ := h.declared c' hc'
  rw [prototype, hb2] at hb1
  cases hb1
  cases hm1.symm.trans hm2
  exact List.inj_on_of_nodup_map h.codes hc hc' (Value.text.inj (Option.some.inj (code.symm.trans code')))

end World.Defines

/-- A call runs the last custom block of the sprite, whichever it calls. That is the custom block that was
called exactly if that one is the last. -/
theorem runWith_call_last (depth : Nat) {me : Nat} {flag : Value} {w w1 : World} {args : Arguments}
    {before : List CustomBlock} {last c : CustomBlock} (defines : w1.Defines me (before ++ [last]))
    (hc : c ∈ before ++ [last]) (calls : w.Calls (player (depth + 1)) me flag c.code args w1) :
    (∃ w2 m n, w1.Bound me last.prototype last.ids last.names (Custom.bound last.byId args) w2 ∧
      (runWith (player (depth + 1)) me flag false).play w =
        (contain flag (Custom.body (player (depth + 1)) me last.definition last.byId args n >>= fun _ =>
          Custom.leave m)).play w2) ∧
      (last.definition = c.definition ↔ c = last) := by
  have hlast : last ∈ before ++ [last] := List.mem_append_right _ (.head _)
  obtain ⟨w2, m, n, ⟨bound, -⟩, runs⟩ := runWith_call calls defines.prototype? (defines.definition? hlast)
    (defines.offers hlast)
  refine ⟨⟨w2, m, n, bound, runs⟩, fun same => ?_, fun same => ?_⟩
  · exact defines.eq_of_definition hc hlast same.symm
  · rw [same]

/-! ## Custom blocks as projects write them -/

/-- The two blocks of a custom block, which writes its ids and names as some texts. -/
def CustomBlock.blocks (c : CustomBlock) (ids names : String) (body : Value) : Table Block := [
  (c.definition, .plain "procedures_definition" [("custom_block", .list [Value.int 1, .text c.prototype])]
    body),
  (c.prototype, ⟨(Block.plain "procedures_prototype" []).fields ++ [("mutation", .record [
    ("proccode", .text c.code), ("argumentids", .text ids), ("argumentnames", .text names)])]⟩)]

def Block.call (code : String) (inputs : List (String × Value)) : Block :=
  ⟨(Block.plain "procedures_call" inputs).fields ++ [("mutation", .record [("proccode", .text code)])]⟩

theorem CustomBlock.declares (c : CustomBlock) {ids names : String}
    (upper : Expression.upperCase ids = ids) (hids : Expression.Writes ids c.ids)
    (hnames : Expression.Writes names c.names)
    (few : (c.ids.zip c.names).length < Expression.Datum.walkLimit) :
    Expression.Declares [("proccode", .text c.code), ("argumentids", .text ids),
      ("argumentnames", .text names)] c.ids c.names where
  hasIds := ⟨ids, rfl, fun n => by rwa [Function.iterate_fixed upper]⟩
  hasNames := ⟨names, rfl, hnames⟩
  flat := by simp [Value.isFlat, Value.isSimple]
  distinct := by simp
  few := few

def appear : CustomBlock := ⟨"p1", "d1", "f", [], []⟩

def vanish : CustomBlock := ⟨"p2", "d2", "g", [], []⟩

/-- Both custom blocks, and a call of the first one. -/
def appearAndVanish : Table Block :=
  appear.blocks "[]" "[]" (.text "s1") ++ [("s1", .plain "looks_show" [])] ++
    vanish.blocks "[]" "[]" (.text "s2") ++ [("s2", .plain "looks_hide" []), ("c", .call appear.code [])]

theorem runWith_call_last_vanish : let w := World.ofBlocks appearAndVanish
    let w1 := w.enter "Cat" "procedures_call"
    (w1.Defines 0 ([appear] ++ [vanish]) ∧ appear ∈ [appear] ++ [vanish] ∧
      w.Calls (player 8) 0 (.text "c") appear.code [] w1) ∧
    (∃ w2 m n, w1.Bound 0 vanish.prototype vanish.ids vanish.names (Custom.bound vanish.byId []) w2 ∧
      (runWith (player 8) 0 (.text "c") false).play w =
        (contain (.text "c") (Custom.body (player 8) 0 vanish.definition vanish.byId [] n >>= fun _ =>
          Custom.leave m)).play w2) ∧
      (vanish.definition = appear.definition ↔ appear = vanish) := by
  have empty : Expression.Writes "[]" [] := rfl
  have defines : ((World.ofBlocks appearAndVanish).enter "Cat" "procedures_call").Defines 0
      ([appear] ++ [vanish]) := {
    blocks := rfl
    bindings := rfl
    plain := nofun
    distinct := by decide
    prototypes := rfl
    definitions := by
      intro c hc
      rcases List.mem_pair.1 hc with rfl | rfl <;> rfl
    declared := by
      intro c hc
      rcases List.mem_pair.1 hc with rfl | rfl
      · exact ⟨_, _, rfl, rfl, rfl, appear.declares rfl empty empty (by decide)⟩
      · exact ⟨_, _, rfl, rfl, rfl, vanish.declares rfl empty empty (by decide)⟩
    codes := by decide }
  have calls : (World.ofBlocks appearAndVanish).Calls (player 8) 0 (.text "c") appear.code []
      ((World.ofBlocks appearAndVanish).enter "Cat" "procedures_call") := {
    met := ⟨"Cat", _, ⟨rfl, rfl, rfl⟩, rfl, rfl⟩
    free := rfl
    fuelled := by decide
    coded := ⟨_, _, rfl, rfl, rfl⟩
    able := rfl
    simple := nofun }
  exact ⟨⟨defines, .head _, calls⟩, runWith_call_last 7 defines (.head _) calls⟩

/-- The first custom block is called, and the body of the second one runs. -/
theorem appear_vanishes : let out := (runBlock 0 (.text "c")).play (World.ofBlocks appearAndVanish)
    out.2.log.toList = [.entered "Cat" "procedures_call", .entered "Cat" "procedures_definition",
      .opcodeMissing "procedures_definition", .blockFailed "d2" .unsetLocal,
      .entered "Cat" "looks_hide"] := by
  decide +kernel

end BlockStage
