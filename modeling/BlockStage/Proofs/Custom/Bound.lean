import BlockStage.Proofs.Custom.Parameters

/-!
# Arguments of a call

Binding an argument brings the ids of the prototype to upper case, and binds the value for the script that
calls, under the name that is paired with its id (`Parameter.bindOne_play`); nothing else changes
(`World.Bound`). Arguments are bound up to the first that is not listed: `Parameter.bindAll_play`.
-/

namespace BlockStage

open World

/-- The bindings with other values for a script, each under a name, one after the other. -/
def Binding.putAll (bs : List Binding) (thread : Nat) (given : List (String × Value)) : List Binding :=
  given.foldl (fun bs q => put bs thread q.1 q.2) bs

theorem Binding.isPlain_putAll {bs : List Binding} (plain : ∀ b ∈ bs, b.IsPlain) {thread : Nat}
    {given : List (String × Value)} (simple : ∀ q ∈ given, q.2.isSimple = true) :
    ∀ b ∈ putAll bs thread given, b.IsPlain := by
  induction given generalizing bs with
  | nil => exact plain
  | cons q rest ih =>
    obtain ⟨hq, hrest⟩ := List.forall_mem_cons.1 simple
    exact ih (isPlain_put plain thread q.1 hq) hrest

theorem Binding.find?_putAll (bs : List Binding) (thread : Nat) (given : List (String × Value)) (other : Nat)
    (s : String) : ((putAll bs thread given).find? (isFor other s)).map Binding.value =
      match (if thread = other then Table.get? (Table.ofPairs given) s else none) with
      | some v => some v
      | none => (bs.find? (isFor other s)).map Binding.value := by
  induction given using List.reverseRecOn with
  | nil =>
    rw [show (if thread = other then Table.get? (Table.ofPairs ([] : List (String × Value))) s else none) =
      none by split <;> rfl]
    rfl
  | append_singleton given q ih =>
    have last : putAll bs thread (given ++ [q]) = put (putAll bs thread given) thread q.1 q.2 :=
      List.foldl_concat ..
    have table : Table.ofPairs (given ++ [q]) = Table.put (Table.ofPairs given) q.1 q.2 :=
      List.foldl_concat ..
    rw [last, find?_put, ih, table]
    by_cases ht : thread = other
    · by_cases hs : q.1 = s
      · simp [ht, hs]
      · simp [ht, hs, Table.get?_put_of_ne _ _ hs]
    · simp [ht]

/-- The world once a call of a custom block has bound its arguments: the prototype may say something
else, the sprite has these bindings, and something was made. -/
def World.amend (w : World) (me : Nat) (prototype : String) (mutation : Value) (bound : List Binding)
    (m : Expression.Memory) : World :=
  { (w.updateKit (w.sprite me).kit fun kit => kit.amend prototype mutation).updateSprite me
      fun s => { s with arguments := bound } with memory := m }

/-! ## A sprite that can be called -/

/-- A sprite has its blocks and what scripts have bound, and a prototype among its blocks lists the ids
and the names of parameters. -/
structure World.Offers (w : World) (me : Nat) (prototype : String) (ids names : List String) : Prop where
  blocks : Table.get? (w.sprite me).fields "blocks" = some .shared
  bindings : Table.get? (w.sprite me).fields "argument_dict" = some .shared
  declared : ∃ b fields, Table.get? (w.kit (w.sprite me).kit).blocks prototype = some b ∧
    Table.get? b.fields "mutation" = some (.record fields) ∧ Expression.Declares fields ids names
  plain : ∀ b ∈ (w.sprite me).arguments, b.IsPlain

namespace World

variable {w : World} {me : Nat} {prototype : String} {ids names : List String}

theorem sprite_updateSprite_self {i : Nat} {key : String} {v : Value}
    (h : Table.get? (w.sprite i).fields key = some v) (f : Sprite → Sprite) :
    (w.updateSprite i f).sprite i = f (w.sprite i) := by
  refine getD_modify (fun none => ?_) f
  rw [show w.sprite i = default from none] at h
  cases h

theorem kit_updateKit_self {k : Nat} {id : String} {b : Block}
    (h : Table.get? (w.kit k).blocks id = some b) (f : Kit → Kit) :
    (w.updateKit k f).kit k = f (w.kit k) := by
  refine getD_modify (fun none => ?_) f
  rw [show w.kit k = default from none] at h
  cases h

/-- A sprite that stays what it is leaves the world as it was. -/
theorem updateSprite_same {i : Nat} {f : Sprite → Sprite} (same : f (w.sprite i) = w.sprite i) :
    w.updateSprite i f = w := by
  have sprites : w.sprites.modify i f = w.sprites.modify i id := modify_congr (d := default) same
  rw [World.updateSprite, sprites, List.modify_id]

theorem updateSprite_arguments (w : World) (me : Nat) :
    w.updateSprite me (fun s => { s with arguments := (w.sprite me).arguments }) = w :=
  updateSprite_same rfl

namespace Offers

theorem sprite_amend (h : w.Offers me prototype ids names) (mutation : Value) (bound : List Binding)
    (m : Expression.Memory) : (w.amend me prototype mutation bound m).sprite me =
      { w.sprite me with arguments := bound } :=
  sprite_updateSprite_self (w := w.updateKit _ _) h.blocks _

theorem kit_amend (h : w.Offers me prototype ids names) (mutation : Value) (bound : List Binding)
    (m : Expression.Memory) : ((w.amend me prototype mutation bound m).kit (w.sprite me).kit).blocks =
      Block.amendIn (w.kit (w.sprite me).kit).blocks prototype "mutation" mutation := by
  obtain ⟨b, fields, hb, -⟩ := h.declared
  exact congrArg Kit.blocks (kit_updateKit_self hb _)

theorem amend (h : w.Offers me prototype ids names) {fields : Table Value}
    (declares : Expression.Declares fields ids names) {bound : List Binding}
    (plain : ∀ b ∈ bound, b.IsPlain) (m : Expression.Memory) :
    (w.amend me prototype (.record fields) bound m).Offers me prototype ids names := by
  obtain ⟨b, fields', hb, -⟩ := h.declared
  have sprite := h.sprite_amend (.record fields) bound m
  refine ⟨by rw [sprite]; exact h.blocks, by rw [sprite]; exact h.bindings, ?_, by rw [sprite]; exact plain⟩
  refine ⟨⟨Table.put b.fields "mutation" (.record fields)⟩, fields, ?_, Table.get?_put_self .., declares⟩
  rw [sprite, h.kit_amend]
  exact Block.get?_amendIn hb _

/-- What comes of two calls is as if only the second had been. -/
theorem amend_amend (h : w.Offers me prototype ids names) (mutation mutation' : Value)
    (bound bound' : List Binding) (m m' : Expression.Memory) :
    (w.amend me prototype mutation bound m).amend me prototype mutation' bound' m' =
      w.amend me prototype mutation' bound' m' := by
  have kit : ((w.amend me prototype mutation bound m).sprite me).kit = (w.sprite me).kit := by
    rw [h.sprite_amend]
  have kits : ∀ k, (w.kits.modify k fun kit => kit.amend prototype mutation).modify k (fun kit =>
      kit.amend prototype mutation') = w.kits.modify k fun kit => kit.amend prototype mutation' := by
    intro k
    rw [List.modify_modify_eq]
    exact congrArg (w.kits.modify k) (funext fun kit => kit.amend_amend prototype mutation mutation')
  have sprites : (w.sprites.modify me fun s => { s with arguments := bound }).modify me (fun s =>
      { s with arguments := bound' }) = w.sprites.modify me fun s => { s with arguments := bound' } :=
    List.modify_modify_eq ..
  rw [World.amend, kit]
  simp only [World.amend, World.updateKit, World.updateSprite, kits, sprites]

end Offers

/-- Some values were bound one after the other for the script that runs, each under a name; beside that, the
prototype may say its ids in another way, and something was made. -/
def Bound (me : Nat) (prototype : String) (ids names : List String) (given : List (String × Value))
    (w w' : World) : Prop :=
  ∃ said m, Expression.Declares said ids names ∧
    w' = w.amend me prototype (.record said) (Binding.putAll (w.sprite me).arguments w.current given) m

namespace Bound

variable {given given' : List (String × Value)} {w' w'' : World}

/-- A prototype says something that lists its parameters. -/
theorem said (offers : w.Offers me prototype ids names) : ∃ said, Expression.Declares said ids names ∧
    (w.updateKit (w.sprite me).kit fun kit => kit.amend prototype (.record said)) = w := by
  obtain ⟨b, said, hb, hm, declares⟩ := offers.declared
  refine ⟨said, declares, ?_⟩
  have kits : w.kits.modify (w.sprite me).kit (fun kit => kit.amend prototype (.record said)) =
      w.kits.modify (w.sprite me).kit id :=
    modify_congr (d := default) <|
      congrArg (fun t => { w.kit (w.sprite me).kit with blocks := t }) (Block.amendIn_of_get? hb hm)
  rw [World.updateKit, kits, List.modify_id]

theorem refl (offers : w.Offers me prototype ids names) (m : Expression.Memory) :
    w.Bound me prototype ids names [] { w with memory := m } := by
  obtain ⟨said, declares, same⟩ := said offers
  refine ⟨said, m, declares, ?_⟩
  rw [World.amend, same]
  exact congrArg (fun v : World => { v with memory := m }) (w.updateSprite_arguments me).symm

theorem one (offers : w.Offers me prototype ids names) (name : String) (v : Value) :
    w.Bound me prototype ids names [(name, v)] (w.updateSprite me fun s =>
      { s with arguments := Binding.put (w.sprite me).arguments w.current name v }) := by
  obtain ⟨said, declares, same⟩ := said offers
  refine ⟨said, w.memory, declares, ?_⟩
  rw [World.amend, same]
  rfl

theorem current (h : w.Bound me prototype ids names given w') : w'.current = w.current := by
  obtain ⟨said, m, -, rfl⟩ := h
  rfl

theorem arguments (offers : w.Offers me prototype ids names)
    (h : w.Bound me prototype ids names given w') :
    (w'.sprite me).arguments = Binding.putAll (w.sprite me).arguments w.current given := by
  obtain ⟨said, m, -, rfl⟩ := h
  rw [offers.sprite_amend]

theorem offers (offers : w.Offers me prototype ids names)
    (simple : ∀ q ∈ given, q.2.isSimple = true) (h : w.Bound me prototype ids names given w') :
    w'.Offers me prototype ids names := by
  obtain ⟨said, m, declares, rfl⟩ := h
  exact offers.amend declares (Binding.isPlain_putAll offers.plain simple) m

theorem trans (offers : w.Offers me prototype ids names) (h : w.Bound me prototype ids names given w')
    (h' : w'.Bound me prototype ids names given' w'') :
    w.Bound me prototype ids names (given ++ given') w'' := by
  have arguments := h.arguments offers
  have current := h.current
  obtain ⟨said, m, -, rfl⟩ := h
  obtain ⟨said', m', declares', rfl⟩ := h'
  refine ⟨said', m', declares', ?_⟩
  rw [offers.amend_amend, arguments, current, Binding.putAll, Binding.putAll, Binding.putAll,
    List.foldl_append]

/-- A name reads the value that was bound to it last, and for other scripts nothing has changed. -/
theorem argument? (offers : w.Offers me prototype ids names)
    (simple : ∀ q ∈ given, q.2.isSimple = true) (h : w.Bound me prototype ids names given w')
    (thread : Nat) (name : String) : (w'.sprite me).argument? thread (.text name) =
      match (if w.current = thread then Table.get? (Table.ofPairs given) name else none) with
      | some v => .ok v
      | none => (w.sprite me).argument? thread (.text name) := by
  rw [Sprite.argument?_text (h.offers offers simple).bindings, h.arguments offers,
    Binding.find?_putAll, Sprite.argument?_text offers.bindings]
  cases (if w.current = thread then Table.get? (Table.ofPairs given) name else none) <;> rfl

end Bound

/-- A prototype of a sprite writes its ids as some text. -/
def WritesIds (w : World) (me : Nat) (prototype s : String) : Prop :=
  ∃ b fields, Table.get? (w.kit (w.sprite me).kit).blocks prototype = some b ∧
    Table.get? b.fields "mutation" = some (.record fields) ∧
    Table.get? fields "argumentids" = some (.text s)

/-- The ids that a prototype writes were brought to upper case some number of times. -/
def Raises (me : Nat) (prototype : String) (w w' : World) : Prop :=
  ∀ s, w.WritesIds me prototype s → ∃ n, w'.WritesIds me prototype (Expression.upperCase^[n] s)

namespace Raises

variable {w' w'' : World}

theorem of_kits (kit : (w'.sprite me).kit = (w.sprite me).kit) (kits : w'.kits = w.kits) :
    w.Raises me prototype w' := by
  intro s writes
  refine ⟨0, ?_⟩
  rw [WritesIds, kit, World.kit, kits]
  exact writes

theorem trans (h : w.Raises me prototype w') (h' : w'.Raises me prototype w'') :
    w.Raises me prototype w'' := by
  intro s writes
  obtain ⟨n, once⟩ := h s writes
  obtain ⟨n', twice⟩ := h' _ once
  refine ⟨n' + n, ?_⟩
  rw [Function.iterate_add_apply]
  exact twice

end Raises

end World

/-! ## Arguments of a call -/

/-- The arguments that a call binds, by the names of the parameters: those before the first one that the
prototype does not list. -/
def Custom.bound (byId : Table String) : Arguments → List (String × Value)
  | [] => []
  | (id, v) :: rest =>
    match Table.get? byId id with
    | some name => (name, v) :: Custom.bound byId rest
    | none => []

theorem Custom.isSimple_bound {byId : Table String} {args : Arguments}
    (simple : ∀ q ∈ args, q.2.isSimple = true) : ∀ q ∈ Custom.bound byId args, q.2.isSimple = true := by
  fun_induction Custom.bound byId args with
  | case1 => exact nofun
  | case2 id v rest name known ih =>
    obtain ⟨hv, hrest⟩ := List.forall_mem_cons.1 simple
    exact List.forall_mem_cons.2 ⟨hv, ih hrest⟩
  | case3 => exact nofun

namespace Parameter

open Expression

variable {p : Player} {w : World} {me : Nat} {prototype : String} {ids names : List String}

theorem areLiteral_of_offers (offers : w.Offers me prototype ids names) (n : Nat) :
    areLiteral w me prototype n = true := by
  obtain ⟨b, fields, hb, hm, declares⟩ := offers.declared
  have blocks : isOwn (w.sprite me) "blocks" = true := by rw [isOwn, offers.blocks]
  have bindings : isOwn (w.sprite me) Sprite.argumentsKey = true := by
    rw [isOwn, show Sprite.argumentsKey = "argument_dict" from rfl, offers.bindings]
  simp [areLiteral, blocks, bindings, hb, hm, declares.isPlain n]

theorem mutation?_of_offers {b : Block} {fields : Table Value} (offers : w.Offers me prototype ids names)
    (hb : Table.get? (w.kit (w.sprite me).kit).blocks prototype = some b)
    (hm : Table.get? b.fields "mutation" = some (.record fields)) :
    mutation? w me prototype = .ok fields := by
  have found : w.block? me (.text prototype) = .ok b := by
    simp only [World.block?, World.blocks?, Sprite.get?, offers.blocks, Value.find?, bind, Except.bind, pure,
      Except.pure, hb]
  simp only [mutation?, found, Block.get?, Value.field?, hm, bind, Except.bind]
  rfl

theorem write?_place {b : Block} {old : Value}
    (hb : Table.get? (w.kit (w.sprite me).kit).blocks prototype = some b)
    (hm : Table.get? b.fields "mutation" = some old) (v : Value) : w.write? (place w me prototype) v =
      some (w.updateKit (w.sprite me).kit fun kit => kit.amend prototype v) := by
  rw [place, write?_part, hb, Option.bind_some, hm]
  refine congrArg some (World.updateKit_congr w ?_)
  simp only [Kit.amend, Block.amendIn, hb]

/-- To bind an argument, the ids of the prototype are brought to upper case. Then the value is bound under
the name that is paired with its id, if there is one. -/
theorem bindOne_play (offers : w.Offers me prototype ids names) (id : String) (v : Value) : ∃ w1,
    (w.Bound me prototype ids names [] w1 ∧ w.Raises me prototype w1) ∧
      ((bindOne me prototype id v).perform p).play w =
        match Table.get? (Table.ofPairs (ids.zip names)) id with
        | some name => (.ok (), w1.updateSprite me fun s =>
            { s with arguments := Binding.put (w1.sprite me).arguments w1.current name v })
        | none => (.error (.fault (.error (.raised "KeyError" "" 0))), w1) := by
  obtain ⟨b, fields, hb, hm, declares⟩ := offers.declared
  obtain ⟨s, hs, writes⟩ := declares.hasIds
  let said := Table.put fields "argumentids" (.text (upperCase s))
  let w1 := w.updateKit (w.sprite me).kit fun kit => kit.amend prototype (.record said)
  have declares' : Declares said ids names := declares.put_ids hs
  refine ⟨w1, ⟨⟨said, w.memory, declares', ?_⟩, ?_⟩, ?_⟩
  · exact (w1.updateSprite_arguments me).symm
  · rintro s' ⟨b', fields', hb', hm', hs'⟩
    cases hb.symm.trans hb'
    cases hm.symm.trans hm'
    cases hs.symm.trans hs'
    refine ⟨1, ⟨Table.put b.fields "mutation" (.record said)⟩, said, ?_, Table.get?_put_self ..,
      Table.get?_put_self ..⟩
    show Table.get? (w1.kit (w.sprite me).kit).blocks prototype = _
    rw [kit_updateKit_self hb]
    exact Block.get?_amendIn hb _
  · have text : text? fields "argumentids" = .ok s := by
      simp only [text?, Value.field?, hs]
      rfl
    have written : ((Act.ask (.write (place w me prototype) (.record said)) .ret).perform p).play w =
        (.ok (), w1) := by
      show (_, (w.write? (place w me prototype) (.record said)).getD w) = _
      rw [write?_place hb hm]
      rfl
    have named := declares.name?_eq (show Writes (upperCase s) ids from writes 0) id
    have bindings : (w.sprite me).bindings? = .ok (w.sprite me).arguments := by
      simp only [Sprite.bindings?, Sprite.get?, Sprite.argumentsKey, offers.bindings]
      rfl
    rw [bindOne, Act.perform_bind, Act.perform_look, Run.play_get_bind,
      mutation?_of_offers offers hb hm, Act.lift_ok_bind, text, Act.lift_ok_bind, Act.perform_bind,
      Run.play_bind_ok written, named]
    cases Table.get? (Table.ofPairs (ids.zip names)) id with
    | none => rfl
    | some name =>
      dsimp only
      rw [Act.lift_ok_bind, bindings, Act.lift_ok_bind]
      refine congrArg (fun sprites => (_, { w1 with sprites })) (modify_congr (d := default) ?_)
      rfl

/-- The arguments of a call are bound from the first to the last; one that the prototype does not list ends
the call. -/
theorem bindAll_play {args : Arguments} (offers : w.Offers me prototype ids names)
    (simple : ∀ q ∈ args, q.2.isSimple = true) : ∃ w1,
      (w.Bound me prototype ids names (Custom.bound (Table.ofPairs (ids.zip names)) args) w1 ∧
        w.Raises me prototype w1) ∧
      ((bindAll me prototype args).perform p).play w =
        (if args.all fun q => Table.has (Table.ofPairs (ids.zip names)) q.1 then .ok ()
          else .error (.fault (.error (.raised "KeyError" "" 0))), w1) := by
  induction args generalizing w with
  | nil => exact ⟨w, ⟨.refl offers w.memory, .of_kits rfl rfl⟩, rfl⟩
  | cons q rest ih =>
    obtain ⟨id, v⟩ := q
    obtain ⟨hv, hrest⟩ := List.forall_mem_cons.1 simple
    obtain ⟨w1, ⟨bound1, raises1⟩, play1⟩ := bindOne_play (p := p) offers id v
    have offers1 := bound1.offers offers (by simp)
    cases known : Table.get? (Table.ofPairs (ids.zip names)) id with
    | none =>
      rw [known] at play1
      refine ⟨w1, ⟨?_, raises1⟩, ?_⟩
      · rw [Custom.bound, known]
        exact bound1
      · rw [bindAll, Act.perform_bind, Run.play_bind_error play1]
        simp [Table.has, known]
    | some name =>
      rw [known] at play1
      have bound2 := Bound.one offers1 name v
      obtain ⟨w3, ⟨bound3, raises3⟩, play3⟩ := ih (bound2.offers offers1 (by simpa using hv)) hrest
      have raises2 : w1.Raises me prototype (w1.updateSprite me fun s =>
          { s with arguments := Binding.put (w1.sprite me).arguments w1.current name v }) :=
        .of_kits (by rw [sprite_updateSprite_self offers1.blocks]) rfl
      refine ⟨w3, ⟨?_, raises1.trans (raises2.trans raises3)⟩, ?_⟩
      · rw [Custom.bound, known]
        exact bound1.trans offers (bound2.trans offers1 bound3)
      · have listed : Table.has (Table.ofPairs (ids.zip names)) id = true := by rw [Table.has, known]; rfl
        rw [bindAll, Act.perform_bind, Run.play_bind_ok play1, play3, List.all_cons, listed, Bool.true_and]

end Parameter

end BlockStage
