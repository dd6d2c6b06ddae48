import BlockStage.Proofs.Custom.Entering
import Mathlib.Data.List.Induction

/-!
# The parameters of a custom block

A prototype has a text with the ids and one with the names of its parameters (`Declares`). It lists the same
once the ids are written in upper case (`Declares.put_ids`), and the name of a parameter is the last that is
paired with its id (`Declares.name?_eq`). A value is put among the bindings under it (`Binding.put`).
-/

namespace BlockStage

open World

/-! ## Bindings -/

theorem Value.alike_text (v : Value) (s : String) : v.alike (.text s) = true ↔ v = .text s := by
  cases v <;> simp [Value.alike, Value.bothNaN, Value.same]

theorem Value.text_alike (v : Value) (s : String) : (Value.text s).alike v = true ↔ v = .text s := by
  cases v
  case text t => simp [Value.alike, Value.bothNaN, Value.same, @eq_comm _ s t]
  all_goals simp [Value.alike, Value.bothNaN, Value.same]

namespace Binding

def isFor (thread : Nat) (name : String) (b : Binding) : Bool :=
  b.thread = thread && b.name.alike (.text name)

/-- A text is bound to a value that nothing has to be made for. -/
structure IsPlain (b : Binding) : Prop where
  name : ∃ s, b.name = .text s
  value : b.value.isSimple = true

/-- The bindings with another value for a script and a name. -/
def put (bs : List Binding) (thread : Nat) (name : String) (v : Value) : List Binding :=
  if bs.any (isFor thread name) then
    bs.map fun b => if b.isFor thread name then { b with value := v } else b
  else bs ++ [⟨thread, .text name, v⟩]

theorem isPlain_put {bs : List Binding} (plain : ∀ b ∈ bs, b.IsPlain) (thread : Nat) (name : String)
    {v : Value} (hv : v.isSimple = true) : ∀ b ∈ put bs thread name v, b.IsPlain := by
  intro b hb
  unfold put at hb
  split at hb
  · obtain ⟨b', hb', rfl⟩ := List.mem_map.1 hb
    split
    · exact ⟨(plain b' hb').name, hv⟩
    · exact plain b' hb'
  · rcases List.mem_append.1 hb with hb | hb
    · exact plain b hb
    · rw [List.mem_singleton.1 hb]
      exact ⟨⟨name, rfl⟩, hv⟩

theorem isFor_iff {thread : Nat} {name : String} {b : Binding} :
    b.isFor thread name = true ↔ b.thread = thread ∧ b.name = .text name := by
  simp [isFor, Value.alike_text]

/-- What is bound for a script and a name is found there, and what was found for others stays. -/
theorem find?_bind (s : Sprite) (thread other : Nat) (name v : Value) (x : String) :
    ((s.bind thread name v).arguments.find? (isFor other x)).map Binding.value =
      if isFor other x ⟨thread, name, v⟩ then some v
      else (s.arguments.find? (isFor other x)).map Binding.value := by
  let isBound (b : Binding) : Bool := b.thread = thread && b.name.alike name
  -- A binding of a text is for one script and one name.
  have one (b : Binding) (hb : b.isFor other x = true) : isBound b = isFor other x ⟨thread, name, v⟩ := by
    obtain ⟨hthread, hname⟩ := isFor_iff.1 hb
    rw [Bool.eq_iff_iff, isFor_iff]
    simp only [isBound, hthread, hname, Bool.and_eq_true, decide_eq_true_eq, Value.text_alike,
      @eq_comm _ other]
  unfold Sprite.bind
  dsimp only
  split
  · next known =>
    have same : (isFor other x ∘ fun b : Binding => if isBound b then { b with value := v } else b) =
        isFor other x := by
      funext b
      simp only [Function.comp]
      split <;> rfl
    rw [List.find?_map, same]
    cases found : s.arguments.find? (isFor other x) with
    | none =>
      rw [if_neg]
      · rfl
      intro here
      obtain ⟨rfl, rfl⟩ := isFor_iff.1 here
      obtain ⟨b, hb, hfor⟩ := List.any_eq_true.1 known
      exact List.find?_eq_none.1 found b hb hfor
    | some b =>
      rw [← one b (List.find?_some found), Option.map_some, Option.map_some, Option.map_some]
      split <;> rfl
  · next new =>
    rw [List.find?_append]
    cases here : isFor other x ⟨thread, name, v⟩ with
    | true =>
      obtain ⟨rfl, rfl⟩ := isFor_iff.1 here
      have none : s.arguments.find? (isFor thread x) = none :=
        List.find?_eq_none.2 fun b hb hfor => new (List.any_eq_true.2 ⟨b, hb, hfor⟩)
      simp [none, here]
    | false => simp [here]

theorem find?_put (bs : List Binding) (thread other : Nat) (name x : String) (v : Value) :
    ((put bs thread name v).find? (isFor other x)).map Binding.value =
      if thread = other ∧ name = x then some v else (bs.find? (isFor other x)).map Binding.value := by
  let s : Sprite := ⟨[], 0, none, bs⟩
  have same : (s.bind thread (.text name) v).arguments = put bs thread name v := rfl
  have bound := find?_bind s thread other (.text name) v x
  simpa only [same, isFor_iff, Value.text.injEq] using bound

end Binding

theorem Sprite.argument?_text {s : Sprite} (h : Table.get? s.fields "argument_dict" = some .shared)
    (thread : Nat) (name : String) : s.argument? thread (.text name) =
      match (s.arguments.find? (Binding.isFor thread name)).map Binding.value with
      | some v => .ok v
      | none => .error .missingKey := by
  have bound : s.bindings? = pure s.arguments := by
    simp only [Sprite.bindings?, Sprite.get?, Sprite.argumentsKey, h]
    rfl
  have same : s.arguments.find? (fun b => b.thread = thread && b.name.alike (.text name)) =
      s.arguments.find? (Binding.isFor thread name) := rfl
  rw [Sprite.argument?, bound, pure_bind, if_neg (by simp [Value.canName]), same]
  cases s.arguments.find? (Binding.isFor thread name) <;> rfl

/-! ## Blocks -/

namespace Block

/-- A table of blocks with another part of one of them. -/
def amendIn (t : Table Block) (id key : String) (v : Value) : Table Block :=
  match Table.get? t id with
  | some b => Table.put t id ⟨Table.put b.fields key v⟩
  | none => t

variable {t : Table Block} {id key : String}

theorem get?_amendIn {b : Block} (hb : Table.get? t id = some b) (v : Value) :
    Table.get? (amendIn t id key v) id = some ⟨Table.put b.fields key v⟩ := by
  rw [amendIn, hb]
  exact Table.get?_put_self ..

theorem amendIn_amendIn (t : Table Block) (id key : String) (v v' : Value) :
    amendIn (amendIn t id key v) id key v' = amendIn t id key v' := by
  cases hb : Table.get? t id with
  | none => simp [amendIn, hb]
  | some b =>
    rw [amendIn, get?_amendIn hb]
    simp only [amendIn, hb, Table.put_put]

theorem amendIn_of_get? {b : Block} {v : Value} (hb : Table.get? t id = some b)
    (hv : Table.get? b.fields key = some v) : amendIn t id key v = t := by
  rw [amendIn, hb]
  dsimp only
  rw [Table.put_of_get? hv, Table.put_of_get? hb]

end Block

/-- A kit in which a prototype says something else. -/
def Kit.amend (kit : Kit) (id : String) (mutation : Value) : Kit :=
  { kit with blocks := Block.amendIn kit.blocks id "mutation" mutation }

theorem Kit.amend_amend (kit : Kit) (id : String) (mutation mutation' : Value) :
    (kit.amend id mutation).amend id mutation' = kit.amend id mutation' := by
  simp only [Kit.amend, Block.amendIn_amendIn]

theorem modify_congr {α : Type} {l : List α} {i : Nat} {d : α} {f g : α → α}
    (h : f (l.getD i d) = g (l.getD i d)) : l.modify i f = l.modify i g := by
  refine List.ext_getElem? fun j => ?_
  rw [List.getElem?_modify, List.getElem?_modify]
  by_cases hj : i = j
  · subst hj
    cases here : l[i]? with
    | none => rfl
    | some a =>
      rw [List.getD_eq_getElem?_getD, here] at h
      simpa using h
  · simp [hj]

theorem getD_modify {α : Type} {l : List α} {i : Nat} {d : α} (h : l.getD i d ≠ d) (f : α → α) :
    (l.modify i f).getD i d = f (l.getD i d) := by
  rw [List.getD_eq_getElem?_getD] at h
  rw [List.getD_eq_getElem?_getD, List.getD_eq_getElem?_getD, List.getElem?_modify]
  cases here : l[i]? with
  | none => exact absurd (by rw [here]; rfl) h
  | some a => simp

theorem World.updateKit_congr (w : World) {k : Nat} {f g : Kit → Kit}
    (h : f (w.kit k) = g (w.kit k)) : w.updateKit k f = w.updateKit k g := by
  rw [World.updateKit, World.updateKit, modify_congr h]

/-! ## What a prototype says -/

def Value.isFlat : Value → Bool
  | .list items => items.all Value.isSimple
  | v => v.isSimple

namespace Expression

def Writes (s : String) (texts : List String) : Prop :=
  parse? s = .ok (.row .list (texts.map fun t => .datum (.text t)))

/-- What a prototype says of its parameters: their ids, which read the same however often they are brought
to upper case, and their names. -/
structure Declares (fields : Table Value) (ids names : List String) : Prop where
  hasIds : ∃ s, Table.get? fields "argumentids" = some (.text s) ∧ ∀ n, Writes (upperCase^[n + 1] s) ids
  hasNames : ∃ s, Table.get? fields "argumentnames" = some (.text s) ∧ Writes s names
  flat : ∀ q ∈ fields, q.2.isFlat = true
  distinct : (fields.map Prod.fst).Nodup
  few : (ids.zip names).length < Datum.walkLimit

theorem Datum.alike_text (s t : String) : (Datum.text s).alike (.text t) = (s == t) := by
  simp [alike, bothNaN, Value.bothNaN, same, Value.same, Datum.text]

/-- Texts with texts, as an evaluation sees them. -/
def textPairs (pairs : List (String × String)) : List (Datum × Datum) :=
  pairs.map fun q => (.text q.1, .text q.2)

theorem pairs?_texts (ids names : List String) :
    Parameter.pairs? (.row .list (ids.map .text)) (.row .list (names.map .text)) =
      .ok (textPairs (ids.zip names)) := by
  have named : ∀ pairs, (textPairs pairs).forM (fun p => p.1.needName) = .ok () := by
    intro pairs
    induction pairs with
    | nil => rfl
    | cons q rest ih => exact ih
  have zipped : (ids.map Datum.text).zip (names.map Datum.text) = textPairs (ids.zip names) := List.zip_map ..
  show (((ids.map Datum.text).zip (names.map Datum.text)).forM fun p => p.1.needName) >>= _ = _
  rw [zipped, named]
  rfl

/-- Of pairs with the same id, the last is found. -/
theorem find?_textPairs (pairs : List (String × String)) (key : String) :
    ((textPairs pairs).reverse.find? fun p => p.1.alike (.text key)).map Prod.snd =
      (Table.get? (Table.ofPairs pairs) key).map .text := by
  induction pairs using List.reverseRecOn with
  | nil => rfl
  | append_singleton pairs q ih =>
    have last : (textPairs (pairs ++ [q])).reverse = (.text q.1, .text q.2) :: (textPairs pairs).reverse := by
      simp [textPairs]
    have table : Table.ofPairs (pairs ++ [q]) = Table.put (Table.ofPairs pairs) q.1 q.2 :=
      List.foldl_concat ..
    rw [last, table, List.find?_cons, Datum.alike_text]
    by_cases hq : q.1 = key
    · simp [hq]
    · rw [Table.get?_put_of_ne _ _ hq, ← ih, beq_false_of_ne hq]

theorem Writes.said? {s : String} {texts : List String} (h : Writes s texts) :
    Parameter.said? s = .ok (.row .list (texts.map .text)) := by
  have literals : ∀ texts : List String,
      Expr.literals? (texts.map fun t => .datum (.text t)) = some (texts.map .text) := by
    intro texts
    induction texts with
    | nil => rfl
    | cons t rest ih => simp [Expr.literals?, Expr.literal?, ih]; rfl
  simp only [Parameter.said?, literal?, show parse? s = _ from h, Expr.literal?, literals, Option.map_some,
    Option.getD_some]

theorem Writes.isSome {s : String} {texts : List String} (h : Writes s texts) : (literal? s).isSome := by
  have said := h.said?
  unfold Parameter.said? at said
  cases hs : literal? s with
  | none => rw [hs] at said; cases said
  | some d => rfl

namespace Declares

variable {fields : Table Value} {ids names : List String} {s : String}

theorem isPlain (h : Declares fields ids names) (n : Nat) : Parameter.isPlain n (.record fields) = true := by
  have raised : ∀ n s, (∀ n, Writes (upperCase^[n + 1] s) ids) → Parameter.areLiteralIds n s = true := by
    intro n
    induction n with
    | zero => exact fun _ _ => rfl
    | succ n ih =>
      intro s writes
      have first : (literal? (upperCase s)).isSome = true := (writes 0).isSome
      rw [Parameter.areLiteralIds, first, ih _ fun n => writes (n + 1)]
      rfl
  obtain ⟨s, hs, writes⟩ := h.hasIds
  obtain ⟨t, ht, writes'⟩ := h.hasNames
  simp only [Parameter.isPlain, Parameter.fits, hs, ht, raised n s writes, writes'.isSome, Bool.and_self]

theorem put_ids (h : Declares fields ids names) (hs : Table.get? fields "argumentids" = some (.text s)) :
    Declares (Table.put fields "argumentids" (.text (upperCase s))) ids names := by
  obtain ⟨_, hs', writes⟩ := h.hasIds
  cases hs.symm.trans hs'
  obtain ⟨t, ht, writes'⟩ := h.hasNames
  refine ⟨⟨_, Table.get?_put_self .., fun n => writes (n + 1)⟩,
    ⟨t, by rw [Table.get?_put_of_ne _ _ (by decide), ht], writes'⟩, fun q hq => ?_,
    Table.nodup_put h.distinct _ _, h.few⟩
  rcases Table.mem_put hq with old | rfl
  · exact h.flat q old
  · rfl

theorem name?_eq (h : Declares fields ids names) {raised : String} (writes : Writes raised ids)
    (key : String) : Parameter.name? raised fields key =
      match Table.get? (Table.ofPairs (ids.zip names)) key with
      | some name => .ok (.text name)
      | none => .error (.raised "KeyError" "" 0) := by
  obtain ⟨t, ht, writes'⟩ := h.hasNames
  have found := find?_textPairs (ids.zip names) key
  have text : Parameter.text? fields "argumentnames" = .ok t := by
    simp only [Parameter.text?, Value.field?, ht]
    rfl
  simp only [Parameter.name?, writes.said?, text, writes'.said?, pairs?_texts, bind, Except.bind]
  cases known : Table.get? (Table.ofPairs (ids.zip names)) key with
  | none =>
    rw [known] at found
    rw [Option.map_eq_none_iff.1 found]
    rfl
  | some name =>
    rw [known] at found
    obtain ⟨p, hp, hname⟩ := Option.map_eq_some_iff.1 found
    rw [hp]
    exact congrArg Except.ok hname

end Declares

end Expression

end BlockStage
