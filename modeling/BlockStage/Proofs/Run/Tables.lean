import BlockStage.Table
import Mathlib.Data.List.Nodup

/-!
# More on tables

Tables are lists of named entries. A table in which no name stands twice is determined by its entries, and
putting entries keeps it so.
-/

namespace BlockStage

variable {key : String}

namespace Table

variable {α β : Type}

theorem get?_map (f : α → β) (t : Table α) (key : String) :
    get? (t.map fun p => (p.1, f p.2)) key = (get? t key).map f := by
  induction t with
  | nil => rfl
  | cons p rest ih =>
    rw [List.map_cons, get?_cons, ih, get?_cons]
    split <;> rfl

theorem put_map (f : α → β) (t : Table α) (key : String) (a : α) :
    put (t.map fun p => (p.1, f p.2)) key (f a) = (put t key a).map fun p => (p.1, f p.2) := by
  induction t with
  | nil => rfl
  | cons p rest ih =>
    rw [List.map_cons, put_cons, ih, put_cons]
    split <;> rfl

theorem put_of_get? {t : Table α} {a : α} (h : get? t key = some a) : put t key a = t := by
  induction t with
  | nil => cases h
  | cons p rest ih =>
    rw [get?_cons] at h
    rw [put_cons]
    split at h
    · cases h
      rw [if_pos ‹_›]
    · rw [if_neg ‹_›, ih h]

theorem put_put (t : Table α) (key : String) (a b : α) : put (put t key a) key b = put t key b := by
  induction t with
  | nil => simp [put_nil, put_cons]
  | cons p rest ih => by_cases h : p.1 = key <;> simp [put_cons, h, ih]

theorem mem_of_get? {t : Table α} {a : α} (h : get? t key = some a) : (key, a) ∈ t := by
  induction t with
  | nil => cases h
  | cons p rest ih =>
    rw [get?_cons] at h
    split at h
    · next hk =>
      cases h
      exact hk ▸ .head _
    · exact .tail _ (ih h)

theorem mem_put {t : Table α} {a : α} {p : String × α} (h : p ∈ put t key a) : p ∈ t ∨ p = (key, a) := by
  induction t with
  | nil => exact .inr (List.mem_singleton.1 h)
  | cons q rest ih =>
    rw [put_cons] at h
    split at h
    · next hk =>
      rcases List.mem_cons.1 h with rfl | h
      · exact .inr (by rw [hk])
      · exact .inl (.tail _ h)
    · rcases List.mem_cons.1 h with rfl | h
      · exact .inl (.head _)
      · exact (ih h).imp_left (.tail _)

theorem mem_of_mem_erase {t : Table α} {p : String × α} (h : p ∈ erase t key) : p ∈ t := by
  induction t with
  | nil => cases h
  | cons q rest ih =>
    rw [erase] at h
    split at h
    · exact .tail _ h
    · rcases List.mem_cons.1 h with rfl | h
      · exact .head _
      · exact .tail _ (ih h)

theorem isSome_get?_of_mem {t : Table α} {a : α} (h : (key, a) ∈ t) : (get? t key).isSome := by
  induction t with
  | nil => cases h
  | cons p rest ih =>
    rw [get?_cons]
    split
    · rfl
    · next hk =>
      rcases List.mem_cons.1 h with rfl | h
      · exact absurd rfl hk
      · exact ih h

theorem mem_keys_iff {t : Table α} : key ∈ t.keys ↔ ∃ a, get? t key = some a := by
  constructor
  · intro mem
    obtain ⟨⟨_, a⟩, there, rfl⟩ := List.mem_map.1 mem
    exact Option.isSome_iff_exists.1 (isSome_get?_of_mem there)
  · rintro ⟨a, found⟩
    exact List.mem_map_of_mem (f := Prod.fst) (mem_of_get? found)

/-! ## Entries that are put one after another -/

theorem get?_foldl_put_of_notMem (pairs : List (String × α)) (t : Table α)
    (h : key ∉ pairs.map Prod.fst) :
    get? (pairs.foldl (fun t p => put t p.1 p.2) t) key = get? t key := by
  induction pairs generalizing t with
  | nil => rfl
  | cons p rest ih =>
    simp only [List.map_cons, List.mem_cons, not_or] at h
    rw [List.foldl_cons, ih _ h.2, get?_put_of_ne _ _ (Ne.symm h.1)]

theorem get?_foldl_put_of_mem {a : α} (pairs : List (String × α)) (t : Table α)
    (distinct : (pairs.map Prod.fst).Nodup) (h : (key, a) ∈ pairs) :
    get? (pairs.foldl (fun t p => put t p.1 p.2) t) key = some a := by
  induction pairs generalizing t with
  | nil => cases h
  | cons p rest ih =>
    simp only [List.map_cons, List.nodup_cons] at distinct
    rw [List.foldl_cons]
    rcases List.mem_cons.1 h with rfl | h
    · rw [get?_foldl_put_of_notMem rest _ distinct.1, get?_put_self]
    · exact ih _ distinct.2 h

/-! ## Names that stand once -/

theorem get?_of_mem {t : Table α} {a : α} (distinct : (t.map Prod.fst).Nodup)
    (h : (key, a) ∈ t) : get? t key = some a := by
  induction t with
  | nil => cases h
  | cons q rest ih =>
    obtain ⟨k, b⟩ := q
    rw [List.map_cons, List.nodup_cons] at distinct
    rw [get?_cons]
    rcases List.mem_cons.1 h with h | h
    · cases h
      rw [if_pos rfl]
    · have other : k ≠ key := fun hk => distinct.1 (List.mem_map.2 ⟨_, h, hk.symm⟩)
      rw [if_neg other]
      exact ih distinct.2 h

theorem nodup_put {t : Table α} (h : t.keys.Nodup) (key : String) (a : α) : (put t key a).keys.Nodup := by
  rw [keys_put]
  split
  · exact h
  · next absent =>
    refine List.nodup_append.2 ⟨h, List.nodup_singleton key, fun k mem k' mem' same => absent ?_⟩
    obtain ⟨p, hp, rfl⟩ := List.mem_map.1 mem
    cases List.mem_singleton.1 mem'
    cases same
    exact isSome_get?_of_mem hp

theorem nodup_foldl_put (pairs : List (String × α)) {t : Table α} (h : t.keys.Nodup) :
    (pairs.foldl (fun t p => put t p.1 p.2) t).keys.Nodup := by
  induction pairs generalizing t with
  | nil => exact h
  | cons p rest ih => exact ih (nodup_put h p.1 p.2)

end Table

end BlockStage
