/-!
# Tables

A table maps names to entries in the order in which the names first came.
-/

namespace BlockStage

/-- A `dict` with texts as keys. -/
abbrev Table (α : Type) := List (String × α)

namespace Table

variable {α : Type}

/-- The entry of a name. -/
def get? : Table α → String → Option α
  | [], _ => none
  | (k, a) :: rest, key => if k = key then some a else get? rest key

def has (t : Table α) (key : String) : Bool := (get? t key).isSome

/-- Puts an entry under a name, in the place of the one before. -/
def put : Table α → String → α → Table α
  | [], key, b => [(key, b)]
  | (k, a) :: rest, key, b => if k = key then (k, b) :: rest else (k, a) :: put rest key b

/-- Takes a name out. -/
def erase : Table α → String → Table α
  | [], _ => []
  | (k, a) :: rest, key => if k = key then rest else (k, a) :: erase rest key

def keys (t : Table α) : List String := t.map Prod.fst

/-- The table of these entries. -/
def ofPairs (pairs : List (String × α)) : Table α :=
  pairs.foldl (fun t p => put t p.1 p.2) []

theorem get?_nil (key : String) : get? ([] : Table α) key = none := rfl

theorem get?_cons (p : String × α) (rest : Table α) (key : String) :
    get? (p :: rest) key = if p.1 = key then some p.2 else get? rest key := rfl

theorem put_nil (key : String) (b : α) : put [] key b = [(key, b)] := rfl

theorem put_cons (p : String × α) (rest : Table α) (key : String) (b : α) :
    put (p :: rest) key b = if p.1 = key then (p.1, b) :: rest else p :: put rest key b := rfl

@[simp] theorem get?_put_self (t : Table α) (key : String) (b : α) :
    get? (put t key b) key = some b := by
  induction t with
  | nil => simp [put_nil, get?_cons]
  | cons p rest ih => by_cases h : p.1 = key <;> simp [put_cons, get?_cons, h, ih]

theorem get?_put_of_ne (t : Table α) {key other : String} (b : α) (h : key ≠ other) :
    get? (put t key b) other = get? t other := by
  induction t with
  | nil => simp [put_nil, get?_cons, get?_nil, h]
  | cons p rest ih =>
    by_cases hk : p.1 = key
    · simp [put_cons, get?_cons, hk, h]
    · simp [put_cons, get?_cons, hk, ih]

theorem keys_put (t : Table α) (key : String) (b : α) :
    keys (put t key b) = if has t key then keys t else keys t ++ [key] := by
  induction t with
  | nil => simp [put_nil, keys, has, get?_nil]
  | cons p rest ih =>
    simp only [keys, has] at ih
    by_cases hk : p.1 = key
    · simp [put_cons, keys, has, get?_cons, hk]
    · simp only [put_cons, keys, has, get?_cons, hk, if_false, List.map_cons, ih]
      split <;> simp_all

end Table

end BlockStage
