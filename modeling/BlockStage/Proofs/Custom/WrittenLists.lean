import BlockStage.Proofs.Custom.Parameters

/-!
# Written lists of texts

`listText gap texts` writes texts as a list. If quotes can hold the texts (`IsPlain`), the list reads as these
texts (`writes_listText`), and as the texts in upper case once it is brought to upper case:
`writes_upperCase_listText`.
-/

namespace BlockStage.Expression

variable {texts : List String} {s : String} {n : Nat}

/-! ## Writing -/

/-- Whether a character stands for itself in a quoted text. -/
def isPlainChar (c : Char) : Bool :=
  c.toNat < 128 && !(['"', '\\', '\n', '\r', '\x00'].contains c)

def IsPlain (s : String) : Prop := ∀ c ∈ s.toList, isPlainChar c = true

instance (s : String) : Decidable (IsPlain s) :=
  List.decidableBAll (fun c => isPlainChar c = true) s.toList

def quoted (s : String) : List Char := '"' :: s.toList ++ ['"']

/-- The items of a list after the first, up to the closing bracket, with blanks after the commas. -/
def moreChars (gap : Nat) : List String → List Char
  | [] => [']']
  | s :: rest => ',' :: List.replicate gap ' ' ++ quoted s ++ moreChars gap rest

def listChars (gap : Nat) : List String → List Char
  | [] => ['[', ']']
  | s :: rest => '[' :: quoted s ++ moreChars gap rest

/-- A list of texts as it is written, with some blanks after each comma. -/
def listText (gap : Nat) (texts : List String) : String := String.ofList (listChars gap texts)

example : listText 1 ["a", "b c"] = "[\"a\", \"b c\"]" := rfl

/-! ## Tokens -/

theorem isPlainChar_iff {c : Char} : isPlainChar c = true ↔
    c.toNat < 128 ∧ c ≠ '"' ∧ c ≠ '\\' ∧ c ≠ '\n' ∧ c ≠ '\r' ∧ c ≠ '\x00' := by
  simp [isPlainChar]

theorem untilQuote?_plain {cs : List Char} (plain : ∀ c ∈ cs, isPlainChar c = true) (rest : List Char) :
    untilQuote? '"' false (cs ++ '"' :: rest) = some (cs, rest) := by
  induction cs with
  | nil => simp [untilQuote?]
  | cons c cs ih =>
    obtain ⟨hc, hcs⟩ := List.forall_mem_cons.1 plain
    obtain ⟨-, quote, slash, line, -⟩ := isPlainChar_iff.1 hc
    rw [List.cons_append, untilQuote?, ih hcs]
    · simp [quote, line]
    · exact fun _ _ h => absurd h slash

theorem unescape?_plain {cs : List Char} (plain : ∀ c ∈ cs, isPlainChar c = true) :
    unescape? cs.length cs = some cs := by
  induction cs with
  | nil => rfl
  | cons c cs ih =>
    obtain ⟨hc, hcs⟩ := List.forall_mem_cons.1 plain
    obtain ⟨-, -, slash, -⟩ := isPlainChar_iff.1 hc
    rw [unescape?] at ih ⊢
    rw [List.length_cons, unescapeBy?, ih hcs]
    · rfl
    · exact fun _ _ h => absurd h slash

/-- A text in quotes is one token, if no third quote follows. -/
theorem token?_quoted (plain : IsPlain s) {rest : List Char}
    (apart : rest.head? ≠ some '"') : token? (quoted s ++ rest) = some (.text s, rest) := by
  have single : ['"', '"'].isPrefixOf (s.toList ++ '"' :: rest) = false := by
    cases h : s.toList with
    | nil =>
      cases rest with
      | nil => rfl
      | cons c rest =>
        have third : '"' ≠ c := fun h => apart (h ▸ rfl)
        simp [List.isPrefixOf, third]
    | cons c cs =>
      have second : '"' ≠ c := ((isPlainChar_iff.1 (plain c (by simp [h]))).2.1).symm
      simp [List.isPrefixOf, second]
  have same : quoted s ++ rest = '"' :: (s.toList ++ '"' :: rest) := by simp [quoted]
  rw [same, token?, if_pos (by decide)]
  simp [quotedToken?, single, untilQuote?_plain plain, unescape?_plain plain]

section Scan

variable {n : Nat} {awaited awaited' : List String} {c : Char} {rest after : List Char} {t : Token}

theorem scan_token (starts : c ≠ '\n' ∧ c ≠ '\\' ∧ isBlank c = false ∧ c ≠ '#')
    (one : token? (c :: rest) = some (t, after)) (nests : nest? awaited t = some awaited') :
    scan (n + 1) awaited false (c :: rest) = (scan n awaited' false after).push t := by
  obtain ⟨line, slash, blank, comment⟩ := starts
  rw [scan, if_neg (by simp [blank]), if_neg comment, one]
  · simp only [nests]
  · exact fun h => absurd h line
  · exact fun _ h => absurd h slash

theorem scan_quoted (plain : IsPlain s) (apart : rest.head? ≠ some '"') :
    scan (n + 1) awaited false (quoted s ++ rest) = (scan n awaited false rest).push (.text s) :=
  scan_token (by decide) (token?_quoted plain apart) rfl

theorem scan_blanks (gap : Nat) : scan (gap + n) awaited false (List.replicate gap ' ' ++ rest) =
    scan n awaited false rest := by
  induction gap with
  | zero => simp
  | succ gap ih =>
    rw [List.replicate_succ, List.cons_append, Nat.add_right_comm, scan, if_pos (by decide), ih]
    · simp
    · simp

/-- The tokens of the items of a list after the first, up to the closing bracket. -/
def moreTokens : List String → List Token
  | [] => [.mark "]"]
  | s :: rest => .mark "," :: .text s :: moreTokens rest

theorem head?_moreChars (gap : Nat) (texts : List String) : (moreChars gap texts).head? ≠ some '"' := by
  cases texts <;> simp [moreChars]

theorem scan_more (gap : Nat) (plain : ∀ s ∈ texts, IsPlain s)
    (enough : (moreChars gap texts).length < n) :
    scan n ["]"] false (moreChars gap texts) = ⟨moreTokens texts, .finished⟩ := by
  induction texts generalizing n with
  | nil =>
    obtain ⟨m, rfl⟩ := Nat.exists_eq_add_of_le' (Nat.succ_le_of_lt enough)
    rfl
  | cons s rest ih =>
    obtain ⟨hs, hrest⟩ := List.forall_mem_cons.1 plain
    simp only [moreChars, quoted, List.length_append, List.length_cons, List.length_replicate] at enough
    obtain ⟨m, rfl⟩ : ∃ m, n = gap + (m + 1) + 1 := ⟨n - gap - 2, by omega⟩
    simp only [moreChars, List.cons_append, List.append_assoc]
    have comma : ∀ cs, scan (gap + (m + 1) + 1) ["]"] false (',' :: cs) =
        (scan (gap + (m + 1)) ["]"] false cs).push (.mark ",") := fun cs =>
      scan_token (by decide) (show token? (',' :: cs) = some (.mark ",", cs) from rfl) rfl
    rw [comma, scan_blanks, scan_quoted hs (head?_moreChars gap rest), ih hrest (by omega)]
    rfl

end Scan

def listTokens : List String → List Token
  | [] => [.mark "[", .mark "]"]
  | s :: rest => .mark "[" :: .text s :: moreTokens rest

theorem scan_list (gap : Nat) (plain : ∀ s ∈ texts, IsPlain s)
    (enough : (listChars gap texts).length < n) :
    scan n [] false (listChars gap texts) = ⟨listTokens texts, .finished⟩ := by
  cases texts with
  | nil =>
    simp only [listChars, List.length_cons] at enough
    obtain ⟨m, rfl⟩ : ∃ m, n = m + 3 := ⟨n - 3, by omega⟩
    rfl
  | cons s rest =>
    obtain ⟨hs, hrest⟩ := List.forall_mem_cons.1 plain
    simp only [listChars, quoted, List.length_append, List.length_cons] at enough
    obtain ⟨m, rfl⟩ : ∃ m, n = m + 2 := ⟨n - 2, by omega⟩
    have bracket : ∀ cs, scan (m + 2) [] false ('[' :: cs) =
        (scan (m + 1) ["]"] false cs).push (.mark "[") := fun cs =>
      scan_token (by decide) (show token? ('[' :: cs) = some (.mark "[", cs) from rfl) rfl
    rw [listChars, List.cons_append, bracket, scan_quoted hs (head?_moreChars gap rest),
      scan_more gap hrest (by omega)]
    rfl

theorem unifyLines_of_notMem {cs : List Char} (h : '\r' ∉ cs) : unifyLines cs = cs := by
  fun_induction unifyLines cs with
  | case1 rest ih => simp at h
  | case2 c rest _ ih =>
    simp only [List.mem_cons, not_or] at h
    rw [ih h.2, if_neg (Ne.symm h.1)]
  | case3 => rfl

/-- What holds of all characters of the texts and of those between them holds of a written list. -/
theorem forall_moreChars {P : Char → Prop} (between : ∀ c ∈ "],\" ".toList, P c) (gap : Nat)
    {texts : List String} (h : ∀ s ∈ texts, ∀ c ∈ s.toList, P c) : ∀ c ∈ moreChars gap texts, P c := by
  induction texts with
  | nil => exact List.forall_mem_singleton.2 (between _ (by decide))
  | cons s rest ih =>
    obtain ⟨hs, hrest⟩ := List.forall_mem_cons.1 h
    have blanks : ∀ c ∈ List.replicate gap ' ', P c := fun c hc =>
      List.eq_of_mem_replicate hc ▸ between _ (by decide)
    simp only [moreChars, quoted, List.forall_mem_append, List.forall_mem_cons]
    exact ⟨⟨⟨between ',' (by decide), blanks⟩, ⟨between '"' (by decide), hs⟩,
      between '"' (by decide), nofun⟩, ih hrest⟩

theorem forall_listChars {P : Char → Prop} (between : ∀ c ∈ "[],\" ".toList, P c) (gap : Nat)
    (h : ∀ s ∈ texts, ∀ c ∈ s.toList, P c) : ∀ c ∈ listChars gap texts, P c := by
  cases texts with
  | nil =>
    refine List.forall_mem_cons.2 ⟨between '[' (by decide), ?_⟩
    exact List.forall_mem_singleton.2 (between ']' (by decide))
  | cons s rest =>
    obtain ⟨hs, hrest⟩ := List.forall_mem_cons.1 h
    have more := forall_moreChars (fun c hc => between c (.tail _ hc)) gap hrest
    simp only [listChars, quoted, List.forall_mem_append, List.forall_mem_cons]
    exact ⟨⟨between '[' (by decide), ⟨between '"' (by decide), hs⟩, between '"' (by decide), nofun⟩, more⟩

theorem ofText_listText (gap : Nat) (plain : ∀ s ∈ texts, IsPlain s) :
    Tokens.ofText (listText gap texts) = ⟨listTokens texts, .finished⟩ := by
  have clean : ∀ c ∈ listChars gap texts, c ≠ '\r' ∧ c ≠ '\x00' :=
    forall_listChars (by simp) gap fun s hs c hc => (isPlainChar_iff.1 (plain s hs c hc)).2.2.2.2
  obtain ⟨cs, starts⟩ : ∃ cs, listChars gap texts = '[' :: cs := by
    cases texts <;> exact ⟨_, rfl⟩
  have front : (listChars gap texts).dropWhile (fun c => c == ' ' || c == '\t') = listChars gap texts := by
    rw [starts]
    rfl
  have line : ∀ n, scan (n + 1) [] true (listChars gap texts) =
      scan n [] false (listChars gap texts) := fun n => by
    rw [starts]
    rfl
  rw [Tokens.ofText, listText, String.toList_ofList, front, Tokens.ofChars]
  simp only [unifyLines_of_notMem fun h => (clean _ h).1 rfl]
  rw [if_neg (by simpa using fun h => (clean _ h).2 rfl), line, scan_list gap plain (by omega)]

/-! ## Reading -/

section Read

variable {n : Nat} {rest : List Token}

def EndsItem (ts : List Token) : Prop := ∃ rest, ts = .mark "," :: rest ∨ ts = .mark "]" :: rest

theorem endsItem_moreTokens (texts : List String) : EndsItem (moreTokens texts) := by
  cases texts with
  | nil => exact ⟨_, .inr rfl⟩
  | cons s rest => exact ⟨_, .inl rfl⟩

theorem atom?_text (s : String) (ends : EndsItem rest) :
    atom? (n + 1) (.text s :: rest) = some (.datum (.text s), rest) := by
  have joined : atom? (n + 1) (.text s :: rest) = some (.datum (.text (String.join [s])), rest) := by
    obtain ⟨rest, rfl | rfl⟩ := ends <;> rfl
  rw [joined]
  simp [String.join]

theorem operators?_ends (e : Expr) (ends : EndsItem rest) : (do
      let (e, ts) ← trailers? (n + 1) e rest
      operators? (n + 2) 0 e ts) = some (e, rest) := by
  obtain ⟨rest, rfl | rfl⟩ := ends <;> rfl

theorem item?_text (s : String) (ends : EndsItem rest) :
    item? (n + 5) (.text s :: rest) = some (.datum (.text s), rest) := by
  show ((atom? (n + 1) (.text s :: rest)).bind _).bind _ = _
  rw [atom?_text s ends]
  exact operators?_ends (.datum (.text s)) ends

theorem more?_texts (e : Expr) (texts : List String) (enough : texts.length + 6 ≤ n) :
    more? n "]" e (moreTokens texts) =
      some (e :: texts.map fun t => .datum (.text t), !texts.isEmpty, []) := by
  induction texts generalizing e n with
  | nil =>
    obtain ⟨m, rfl⟩ : ∃ m, n = m + 1 := ⟨n - 1, by omega⟩
    rfl
  | cons s rest ih =>
    rw [List.length_cons] at enough
    obtain ⟨m, rfl⟩ : ∃ m, n = m + 5 + 1 := ⟨n - 6, by omega⟩
    rw [moreTokens, more?]
    simp only [expect?, if_true]
    rw [item?_text s (endsItem_moreTokens rest)]
    simp [ih (.datum (.text s)) (n := m + 5) (by omega)]

theorem ofTokens?_list (texts : List String) (enough : texts.length + 9 ≤ n) :
    ofTokens? n (listTokens texts) = some (.row .list (texts.map fun t => .datum (.text t))) := by
  obtain ⟨m, rfl⟩ : ∃ m, n = m + 9 := ⟨n - 9, by omega⟩
  cases texts with
  | nil => rfl
  | cons s rest =>
    rw [List.length_cons] at enough
    have items : bracketed? (m + 6) "[" (.text s :: moreTokens rest) =
        some (.row .list ((s :: rest).map fun t => .datum (.text t)), []) := by
      have walks : startsWalk (moreTokens rest) = false := by cases rest <;> rfl
      rw [bracketed?]
      simp [expect?, item?_text s (endsItem_moreTokens rest), walks,
        more?_texts (.datum (.text s)) rest (n := m + 5) (by omega)]
    have line : line? (m + 9) (listTokens (s :: rest)) =
        some ([.row .list ((s :: rest).map fun t => .datum (.text t))], false, []) := by
      show (((bracketed? (m + 6) "[" (.text s :: moreTokens rest)).bind _).bind _).bind _ = _
      rw [items]
      rfl
    rw [ofTokens?, line]
    rfl

end Read

theorem writes_listText (gap : Nat) (plain : ∀ s ∈ texts, IsPlain s) :
    Writes (listText gap texts) texts := by
  have more : ∀ texts : List String, texts.length ≤ (moreChars gap texts).length := by
    intro texts
    induction texts with
    | nil => exact Nat.zero_le _
    | cons s rest ih =>
      simp only [moreChars, List.length_append, List.length_cons]
      omega
  have long : texts.length ≤ (listText gap texts).length := by
    rw [listText, String.length_ofList]
    cases texts with
    | nil => exact Nat.zero_le _
    | cons s rest =>
      have := more rest
      simp only [listChars, List.length_append, List.length_cons]
      omega
  rw [Writes, parse?, ofText_listText gap plain]
  simp only [ofTokens?_list texts (n := enoughSteps (listText gap texts)) (by unfold enoughSteps; omega)]

/-! ## Upper case -/

theorem toList_upper (s : String) : (Text.upper s).toList = s.toList.flatMap Text.upperChar :=
  String.toList_ofList

theorem upperCase_eq (s : String) : upperCase s = Text.upper s := by
  apply String.toList_inj.1
  rw [upperCase, String.toList_join, List.flatMap_map, toList_upper]
  simp [toList_upper]

theorem upperCase_listText (gap : Nat) (texts : List String) :
    upperCase (listText gap texts) = listText gap (texts.map Text.upper) := by
  have inQuotes : ∀ s, (quoted s).flatMap Text.upperChar = quoted (Text.upper s) := fun s => by
    simp only [quoted, List.cons_append, List.flatMap_cons, List.flatMap_append, toList_upper]
    rfl
  have blanks : (List.replicate gap ' ').flatMap Text.upperChar = List.replicate gap ' ' := by
    induction gap with
    | zero => rfl
    | succ gap ih =>
      rw [List.replicate_succ, List.flatMap_cons, ih]
      rfl
  have more : ∀ texts, (moreChars gap texts).flatMap Text.upperChar =
      moreChars gap (texts.map Text.upper) := by
    intro texts
    induction texts with
    | nil => rfl
    | cons s rest ih =>
      simp only [moreChars, List.cons_append, List.flatMap_cons, List.flatMap_append, List.map_cons, ih,
        inQuotes, blanks]
      rfl
  apply String.toList_inj.1
  rw [upperCase_eq, toList_upper, listText, listText, String.toList_ofList, String.toList_ofList]
  cases texts with
  | nil => rfl
  | cons s rest =>
    simp only [listChars, List.cons_append, List.flatMap_cons, List.flatMap_append, List.map_cons, more,
      inQuotes]
    rfl

theorem isPlainChar_toUpper {c : Char} (h : isPlainChar c = true) :
    Text.upperChar c = [c.toUpper] ∧ isPlainChar c.toUpper = true ∧ c.toUpper.toUpper = c.toUpper := by
  have all : ∀ n < 128, isPlainChar (Char.ofNat n) = true → isPlainChar (Char.ofNat n).toUpper = true ∧
      (Char.ofNat n).toUpper.toUpper = (Char.ofNat n).toUpper := by decide
  have few := (isPlainChar_iff.1 h).1
  have upper := all c.toNat few
  rw [Char.ofNat_toNat] at upper
  exact ⟨if_pos few, upper h⟩

theorem toList_upper_plain (plain : IsPlain s) : (Text.upper s).toList = s.toList.map Char.toUpper := by
  rw [toList_upper, ← List.flatMap_pure_eq_map]
  exact List.flatMap_congr fun c hc => (isPlainChar_toUpper (plain c hc)).1

theorem IsPlain.upper (plain : IsPlain s) : IsPlain (Text.upper s) := by
  rw [IsPlain, toList_upper_plain plain]
  exact List.forall_mem_map.2 fun c hc => (isPlainChar_toUpper (plain c hc)).2.1

theorem IsPlain.upper_upper (plain : IsPlain s) : Text.upper (Text.upper s) = Text.upper s := by
  apply String.toList_inj.1
  rw [toList_upper_plain plain.upper, toList_upper_plain plain, List.map_map]
  exact List.map_congr_left fun c hc => (isPlainChar_toUpper (plain c hc)).2.2

/-- However often a list of texts is brought to upper case, it reads as the texts in upper case. -/
theorem writes_upperCase_listText (gap : Nat) (plain : ∀ s ∈ texts, IsPlain s) (n : Nat) :
    Writes (upperCase^[n + 1] (listText gap texts)) (texts.map Text.upper) := by
  have again : upperCase (listText gap (texts.map Text.upper)) = listText gap (texts.map Text.upper) := by
    rw [upperCase_listText, List.map_map]
    exact congrArg _ (List.map_congr_left fun s hs => (plain s hs).upper_upper)
  rw [Function.iterate_succ_apply, upperCase_listText, Function.iterate_fixed again]
  exact writes_listText gap (List.forall_mem_map.2 fun s hs => (plain s hs).upper)

end BlockStage.Expression
