import MismatchLog.Proofs.Toml.BasicString
import MismatchLog.Proofs.Toml.Prolonged.Number
import MismatchLog.Proofs.Toml.Prolonged.Quoted
import MismatchLog.Toml.Document

/-!
# Keys and values in a text that goes on

Each reader of the model is put together from smaller ones, one behind the other or one for each
character that may come first, and so is the proof that it is steady. Arrays and inline tables may go
over several lines; their readers have a bound, which may be greater for the longer text.

* `key?_steady`, `definition?_steady`, `items?_carries`, `inlineTable?_steady`;
* `isValueReader_value?`: the reader of values is steady, to any depth.
-/

namespace MismatchLog.Toml

/-! ## Keys -/

theorem skipBlanks_prolong (more t : Text) :
    skipBlanks (prolong more t) = prolong more (skipBlanks t) :=
  dropWhile_prolong (by decide) more t

/-- A name without quotes. -/
def bareName? (t : Text) : Option (Text × Text) :=
  if t.takeWhile isBare = [] then none else some (t.takeWhile isBare, t.dropWhile isBare)

theorem bareName?_exact : Exact bareName? := by
  intro more t
  rw [bareName?, bareName?, takeWhile_prolong (by decide), dropWhile_prolong (by decide)]
  split <;> rfl

/-- A name in single quotes or without quotes. -/
def plainName? : Text → Option (Text × Text)
  | '\'' :: rest => literalBody rest
  | t => bareName? t

theorem plainName?_branches : Branches '\'' literalBody bareName? plainName? where
  behind _ := rfl
  other t ht := by
    rw [plainName?]
    exact ht

theorem simpleKey?_branches : Branches '"' (basicBody none) plainName? simpleKey? where
  behind _ := rfl
  other t ht := by
    unfold simpleKey? plainName?
    split
    · exact absurd rfl (ht _)
    · rfl
    · rename_i hne
      split
      · exact absurd rfl (hne _)
      · rfl

theorem simpleKey?_steady : Steady simpleKey? :=
  .branch (by decide) simpleKey?_branches simpleKey?_branches (basicBody_steady none)
    (.branch (by decide) plainName?_branches plainName?_branches literalBody_steady
      bareName?_exact.steady)

/-- What stands behind one part of a key: a dot and the next parts, or nothing. -/
def keyTail? (n : Nat) (name : Text) : Text → Option (List Text × Text)
  | '.' :: t => (key? n t).bind fun r => some (name :: r.1, r.2)
  | t => some ([name], t)

theorem keyTail?_branches (n : Nat) (name : Text) :
    Branches '.' (fun t => (key? n t).bind fun r => some (name :: r.1, r.2))
      (fun t => some ([name], t)) (keyTail? n name) where
  behind _ := rfl
  other t ht := by
    rw [keyTail?]
    exact ht

theorem key?_succ (n : Nat) (t : Text) : key? (n + 1) t =
    (simpleKey? (skipBlanks t)).bind fun r => keyTail? n r.1 (skipBlanks r.2) := by
  rw [key?]
  rfl

theorem key?_steady (n : Nat) : Steady (key? n) := by
  induction n with
  | zero => exact nofun
  | succ n ih =>
    have htail (name : Text) : Steady (keyTail? n name) :=
      .branch (by decide) (keyTail?_branches n name) (keyTail?_branches n name)
        (.bind ih fun names => .pure (name :: names)) (.pure [name])
    exact .of_eq (.bind (.shift skipBlanks_prolong simpleKey?_steady) fun name =>
      .shift skipBlanks_prolong (htail name)) (key?_succ n) (key?_succ n)

/-! ## Arrays and inline tables -/

theorem skipGaps_prolong {inComment : Bool} {t u : Text} {c : Char}
    (h : skipGaps inComment t = c :: u) (hreturn : c = '\r' → u ≠ []) (more : Text) :
    skipGaps inComment (prolong more t) = prolong more (c :: u) := by
  fun_induction skipGaps inComment t with
  | case1 => cases h
  | case2 _ rest ih =>
    rw [prolong_cons, skipGaps]
    exact ih h
  | case3 _ rest ih =>
    rw [prolong_cons, prolong_cons, skipGaps]
    exact ih h
  | case4 inComment d rest hfeed hpair hskip ih =>
    have hreturn : d ≠ '\r' := by
      rintro rfl
      simp [isBlank, isPlain] at hskip
    rw [prolong_cons, skipGaps]
    · rw [if_pos hskip]
      exact ih h
    · exact hfeed
    · exact fun _ hd _ => hreturn hd
  | case5 inComment rest hfeed hpair hskip ih =>
    rw [prolong_cons, skipGaps]
    · rw [if_neg hskip, if_pos rfl]
      exact ih h
    · exact hfeed
    · exact fun _ hd _ => absurd hd (by decide)
  | case6 inComment d rest hfeed hpair hskip hsharp =>
    obtain ⟨rfl, rfl⟩ := List.cons.inj h
    rw [prolong_cons, skipGaps]
    · rw [if_neg hskip, if_neg hsharp]
    · exact hfeed
    · intro v hd hv
      -- a carriage return has a character behind it that is no line feed
      cases rest with
      | nil => exact hreturn hd rfl
      | cons e rest => exact hpair rest hd (by rw [(List.cons.inj hv).1])

/-- A reader behind the gaps of an array. It finds nothing where the text ends. -/
theorem Carries.gaps {α : Type} {f f' : Text → Option (α × Text)} (hf : Carries f f')
    (hnil : f [] = none) (hreturn : f ['\r'] = none) :
    Carries (fun t => f (skipGaps false t)) fun t => f' (skipGaps false t) := by
  intro t a rest h more
  cases hgaps : skipGaps false t with
  | nil =>
    simp only [hgaps, hnil] at h
    cases h
  | cons c u =>
    simp only [hgaps] at h
    simp only
    rw [skipGaps_prolong hgaps]
    · exact hf h more
    · rintro rfl rfl
      rw [hreturn] at h
      cases h

/-- A steady reader of values that finds none where the text ends. -/
structure IsValueReader (value? : Text → Option (Value × Text)) : Prop where
  steady : Steady value?
  nil : value? [] = none
  carriageReturn : value? ['\r'] = none

section
variable {value? : Text → Option (Value × Text)}

/-- What stands behind an item, in an array that may end behind it -/
def lastItem? (v : Value) : Text → Option (List Value × Text)
  | ']' :: rest => some ([v], rest)
  | _ => none

theorem lastItem?_branches (v : Value) :
    Branches ']' (fun rest => some ([v], rest)) (fun _ => none) (lastItem? v) where
  behind _ := rfl
  other t ht := by
    rw [lastItem?]
    exact ht

/-- What stands behind an item. -/
def itemsTail? (value? : Text → Option (Value × Text)) (n : Nat) (v : Value) :
    Text → Option (List Value × Text)
  | ',' :: rest => (items? value? n rest).bind fun r => some (v :: r.1, r.2)
  | t => lastItem? v t

theorem itemsTail?_branches (n : Nat) (v : Value) :
    Branches ',' (fun rest => (items? value? n rest).bind fun r => some (v :: r.1, r.2))
      (lastItem? v) (itemsTail? value? n v) where
  behind _ := rfl
  other t ht := by
    rw [itemsTail?]
    exact ht

/-- The rest of an array behind a gap. -/
def itemsHead? (value? : Text → Option (Value × Text)) (n : Nat) : Text → Option (List Value × Text)
  | ']' :: rest => some ([], rest)
  | t => (value? t).bind fun r => itemsTail? value? n r.1 (skipGaps false r.2)

theorem itemsHead?_branches (n : Nat) :
    Branches ']' (fun rest => some ([], rest))
      (fun t => (value? t).bind fun r => itemsTail? value? n r.1 (skipGaps false r.2))
      (itemsHead? value? n) where
  behind _ := rfl
  other t ht := by
    rw [itemsHead?]
    exact ht

theorem items?_succ (n : Nat) (t : Text) :
    items? value? (n + 1) t = itemsHead? value? n (skipGaps false t) := by
  rw [items?]
  generalize skipGaps false t = u
  split
  · rfl
  · rename_i hbracket
    rw [(itemsHead?_branches n).other _ hbracket]
    simp only [Option.bind_eq_bind]
    congr 1
    funext r
    generalize skipGaps false r.2 = w
    split
    · rfl
    · rfl
    · rename_i hcomma hbracket
      rw [(itemsTail?_branches n r.1).other _ hcomma, (lastItem?_branches r.1).other _ hbracket]

/-- A greater bound and more lines change nothing. -/
theorem items?_carries (hvalue : IsValueReader value?) {n m : Nat} (hle : n ≤ m) :
    Carries (items? value? n) (items? value? m) := by
  induction n generalizing m with
  | zero => exact nofun
  | succ n ih =>
    obtain ⟨m, rfl⟩ := Nat.exists_eq_add_one.mpr (Nat.lt_of_lt_of_le (Nat.succ_pos n) hle)
    have hitems := ih (Nat.le_of_succ_le_succ hle)
    have htail (v : Value) : Carries (itemsTail? value? n v) (itemsTail? value? m v) :=
      .branch (by decide) (itemsTail?_branches n v) (itemsTail?_branches m v)
        (.bind hitems fun vs => .pure (v :: vs))
        (.branch (by decide) (lastItem?_branches v) (lastItem?_branches v) (.pure [v]) .refuse)
    have hhead : Carries (itemsHead? value? n) (itemsHead? value? m) :=
      .branch (by decide) (itemsHead?_branches n) (itemsHead?_branches m) (.pure [])
        (.bind hvalue.steady fun v => .gaps (htail v) rfl rfl)
    refine .of_eq (.gaps hhead ?_ ?_) (items?_succ n) (items?_succ m)
    · simp [itemsHead?, hvalue.nil]
    · simp [itemsHead?, hvalue.carriageReturn]

theorem definition?_steady (hvalue : Steady value?) : Steady (definition? value?) :=
  .of_eq (.bind (key?_steady depthLimit) fun names =>
    .skip (after?_exact (by decide)) (.bind (.shift skipBlanks_prolong hvalue) fun v =>
      .pure (names, v))) (fun _ => rfl) fun _ => rfl

/-- What stands behind a definition that may be the last one of its inline table. -/
def lastDefinition? (d : List Text × Value) : Text → Option (List (List Text × Value) × Text)
  | '\x7d' :: rest => some ([d], rest)
  | _ => none

theorem lastDefinition?_branches (d : List Text × Value) :
    Branches '\x7d' (fun rest => some ([d], rest)) (fun _ => none) (lastDefinition? d) where
  behind _ := rfl
  other t ht := by
    rw [lastDefinition?]
    exact ht

/-- What stands behind a definition of an inline table. -/
def definitionsTail? (value? : Text → Option (Value × Text)) (n : Nat) (d : List Text × Value) :
    Text → Option (List (List Text × Value) × Text)
  | ',' :: rest => (definitions? value? n rest).bind fun r => some (d :: r.1, r.2)
  | t => lastDefinition? d t

theorem definitionsTail?_branches (n : Nat) (d : List Text × Value) :
    Branches ',' (fun rest => (definitions? value? n rest).bind fun r => some (d :: r.1, r.2))
      (lastDefinition? d) (definitionsTail? value? n d) where
  behind _ := rfl
  other t ht := by
    rw [definitionsTail?]
    exact ht

theorem definitions?_succ (n : Nat) (t : Text) : definitions? value? (n + 1) t =
    (definition? value? t).bind fun r => definitionsTail? value? n r.1 (skipBlanks r.2) := by
  rw [definitions?]
  simp only [Option.bind_eq_bind]
  congr 1
  funext r
  generalize skipBlanks r.2 = w
  split
  · rfl
  · rfl
  · rename_i hcomma hbrace
    rw [(definitionsTail?_branches n r.1).other _ hcomma,
      (lastDefinition?_branches r.1).other _ hbrace]

theorem definitions?_carries (hvalue : Steady value?) {n m : Nat} (hle : n ≤ m) :
    Carries (definitions? value? n) (definitions? value? m) := by
  induction n generalizing m with
  | zero => exact nofun
  | succ n ih =>
    obtain ⟨m, rfl⟩ := Nat.exists_eq_add_one.mpr (Nat.lt_of_lt_of_le (Nat.succ_pos n) hle)
    have hdefs := ih (Nat.le_of_succ_le_succ hle)
    have htail (d : List Text × Value) :
        Carries (definitionsTail? value? n d) (definitionsTail? value? m d) :=
      .branch (by decide) (definitionsTail?_branches n d) (definitionsTail?_branches m d)
        (.bind hdefs fun ds => .pure (d :: ds))
        (.branch (by decide) (lastDefinition?_branches d) (lastDefinition?_branches d) (.pure [d])
          .refuse)
    exact .of_eq (.bind (definition?_steady hvalue) fun d => .shift skipBlanks_prolong (htail d))
      (definitions?_succ n) (definitions?_succ m)

theorem length_le_prolong (more t : Text) : t.length ≤ (prolong more t).length := by
  simp [prolong]

/-- The bound of a reader that is bounded by the length of its text. -/
theorem Carries.steady_length {α : Type} {read : Nat → Text → Option (α × Text)}
    (h : ∀ {n m}, n ≤ m → Carries (read n) (read m)) : Steady fun t => read t.length t :=
  fun t _ _ hread more => h (length_le_prolong more t) hread more

/-- An inline table that is not empty. -/
def members? (value? : Text → Option (Value × Text)) (t : Text) : Option (Value × Text) :=
  (definitions? value? t.length t).bind fun r =>
    (r.1.foldlM Table.define? []).bind fun members => some (.table .inline members, r.2)

theorem members?_steady (hvalue : Steady value?) : Steady (members? value?) :=
  .of_eq (.bind (Carries.steady_length (definitions?_carries hvalue)) fun ds =>
    .given (ds.foldlM Table.define? []) fun members => .pure (.table .inline members))
    (fun _ => rfl) fun _ => rfl

/-- An inline table behind its first blanks. -/
def inlineHead? (value? : Text → Option (Value × Text)) : Text → Option (Value × Text)
  | '\x7d' :: rest => some (.table .inline [], rest)
  | t => members? value? t

theorem inlineHead?_branches :
    Branches '\x7d' (fun rest => some (.table .inline [], rest)) (members? value?)
      (inlineHead? value?) where
  behind _ := rfl
  other t ht := by
    rw [inlineHead?]
    exact ht

theorem inlineTable?_eq (t : Text) : inlineTable? value? t = inlineHead? value? (skipBlanks t) := by
  rw [inlineTable?]
  generalize skipBlanks t = u
  split
  · rfl
  · rename_i hbrace
    rw [inlineHead?_branches.other _ hbrace]
    rfl

theorem inlineTable?_steady (hvalue : Steady value?) : Steady (inlineTable? value?) :=
  .of_eq (.shift skipBlanks_prolong (.branch (by decide) inlineHead?_branches inlineHead?_branches
    (.pure (Value.table .inline [])) (members?_steady hvalue))) inlineTable?_eq inlineTable?_eq

end

/-! ## Values -/

theorem fixed?_of_head {c : Char} (hc : c.isDigit = false) {n : Nat} (hn : 0 < n) (low high : Nat)
    (t : Text) : fixed? n low high (c :: t) = none := by
  rw [fixed?, if_neg]
  rintro ⟨-, hdigits, -⟩
  rw [List.take_cons hn, List.all_cons, hc] at hdigits
  cases hdigits

/-- A number does not start with a quote. -/
theorem number?_quote {c : Char} (hc : c ∈ ['"', '\'']) (t : Text) : number? (c :: t) = none := by
  have hdigit : ∀ d ∈ ['"', '\''], d.isDigit = false := by simp
  have hdate : date? (c :: t) = none := by
    rw [date?, fixed?_of_head (hdigit c hc) (by decide)]
    rfl
  have htime : time? (c :: t) = none := by
    rw [time?, fixed?_of_head (hdigit c hc) (by decide)]
    rfl
  rw [number?, moment?, hdate, htime]
  simp only [List.mem_cons, List.not_mem_nil, or_false] at hc
  rcases hc with rfl | rfl <;> rfl

/-- A boolean or a number. -/
def word? (t : Text) : Option (Value × Text) :=
  match t with
  | 't' :: 'r' :: 'u' :: 'e' :: rest => some (.boolean true, rest)
  | 'f' :: 'a' :: 'l' :: 's' :: 'e' :: rest => some (.boolean false, rest)
  | _ => number? t

theorem word?_of_ne {t : Text} (htrue : ∀ u, t ≠ ['t', 'r', 'u', 'e'] ++ u)
    (hfalse : ∀ u, t ≠ ['f', 'a', 'l', 's', 'e'] ++ u) : word? t = number? t := by
  rw [word?]
  · exact htrue
  · exact hfalse

theorem word?_exact : Exact word? := by
  intro more t
  by_cases htrue : ∃ u, t = ['t', 'r', 'u', 'e'] ++ u
  · obtain ⟨u, rfl⟩ := htrue
    rfl
  · by_cases hfalse : ∃ u, t = ['f', 'a', 'l', 's', 'e'] ++ u
    · obtain ⟨u, rfl⟩ := hfalse
      rfl
    · rw [word?_of_ne, word?_of_ne, number?_exact]
      · exact fun u h => htrue ⟨u, h⟩
      · exact fun u h => hfalse ⟨u, h⟩
      · intro u h
        obtain ⟨v, hv, -⟩ := (prolong_eq_append_iff (by decide)).mp h
        exact htrue ⟨v, hv⟩
      · intro u h
        obtain ⟨v, hv, -⟩ := (prolong_eq_append_iff (by decide)).mp h
        exact hfalse ⟨v, hv⟩

theorem scalar?_of_string?_none {t : Text} (h : string? t = none) : scalar? t = word? t := by
  unfold scalar?
  rw [h]
  rfl

theorem scalar?_steady : Steady scalar? := by
  intro t v rest h more
  cases hstring : string? t with
  | some r =>
    obtain ⟨s, u⟩ := r
    unfold scalar? at h ⊢
    rw [hstring] at h
    rw [string?_steady hstring more]
    obtain ⟨rfl, rfl⟩ := Prod.mk.inj (Option.some.inj h)
    rfl
  | none =>
    rw [scalar?_of_string?_none hstring] at h
    cases t with
    | nil => cases h
    | cons c t =>
      by_cases hquote : c ∈ ['"', '\'']
      · have hword : word? (c :: t) = number? (c :: t) := by
          simp only [List.mem_cons, List.not_mem_nil, or_false] at hquote
          rcases hquote with rfl | rfl <;> rfl
        rw [hword, number?_quote hquote] at h
        cases h
      · simp only [List.mem_cons, List.not_mem_nil, or_false, not_or] at hquote
        rw [prolong_cons, scalar?_of_string?_none (string?_none hquote.1 hquote.2 _)]
        exact word?_exact.steady h more

/-- A value that is no inline table and no array. -/
def flatValue? (depth : Nat) : Text → Option (Value × Text)
  | '\x7b' :: rest => inlineTable? (value? depth) rest
  | t => scalar? t

theorem flatValue?_branches (depth : Nat) :
    Branches '\x7b' (inlineTable? (value? depth)) scalar? (flatValue? depth) where
  behind _ := rfl
  other t ht := by
    rw [flatValue?]
    exact ht

theorem value?_branches (depth : Nat) :
    Branches '[' (fun rest => (items? (value? depth) rest.length rest).bind fun r =>
      some (.array r.1, r.2)) (flatValue? depth) (value? (depth + 1)) where
  behind _ := rfl
  other t ht := by
    unfold value? flatValue?
    split
    · exact absurd rfl (ht _)
    · rfl
    · rename_i hne
      split
      · exact absurd rfl (hne _)
      · rfl

theorem isValueReader_value? (depth : Nat) : IsValueReader (value? depth) := by
  induction depth with
  | zero => exact ⟨scalar?_steady, rfl, rfl⟩
  | succ depth ih =>
    refine ⟨.branch (by decide) (value?_branches depth) (value?_branches depth)
      (.bind (Carries.steady_length (items?_carries ih)) fun vs => .pure (Value.array vs))
      (.branch (by decide) (flatValue?_branches depth) (flatValue?_branches depth)
        (inlineTable?_steady ih.steady) scalar?_steady), rfl, rfl⟩

end MismatchLog.Toml
