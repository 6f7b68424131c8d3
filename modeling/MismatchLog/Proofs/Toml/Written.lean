import MismatchLog.Proofs.Toml.BasicString
import MismatchLog.Proofs.Toml.Integer
import MismatchLog.Toml.Document

/-!
# Documents line by line

A grammar of documents in a plain style, apart from the readers: keys without quotes, one blank on
both sides of an equals sign, and values that hold no others or are an array or an inline table of
such.

* `DottedKey`, `Scalar`, `Items`, `Members`, `Line`: the grammar;
* `statements?_lines`: a text that is made of lines has their statements;
* `read?_lines`: and the table that these build.
-/

namespace MismatchLog.Toml

open Key (Stops stops_cons stops_append takeWhile_run dropWhile_run)

/-! ## Keys -/

/-- A name that needs no quotes. -/
structure IsBareKey (name : Text) : Prop where
  ne : name ≠ []
  bare : ∀ c ∈ name, isBare c = true

/-- Names that need no quotes, with dots in between. -/
inductive DottedKey : List Text → Text → Prop
  | last {name : Text} (bare : IsBareKey name) : DottedKey [name] name
  | cons {name t : Text} {names : List Text} (bare : IsBareKey name) (rest : DottedKey names t) :
      DottedKey (name :: names) (name ++ '.' :: t)

theorem IsBareKey.head {name : Text} (h : IsBareKey name) :
    ∃ c t, name = c :: t ∧ isBare c = true := by
  cases name with
  | nil => exact absurd rfl h.ne
  | cons c t => exact ⟨c, t, rfl, h.bare c List.mem_cons_self⟩

theorem DottedKey.head {names : List Text} {t : Text} (h : DottedKey names t) :
    ∃ c u, t = c :: u ∧ isBare c = true := by
  cases h with
  | last bare => exact bare.head
  | cons bare _ =>
    obtain ⟨c, u, rfl, hc⟩ := bare.head
    exact ⟨c, _, rfl, hc⟩

/-- A text that starts a key does not start with a sign that no bare key has. -/
theorem cons_ne_of_isBare {c d : Char} {t u : Text} (hc : isBare c = true) (hd : isBare d = false) :
    c :: t ≠ d :: u := by
  intro heq
  obtain rfl := (List.cons.inj heq).1
  rw [hc] at hd
  cases hd

/-- Signs with which no key and no value starts that holds no other. -/
def signs : List Char := [' ', '\t', '\n', '\r', '#', '[', ']', '\x7b', '\x7d', '\uFEFF']

theorem not_mem_signs_of_isBare {c : Char} (h : isBare c = true) : c ∉ signs := by
  have hsigns : ∀ d ∈ signs, isBare d = false := by simp [signs, isBare]
  intro hc
  simp [hsigns c hc] at h

section
variable {c : Char} (hc : c ∉ signs)
include hc

theorem cons_ne_of_not_mem_signs {d : Char} {t u : Text} (hd : d ∈ signs) : c :: t ≠ d :: u := by
  intro heq
  obtain rfl := (List.cons.inj heq).1
  exact hc hd

theorem isBlank_of_not_mem_signs : isBlank c = false := by
  rw [← Bool.not_eq_true]
  intro hblank
  simp only [isBlank, Bool.or_eq_true, decide_eq_true_eq] at hblank
  rcases hblank with rfl | rfl <;> exact hc (by decide)

theorem skipBlanks_of_head (t : Text) : skipBlanks (c :: t) = c :: t := by
  rw [skipBlanks, List.dropWhile_cons_of_neg (by simp [isBlank_of_not_mem_signs hc])]

theorem skipGaps_of_head (t : Text) : skipGaps false (c :: t) = c :: t := by
  rw [skipGaps]
  · rw [isBlank_of_not_mem_signs hc, if_neg (by simp), if_neg]
    rintro rfl
    exact hc (by decide)
  · rintro rfl
    exact hc (by decide)
  · rintro after rfl
    exact absurd hc (by decide)

end

theorem simpleKey?_bare {name : Text} (h : IsBareKey name) {rest : Text}
    (hrest : Stops isBare rest) : simpleKey? (name ++ rest) = some (name, rest) := by
  have htake := takeWhile_run h.bare hrest
  have hdrop := dropWhile_run h.bare hrest
  obtain ⟨c, t, rfl, hc⟩ := h.head
  rw [List.cons_append] at htake hdrop ⊢
  rw [simpleKey?]
  · simp only [htake, hdrop, if_neg h.ne]
  · exact fun _ => cons_ne_of_isBare hc (by decide)
  · exact fun _ => cons_ne_of_isBare hc (by decide)

theorem key?_dottedKey {names : List Text} {t : Text} (h : DottedKey names t) {rest : Text}
    (hstop : Stops isBare rest) (hdot : ∀ c ∈ (skipBlanks rest).head?, c ≠ '.') {n : Nat}
    (hn : names.length ≤ n) : key? n (t ++ rest) = some (names, skipBlanks rest) := by
  induction h generalizing n with
  | @last name bare =>
    obtain ⟨n, rfl⟩ := Nat.exists_eq_add_one.mpr hn
    have hname := simpleKey?_bare bare hstop
    obtain ⟨c, t, rfl, hc⟩ := bare.head
    rw [List.cons_append] at hname ⊢
    rw [key?, skipBlanks_of_head (not_mem_signs_of_isBare hc), hname]
    simp only [Option.bind_eq_bind, Option.bind_some]
    split
    · rename_i heq
      exact absurd rfl (hdot '.' (by rw [heq]; rfl))
    · rfl
  | @cons name t names bare _ ih =>
    obtain ⟨n, rfl⟩ := Nat.exists_eq_add_one.mpr (Nat.lt_of_lt_of_le (Nat.succ_pos _) hn)
    have hname := simpleKey?_bare bare (stops_cons (t := t ++ rest) (p := isBare) (c := '.') (by decide))
    have hrest := ih (Nat.le_of_succ_le_succ hn)
    obtain ⟨c, u, rfl, hc⟩ := bare.head
    rw [List.append_assoc, List.cons_append, List.cons_append] at *
    rw [key?, skipBlanks_of_head (not_mem_signs_of_isBare hc), hname]
    simp only [Option.bind_eq_bind, Option.bind_some]
    rw [skipBlanks, List.dropWhile_cons_of_neg (by decide)]
    simp only [hrest, Option.bind_some]
    rfl

section
variable {names : List Text} {k : Text} (key : DottedKey names k) (short : names.length ≤ depthLimit)
include key short

theorem key?_equals (rest : Text) :
    key? depthLimit (k ++ ' ' :: '=' :: rest) = some (names, '=' :: rest) := by
  refine key?_dottedKey key (stops_cons (by decide)) ?_ short
  intro c hc
  obtain rfl := Option.some.inj hc
  decide

theorem key?_bracket (rest : Text) :
    key? depthLimit (k ++ ']' :: rest) = some (names, ']' :: rest) := by
  refine key?_dottedKey key (stops_cons (by decide)) ?_ short
  intro c hc
  obtain rfl := Option.some.inj hc
  decide

end

/-! ## Values -/

def booleanText (b : Bool) : Text :=
  if b then ['t', 'r', 'u', 'e'] else ['f', 'a', 'l', 's', 'e']

/-- A value that holds no other. -/
inductive Scalar : Value → Text → Prop
  | boolean (b : Bool) : Scalar (.boolean b) (booleanText b)
  | integer {n : Int} {t : Text} (written : Decimal n t) (low : -0x8000000000000000 ≤ n)
      (high : n ≤ 0x7FFFFFFFFFFFFFFF) : Scalar (.integer n) t
  | string {s q : Text} (written : Quoted s q) : Scalar (.string s) q

/-- A definition whose value is written in one of some ways. -/
inductive Definition (W : Value → Text → Prop) : List Text × Value → Text → Prop
  | mk {names : List Text} {k t : Text} {v : Value} (key : DottedKey names k)
      (short : names.length ≤ depthLimit) (value : W v t) :
      Definition W (names, v) (k ++ ' ' :: '=' :: ' ' :: t)

/-- One key without dots. -/
theorem definition_bare {W : Value → Text → Prop} {name t : Text} {v : Value} (bare : IsBareKey name)
    (value : W v t) : Definition W ([name], v) (name ++ ' ' :: '=' :: ' ' :: t) :=
  .mk (.last bare) (by simp [depthLimit]) value

/-- A key with one dot. -/
theorem definition_dotted {W : Value → Text → Prop} {first second t : Text} {v : Value}
    (bare : IsBareKey first) (bare' : IsBareKey second) (value : W v t) :
    Definition W ([first, second], v) ((first ++ '.' :: second) ++ ' ' :: '=' :: ' ' :: t) :=
  .mk (.cons bare (.last bare')) (by simp [depthLimit]) value

/-- What stands behind the opening bracket of an array. -/
inductive Items : List Value → Text → Prop
  | last {v : Value} {t : Text} (item : Scalar v t) : Items [v] (t ++ [']'])
  | cons {v : Value} {t u : Text} {vs : List Value} (item : Scalar v t) (rest : Items vs u) :
      Items (v :: vs) (t ++ ',' :: ' ' :: u)

/-- What stands behind the opening brace of an inline table and a blank. -/
inductive Members : List (List Text × Value) → Text → Prop
  | last {d : List Text × Value} {t : Text} (member : Definition Scalar d t) :
      Members [d] (t ++ [' ', '\x7d'])
  | cons {d : List Text × Value} {t u : Text} {ds : List (List Text × Value)}
      (member : Definition Scalar d t) (rest : Members ds u) :
      Members (d :: ds) (t ++ ',' :: ' ' :: u)

/-- A value on one line. -/
inductive Written : Value → Text → Prop
  | scalar {v : Value} {t : Text} (written : Scalar v t) : Written v t
  | array {vs : List Value} {t : Text} (items : Items vs t) : Written (.array vs) ('[' :: t)
  | inline {ds : List (List Text × Value)} {t : Text} {table : Table} (members : Members ds t)
      (defined : ds.foldlM Table.define? [] = some table) :
      Written (.table .inline table) ('\x7b' :: ' ' :: t)

theorem Scalar.head {v : Value} {t : Text} (h : Scalar v t) : ∃ c u, t = c :: u ∧ c ∉ signs := by
  cases h with
  | boolean b => cases b <;> exact ⟨_, _, rfl, by decide⟩
  | integer written _ _ =>
    obtain ⟨c, u, rfl, hc⟩ := written.head
    refine ⟨c, u, rfl, ?_⟩
    have hsigns : ∀ d ∈ signs, d ∉ ['+', '-'] ∧ d.isDigit = false := by simp [signs]
    rintro hmem
    obtain ⟨hsign, hdigit⟩ := hsigns c hmem
    rcases hc with hc | hc
    · exact hsign hc
    · simp [hdigit] at hc
  | string written =>
    obtain ⟨_⟩ := written
    exact ⟨_, _, rfl, by decide⟩

theorem scalar?_written {v : Value} {t : Text} (h : Scalar v t) {e : Char} (he : e ∈ ends)
    (rest : Text) : scalar? (t ++ e :: rest) = some (v, e :: rest) := by
  cases h with
  | boolean b => cases b <;> rfl
  | integer written low high =>
    have hnumber := number?_decimal written low high he rest
    obtain ⟨c, u, rfl, hc⟩ := written.head
    have hletters : ∀ d ∈ ['"', '\'', 't', 'f'], d ∉ ['+', '-'] ∧ d.isDigit = false := by simp
    have hne : ∀ d ∈ ['"', '\'', 't', 'f'], c ≠ d := by
      rintro d hd rfl
      rcases hc with hc | hc
      · exact (hletters c hd).1 hc
      · simp [(hletters c hd).2] at hc
    rw [List.cons_append] at hnumber ⊢
    unfold scalar?
    simp only [string?_none (hne '"' (by decide)) (hne '\'' (by decide))]
    split
    · rename_i heq
      exact absurd (List.cons.inj heq).1 (hne 't' (by decide))
    · rename_i heq
      exact absurd (List.cons.inj heq).1 (hne 'f' (by decide))
    · exact hnumber
  | string written =>
    unfold scalar?
    rw [string?_quoted written]
    rintro heq
    obtain rfl := Option.some.inj heq
    exact absurd he (by decide)

theorem value?_of_head {c : Char} (hc : c ∉ signs) (t : Text) (depth : Nat) :
    value? depth (c :: t) = scalar? (c :: t) := by
  cases depth with
  | zero => rfl
  | succ depth =>
    rw [value?]
    · exact fun _ => cons_ne_of_not_mem_signs hc (by decide)
    · exact fun _ => cons_ne_of_not_mem_signs hc (by decide)

theorem value?_scalar {v : Value} {t : Text} (h : Scalar v t) (depth : Nat) {e : Char}
    (he : e ∈ ends) (rest : Text) : value? depth (t ++ e :: rest) = some (v, e :: rest) := by
  have hread := scalar?_written h he rest
  obtain ⟨c, u, rfl, hc⟩ := h.head
  rw [List.cons_append] at hread ⊢
  rw [value?_of_head hc, hread]

/-- A reader of values that reads what is written in some ways. -/
structure Reads (value? : Text → Option (Value × Text)) (W : Value → Text → Prop) : Prop where
  head : ∀ {v t}, W v t → ∃ c u, t = c :: u ∧ isBlank c = false
  read : ∀ {v t}, W v t → ∀ {e}, e ∈ ends → ∀ rest,
    value? (t ++ e :: rest) = some (v, e :: rest)

theorem reads_scalar (depth : Nat) : Reads (value? depth) Scalar where
  head h := by
    obtain ⟨c, u, rfl, hc⟩ := h.head
    exact ⟨c, u, rfl, isBlank_of_not_mem_signs hc⟩
  read h _ he rest := value?_scalar h depth he rest

theorem definition?_written {W : Value → Text → Prop} {value? : Text → Option (Value × Text)}
    (reads : Reads value? W)
    {d : List Text × Value} {t : Text} (h : Definition W d t) {e : Char} (he : e ∈ ends)
    (rest : Text) : definition? value? (t ++ e :: rest) = some (d, e :: rest) := by
  obtain ⟨key, short, value⟩ := h
  rename_i names k t v
  have hvalue := reads.read value he rest
  obtain ⟨c, u, rfl, hc⟩ := reads.head value
  have hkey := key?_equals key short (' ' :: (c :: u ++ e :: rest))
  have hequals : Text.after? ['='] ('=' :: ' ' :: (c :: u ++ e :: rest)) =
      some (' ' :: (c :: u ++ e :: rest)) := Key.after?_eq_some_iff.mpr rfl
  have hblank : skipBlanks (' ' :: (c :: u ++ e :: rest)) = c :: u ++ e :: rest := by
    rw [skipBlanks, List.dropWhile_cons_of_pos rfl, List.cons_append,
      List.dropWhile_cons_of_neg (by simp [hc])]
  rw [List.append_assoc, definition?]
  simp only [List.cons_append, Option.bind_eq_bind] at *
  rw [hkey]
  simp only [Option.bind_some, hequals, hblank, hvalue]
  rfl

theorem Definition.head {W : Value → Text → Prop} {d : List Text × Value} {t : Text}
    (h : Definition W d t) : ∃ c u, t = c :: u ∧ isBare c = true := by
  obtain ⟨key, _, _⟩ := h
  obtain ⟨c, u, rfl, hc⟩ := key.head
  exact ⟨c, _, rfl, hc⟩

theorem Items.length_le {vs : List Value} {t : Text} (h : Items vs t) : vs.length ≤ t.length := by
  induction h with
  | last _ => simp
  | cons _ _ ih =>
    simp only [List.length_cons, List.length_append]
    omega

theorem Members.length_le {ds : List (List Text × Value)} {t : Text} (h : Members ds t) :
    ds.length ≤ t.length := by
  induction h with
  | last _ => simp
  | cons _ _ ih =>
    simp only [List.length_cons, List.length_append]
    omega

theorem Members.head {ds : List (List Text × Value)} {t : Text} (h : Members ds t) :
    ∃ c u, t = c :: u ∧ isBare c = true := by
  cases h with
  | last member =>
    obtain ⟨c, u, rfl, hc⟩ := member.head
    exact ⟨c, _, rfl, hc⟩
  | cons member _ =>
    obtain ⟨c, u, rfl, hc⟩ := member.head
    exact ⟨c, _, rfl, hc⟩

section
variable {value? : Text → Option (Value × Text)} (reads : Reads value? Scalar)

theorem items?_blank (n : Nat) (t : Text) : items? value? n (' ' :: t) = items? value? n t := by
  cases n with
  | zero => rfl
  | succ n => rfl

theorem definitions?_blank (n : Nat) (t : Text) :
    definitions? value? n (' ' :: t) = definitions? value? n t := by
  cases n with
  | zero => rfl
  | succ n => rfl

include reads

theorem items?_written {vs : List Value} {t : Text} (h : Items vs t) {n : Nat}
    (hn : vs.length ≤ n) (rest : Text) : items? value? n (t ++ rest) = some (vs, rest) := by
  induction h generalizing n with
  | last item =>
    obtain ⟨n, rfl⟩ := Nat.exists_eq_add_one.mpr hn
    have hitem := reads.read item (e := ']') (by decide) rest
    obtain ⟨c, u, rfl, hc⟩ := item.head
    rw [List.append_assoc, List.singleton_append]
    rw [List.cons_append] at hitem ⊢
    rw [items?, skipGaps_of_head hc]
    split
    · rename_i heq
      exact absurd heq (cons_ne_of_not_mem_signs hc (by decide))
    · rw [hitem]
      rfl
  | @cons v t w vs item _ ih =>
    obtain ⟨n, rfl⟩ := Nat.exists_eq_add_one.mpr (Nat.lt_of_lt_of_le (Nat.succ_pos _) hn)
    have hitem := reads.read item (e := ',') (by decide) (' ' :: (w ++ rest))
    have hrest := ih (Nat.le_of_succ_le_succ hn)
    obtain ⟨c, u, rfl, hc⟩ := item.head
    simp only [List.append_assoc, List.cons_append] at hitem ⊢
    rw [items?, skipGaps_of_head hc]
    split
    · rename_i heq
      exact absurd heq (cons_ne_of_not_mem_signs hc (by decide))
    · rw [hitem]
      have hcomma : skipGaps false (',' :: ' ' :: (w ++ rest)) = ',' :: ' ' :: (w ++ rest) := rfl
      simp only [Option.bind_eq_bind, Option.bind_some, hcomma, items?_blank, hrest]
      rfl

theorem definitions?_written {ds : List (List Text × Value)} {t : Text} (h : Members ds t) {n : Nat}
    (hn : ds.length ≤ n) (rest : Text) : definitions? value? n (t ++ rest) = some (ds, rest) := by
  induction h generalizing n with
  | last member =>
    obtain ⟨n, rfl⟩ := Nat.exists_eq_add_one.mpr hn
    have hmember := definition?_written reads member (e := ' ') (by decide) ('\x7d' :: rest)
    rw [List.append_assoc, List.cons_append, List.singleton_append, definitions?, hmember]
    rfl
  | @cons d t w ds member _ ih =>
    obtain ⟨n, rfl⟩ := Nat.exists_eq_add_one.mpr (Nat.lt_of_lt_of_le (Nat.succ_pos _) hn)
    have hmember := definition?_written reads member (e := ',') (by decide) (' ' :: (w ++ rest))
    have hrest := ih (Nat.le_of_succ_le_succ hn)
    have hcomma : skipBlanks (',' :: ' ' :: (w ++ rest)) = ',' :: ' ' :: (w ++ rest) := rfl
    rw [List.append_assoc, List.cons_append, List.cons_append, definitions?, hmember]
    simp only [Option.bind_eq_bind, Option.bind_some, hcomma, definitions?_blank, hrest]
    rfl

end

theorem inlineTable?_written {ds : List (List Text × Value)} {t : Text} {table : Table}
    (h : Members ds t) (hdefined : ds.foldlM Table.define? [] = some table) (depth : Nat)
    (rest : Text) : inlineTable? (value? depth) (' ' :: (t ++ rest)) =
      some (.table .inline table, rest) := by
  have hdefs := definitions?_written (reads_scalar depth) h (n := (t ++ rest).length)
    (Nat.le_trans h.length_le (by simp)) rest
  obtain ⟨c, u, rfl, hc⟩ := h.head
  have hblank : skipBlanks (' ' :: (c :: u ++ rest)) = c :: u ++ rest :=
    (List.dropWhile_cons_of_pos rfl).trans (skipBlanks_of_head (not_mem_signs_of_isBare hc) _)
  rw [inlineTable?, hblank]
  split
  · rename_i heq
    exact absurd heq (cons_ne_of_isBare hc (by decide))
  · simp only [hdefs, hdefined, Option.bind_eq_bind, Option.bind_some]
    rfl

theorem reads_written (depth : Nat) : Reads (value? (depth + 1)) Written where
  head h := by
    cases h with
    | scalar written => exact (reads_scalar depth).head written
    | array _ => exact ⟨_, _, rfl, rfl⟩
    | inline _ _ => exact ⟨_, _, rfl, rfl⟩
  read h e he rest := by
    cases h with
    | scalar written => exact value?_scalar written _ he rest
    | @array vs t items =>
      have hitems := items?_written (reads_scalar depth) items (n := (t ++ e :: rest).length)
        (Nat.le_trans items.length_le (by simp)) (e :: rest)
      rw [List.cons_append, value?, hitems]
      rfl
    | inline members defined =>
      exact inlineTable?_written members defined depth (e :: rest)

/-! ## Lines -/

/-- No statement starts with a comment or the end of a line. -/
theorem head_of_statement? {c : Char} {t : Text} {r : Statement × Text}
    (h : statement? (c :: t) = some r) : c ∉ ['#', '\n', '\r'] := by
  intro hc
  simp only [List.mem_cons, List.not_mem_nil, or_false] at hc
  rcases hc with rfl | rfl | rfl <;> cases h

/-- A line with a statement does not end before it. -/
theorem lineEnd?_of_statement? {t : Text} {r : Statement × Text}
    (h : statement? (skipBlanks t) = some r) : lineEnd? t = none := by
  rw [lineEnd?]
  generalize skipBlanks t = u at h ⊢
  cases u with
  | nil => cases h
  | cons c u =>
    have hc := head_of_statement? h
    simp only [List.mem_cons, List.not_mem_nil, or_false, not_or] at hc
    have hcomment : skipComment (c :: u) = c :: u := by
      rw [skipComment]
      exact fun _ heq => hc.1 (List.cons.inj heq).1
    rw [hcomment]
    simp only [newline?]
    split
    · rename_i heq
      exact absurd (List.cons.inj heq).1 hc.2.1
    · rename_i heq
      exact absurd (List.cons.inj heq).1 hc.2.2
    · rfl

theorem statements?_cons (n : Nat) (c : Char) (t : Text) : statements? (n + 1) (c :: t) =
    match lineEnd? (c :: t) with
    | some rest => statements? n rest
    | none => (statement? (skipBlanks (c :: t))).bind fun r =>
        (statements? n r.2).bind fun ss => some (r.1 :: ss) := by
  rw [statements?]
  · rfl
  · exact List.cons_ne_nil c t

/-- A statement on its line. -/
inductive Line : Statement → Text → Prop
  | header {names : List Text} {t : Text} (key : DottedKey names t)
      (short : names.length ≤ depthLimit) : Line (.table names) ('[' :: (t ++ [']']))
  | define {names : List Text} {v : Value} {t : Text} (definition : Definition Written (names, v) t) :
      Line (.define names v) t

theorem line_header {name : Text} (bare : IsBareKey name) :
    Line (.table [name]) ('[' :: (name ++ [']'])) :=
  .header (.last bare) (by simp [depthLimit])

/-- Lines one after the other, each with its end. -/
inductive Lines : List Statement → Text → Prop
  | nil : Lines [] []
  | cons {s : Statement} {t u : Text} {ss : List Statement} (line : Line s t) (rest : Lines ss u) :
      Lines (s :: ss) (t ++ '\n' :: u)

theorem Line.head {s : Statement} {t : Text} (h : Line s t) :
    ∃ c u, t = c :: u ∧ (c = '[' ∨ isBare c = true) := by
  cases h with
  | header _ _ => exact ⟨_, _, rfl, .inl rfl⟩
  | define definition =>
    obtain ⟨c, u, rfl, hc⟩ := definition.head
    exact ⟨c, u, rfl, .inr hc⟩

theorem statement?_line {s : Statement} {t : Text} (h : Line s t) (rest : Text) :
    statement? (t ++ '\n' :: rest) = some (s, rest) := by
  have hend : lineEnd? ('\n' :: rest) = some rest := rfl
  cases h with
  | @header names t key short =>
    have hkey := key?_bracket key short ('\n' :: rest)
    have hclose : Text.after? [']'] (']' :: '\n' :: rest) = some ('\n' :: rest) :=
      Key.after?_eq_some_iff.mpr rfl
    obtain ⟨c, u, rfl, hc⟩ := key.head
    simp only [List.cons_append, List.append_assoc, List.nil_append] at hkey ⊢
    rw [statement?]
    · simp only [hkey, hclose, hend, Option.bind_eq_bind, Option.bind_some]
      rfl
    · exact fun _ => cons_ne_of_isBare hc (by decide)
  | define definition =>
    have hread := definition?_written (reads_written 78) definition (e := '\n') (by decide) rest
    obtain ⟨c, u, rfl, hc⟩ := definition.head
    rw [List.cons_append] at hread ⊢
    rw [statement?]
    · simp only [depthLimit, hread, hend, Option.bind_eq_bind, Option.bind_some]
      rfl
    · exact fun _ => cons_ne_of_isBare hc (by decide)
    · exact fun _ => cons_ne_of_isBare hc (by decide)

theorem Lines.length_le {ss : List Statement} {t : Text} (h : Lines ss t) :
    ss.length ≤ t.length := by
  induction h with
  | nil => exact Nat.le_refl 0
  | cons _ _ ih =>
    simp only [List.length_cons, List.length_append]
    omega

theorem statements?_lines {ss : List Statement} {t : Text} (h : Lines ss t) {n : Nat}
    (hn : ss.length ≤ n) : statements? n t = some ss := by
  induction h generalizing n with
  | nil => rw [statements?]
  | @cons s t u ss line _ ih =>
    obtain ⟨n, rfl⟩ := Nat.exists_eq_add_one.mpr (Nat.lt_of_lt_of_le (Nat.succ_pos _) hn)
    have hstatement := statement?_line line u
    have hrest := ih (Nat.le_of_succ_le_succ hn)
    obtain ⟨c, w, rfl, hc⟩ := line.head
    have hskip : skipBlanks (c :: (w ++ '\n' :: u)) = c :: (w ++ '\n' :: u) := by
      rcases hc with rfl | hc
      · rfl
      · exact skipBlanks_of_head (not_mem_signs_of_isBare hc) _
    rw [List.cons_append] at hstatement ⊢
    rw [statements?_cons, lineEnd?_of_statement? (hskip.symm ▸ hstatement), hskip, hstatement,
      Option.bind_some, hrest]
    rfl

/-- A text that is made of lines gives the table that their statements build. -/
theorem read?_lines {ss : List Statement} {t : Text} (h : Lines ss t) : read? t = build? ss := by
  have hmark : skipMark t = t := by
    cases h with
    | nil => rfl
    | cons line _ =>
      obtain ⟨c, w, rfl, hc⟩ := line.head
      rw [List.cons_append, skipMark]
      intro after heq
      obtain rfl := (List.cons.inj heq).1
      exact absurd hc (by decide)
  rw [read?, hmark, statements?_lines h h.length_le]
  rfl

end MismatchLog.Toml
