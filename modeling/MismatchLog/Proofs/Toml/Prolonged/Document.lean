import MismatchLog.Proofs.Toml.Prolonged.Value
import MismatchLog.Proofs.Toml.Written

/-!
# Documents line by line

A line that follows a document is read as if it stood alone: the statements of the document come
first, then those of the line.

* `statement?_prolong`: a statement is read the same, and its line ends no later than the text did;
* `statements?_prolong`: the statements of a document with more lines;
* `read?_prolong`: its table.
-/

namespace MismatchLog.Toml

/-- What is left of a text with more lines behind the end of a line. Where the text ended without
a line feed, the lines bring one. -/
inductive Follows (more : Text) : Text → Text → Prop
  | within (rest : Text) : Follows more rest (prolong more rest)
  | after : Follows more [] more

/-! ## The end of a line -/

theorem skipComment_prolong (more t : Text) :
    skipComment (prolong more t) = prolong more (skipComment t) := by
  cases t with
  | nil => rfl
  | cons c t =>
    by_cases hsharp : c = '#'
    · subst hsharp
      exact dropWhile_prolong (by decide) more t
    · rw [prolong_cons, skipComment, skipComment]
      · rfl
      · simp [hsharp]
      · simp [hsharp]

theorem newline?_prolong {t rest : Text} (h : newline? t = some rest) (more : Text) :
    newline? (prolong more t) = some (prolong more rest) := by
  unfold newline? at h
  split at h
  · obtain rfl := Option.some.inj h
    rfl
  · obtain rfl := Option.some.inj h
    rfl
  · cases h

theorem lineEnd?_prolong {t rest : Text} (h : lineEnd? t = some rest) (more : Text) :
    ∃ rest', lineEnd? (prolong more t) = some rest' ∧ Follows more rest rest' := by
  rw [lineEnd?] at h ⊢
  rw [skipBlanks_prolong, skipComment_prolong]
  generalize skipComment (skipBlanks t) = u at h ⊢
  cases u with
  | nil =>
    obtain rfl := Option.some.inj h
    exact ⟨more, rfl, .after⟩
  | cons c u => exact ⟨prolong more rest, newline?_prolong h more, .within rest⟩

/-! ## Statements -/

/-- A header from its name on, with what closes it. -/
def header? (make : List Text → Statement) (close : Text) (t : Text) : Option (Statement × Text) :=
  (key? depthLimit t).bind fun r => (Text.after? close r.2).bind fun t => some (make r.1, t)

theorem header?_steady (make : List Text → Statement) {close : Text} (hclose : '\n' ∉ close) :
    Steady (header? make close) :=
  .of_eq (.bind (key?_steady depthLimit) fun names =>
    .skip (after?_exact hclose) (.pure (make names))) (fun _ => rfl) fun _ => rfl

/-- The header of a table behind its first bracket, or of an element of an array of tables. -/
def bracketed? : Text → Option (Statement × Text)
  | '[' :: t => header? .element [']', ']'] t
  | t => header? .table [']'] t

/-- A statement without the end of its line. -/
def clause? : Text → Option (Statement × Text)
  | '[' :: t => bracketed? t
  | t => (definition? (value? depthLimit) t).bind fun r => some (.define r.1.1 r.1.2, r.2)

theorem bracketed?_branches : Branches '[' (header? .element [']', ']']) (header? .table [']'])
    bracketed? where
  behind _ := rfl
  other t ht := by
    rw [bracketed?]
    exact ht

theorem clause?_branches : Branches '[' bracketed?
    (fun t => (definition? (value? depthLimit) t).bind fun r => some (.define r.1.1 r.1.2, r.2))
    clause? where
  behind _ := rfl
  other t ht := by
    rw [clause?]
    exact ht

theorem clause?_steady : Steady clause? :=
  .branch (by decide) clause?_branches clause?_branches
    (.branch (by decide) bracketed?_branches bracketed?_branches
      (header?_steady .element (by decide)) (header?_steady .table (by decide)))
    (.bind (definition?_steady (isValueReader_value? depthLimit).steady) fun d =>
      .pure (Statement.define d.1 d.2))

theorem statement?_eq (t : Text) : statement? t =
    (clause? t).bind fun r => (lineEnd? r.2).bind fun rest => some (r.1, rest) := by
  unfold statement?
  split
  · simp only [clause?, bracketed?, header?, Option.bind_eq_bind, Option.bind_assoc]
    rfl
  · rename_i t hne
    have hone := bracketed?_branches.other t fun u hu => hne u (by rw [hu])
    simp only [clause?, hone, header?, Option.bind_eq_bind, Option.bind_assoc]
    rfl
  · rename_i hne
    rw [clause?_branches.other t hne]
    simp only [Option.bind_eq_bind, Option.bind_assoc]
    rfl

theorem statement?_prolong {t rest : Text} {s : Statement} (h : statement? t = some (s, rest))
    (more : Text) :
    ∃ rest', statement? (prolong more t) = some (s, rest') ∧ Follows more rest rest' := by
  rw [statement?_eq] at h ⊢
  obtain ⟨⟨c, u⟩, hclause, hend⟩ := Option.bind_eq_some_iff.mp h
  obtain ⟨v, hv, heq⟩ := Option.bind_eq_some_iff.mp hend
  obtain ⟨rfl, rfl⟩ := Prod.mk.inj (Option.some.inj heq)
  obtain ⟨rest', hrest', hfollows⟩ := lineEnd?_prolong hv more
  refine ⟨rest', ?_, hfollows⟩
  rw [clause?_steady hclause more, Option.bind_some, hrest']
  rfl

/-! ## Documents -/

theorem statements?_mono {n m : Nat} (hle : n ≤ m) {t : Text} {ss : List Statement}
    (h : statements? n t = some ss) : statements? m t = some ss := by
  induction n generalizing m t ss with
  | zero =>
    cases t with
    | nil => rw [statements?] at h ⊢; exact h
    | cons c t => cases h
  | succ n ih =>
    obtain ⟨m, rfl⟩ := Nat.exists_eq_add_one.mpr (Nat.lt_of_lt_of_le (Nat.succ_pos n) hle)
    have ih {t ss} := @ih m (Nat.le_of_succ_le_succ hle) t ss
    cases t with
    | nil => rw [statements?] at h ⊢; exact h
    | cons c t =>
      rw [statements?_cons] at h ⊢
      cases hend : lineEnd? (c :: t) with
      | some rest =>
        rw [hend] at h
        exact ih h
      | none =>
        rw [hend] at h
        obtain ⟨r, hstatement, h⟩ := Option.bind_eq_some_iff.mp h
        obtain ⟨ss', hss, hcons⟩ := Option.bind_eq_some_iff.mp h
        exact Option.bind_eq_some_iff.mpr ⟨r, hstatement,
          Option.bind_eq_some_iff.mpr ⟨ss', ih hss, hcons⟩⟩

section
variable {more : Text} {m : Nat} {ss' : List Statement} (hmore : statements? m more = some ss')
include hmore

/-- Where the text is at its end, only the further lines are left. -/
theorem statements?_at_end {t' : Text} (h : Follows more [] t') {k : Nat} (hk : m + 1 ≤ k) :
    statements? k t' = some ss' := by
  cases h with
  | within =>
    obtain ⟨k, rfl⟩ := Nat.exists_eq_add_one.mpr (Nat.lt_of_lt_of_le (Nat.succ_pos m) hk)
    rw [prolong_nil, statements?_cons]
    exact statements?_mono (Nat.le_of_succ_le_succ hk) hmore
  | after => exact statements?_mono (Nat.le_of_succ_le hk) hmore

/-- A text that goes on has its own statements and then those of the further lines. The induction
is on the bound, one line at a time. -/
theorem statements?_prolong {n : Nat} {t : Text} {ss : List Statement}
    (h : statements? n t = some ss) {t' : Text} (ht' : Follows more t t') {k : Nat}
    (hk : n + m + 1 ≤ k) : statements? k t' = some (ss ++ ss') := by
  induction n generalizing t t' ss k with
  | zero =>
    cases t with
    | nil =>
      rw [statements?] at h
      obtain rfl := Option.some.inj h
      exact statements?_at_end hmore ht' (by omega)
    | cons c t => cases h
  | succ n ih =>
    cases t with
    | nil =>
      rw [statements?] at h
      obtain rfl := Option.some.inj h
      exact statements?_at_end hmore ht' (by omega)
    | cons c t =>
      obtain ⟨k, rfl⟩ : ∃ l, k = l + 1 := ⟨k - 1, by omega⟩
      cases ht'
      rw [statements?_cons] at h
      rw [prolong_cons, statements?_cons, ← prolong_cons, skipBlanks_prolong]
      cases hend : lineEnd? (c :: t) with
      | some rest =>
        rw [hend] at h
        obtain ⟨rest', hrest', hfollows⟩ := lineEnd?_prolong hend more
        rw [hrest']
        exact ih h hfollows (by omega)
      | none =>
        rw [hend] at h
        obtain ⟨⟨s, rest⟩, hstatement, h⟩ := Option.bind_eq_some_iff.mp h
        obtain ⟨ss₁, hss, heq⟩ := Option.bind_eq_some_iff.mp h
        obtain rfl := Option.some.inj heq
        obtain ⟨rest', hstatement', hfollows⟩ := statement?_prolong hstatement more
        have hend' : lineEnd? (prolong more (c :: t)) = none :=
          lineEnd?_of_statement? (by rw [skipBlanks_prolong]; exact hstatement')
        rw [hend', hstatement', Option.bind_some, ih hss hfollows (by omega)]
        rfl

end

theorem skipMark_prolong (more t : Text) :
    skipMark (prolong more t) = prolong more (skipMark t) := by
  cases t with
  | nil => rfl
  | cons c t =>
    by_cases hmark : c = '\uFEFF'
    · subst hmark
      rfl
    · rw [prolong_cons, skipMark, skipMark]
      · rfl
      · simp [hmark]
      · simp [hmark]

/-- A document with more lines gives what its statements build together with theirs. -/
theorem read?_prolong {t : Text} {table : Table} (h : read? t = some table) :
    ∃ ss, build? ss = some table ∧ ∀ {more ss'}, Lines ss' more →
      read? (prolong more t) = build? (ss ++ ss') := by
  obtain ⟨ss, hss, hbuild⟩ := Option.bind_eq_some_iff.mp h
  refine ⟨ss, hbuild, fun {more ss'} hmore => ?_⟩
  have hbound : (skipMark t).length + more.length + 1 ≤ (prolong more (skipMark t)).length := by
    rw [prolong, List.length_append, List.length_cons, Nat.add_assoc]
  have hread := statements?_prolong (statements?_lines hmore hmore.length_le) hss (.within _) hbound
  rw [read?, skipMark_prolong]
  simp only [hread, Option.bind_eq_bind, Option.bind_some]

end MismatchLog.Toml
