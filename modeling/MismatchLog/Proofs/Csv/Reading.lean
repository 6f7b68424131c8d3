import MismatchLog.Csv
import MismatchLog.Proofs.Key.Spelling
import MismatchLog.Proofs.Text.Separated

/-!
# Reading comma-separated records

The grammar of records, apart from the writer: a field may be quoted whether or not it has to be,
commas part fields, and a line feed ends every record.

* `IsDocument`: a text is a written form of records;
* `read?`: a reader of such texts, and `read?_of_isDocument`, which says that it finds the records;
* `isDocument_unique`: so a text is a written form of one list of records at most;
* `isDocument_document`: what the writer writes is a written form of what it was given.
-/

namespace MismatchLog.Csv

open Text Key

/-! ## The grammar -/

/-- A sign that has a meaning of its own outside quotes. -/
def isSign (c : Char) : Bool := c = ',' || c = '"' || c = '\r' || c = '\n'

/-- A field between its quotes: a quote in it is written twice, and all else stands for itself. -/
inductive Doubled : Text → Text → Prop
  | nil : Doubled [] []
  | quote {field t : Text} : Doubled field t → Doubled ('"' :: field) ('"' :: '"' :: t)
  | plain {c : Char} {field t : Text} : c ≠ '"' → Doubled field t → Doubled (c :: field) (c :: t)

inductive IsField : Text → Text → Prop
  | bare {field : Text} : (∀ c ∈ field, isSign c = false) → IsField field field
  | quoted {field t : Text} : Doubled field t → IsField field ('"' :: t ++ ['"'])

/-- A field and a written form of it. -/
structure Cell where
  field : Text
  written : Text
  isField : IsField field written

inductive IsRecord : List Text → Text → Prop
  | cells {cells : List Cell} : cells ≠ [] →
      IsRecord (cells.map Cell.field) (commas (cells.map Cell.written) ++ ['\n'])

inductive IsDocument : List (List Text) → Text → Prop
  | nil : IsDocument [] []
  | cons {fields : List Text} {records : List (List Text)} {t u : Text} :
      IsRecord fields t → IsDocument records u → IsDocument (fields :: records) (t ++ u)

/-! ## The reader -/

/-- A field whose opening quote was read, up to the quote that closes it. -/
def quoted? : Text → Option (Text × Text)
  | [] => none
  | [c] => if c = '"' then some ([], []) else none
  | c :: d :: t =>
    if c ≠ '"' then (quoted? (d :: t)).map fun r => (c :: r.1, r.2)
    else if d = '"' then (quoted? t).map fun r => ('"' :: r.1, r.2)
    else some ([], d :: t)

def field? (t : Text) : Option (Text × Text) :=
  if t.head? = some '"' then quoted? t.tail
  else some (t.takeWhile (!isSign ·), t.dropWhile (!isSign ·))

def record? (t : Text) : Option (List Text × Text) := itemsUntil? '\n' field? t.length t

/-- Reads records, at most so many, to the end of the text. -/
def records? : Nat → Text → Option (List (List Text))
  | _, [] => some []
  | 0, _ :: _ => none
  | n + 1, c :: t =>
    match record? (c :: t) with
    | some (fields, rest) => (records? n rest).map (fields :: ·)
    | none => none

def read? (t : Text) : Option (List (List Text)) := records? t.length t

/-! ## The reader finds what is written -/

theorem quoted?_plain {c : Char} (hc : c ≠ '"') (t : Text) :
    quoted? (c :: t) = (quoted? t).map fun r => (c :: r.1, r.2) := by
  cases t with
  | nil => simp [quoted?, hc]
  | cons d t => simp [quoted?, hc]

theorem quoted?_doubled {field t : Text} (h : Doubled field t) {c : Char} (hc : c ≠ '"')
    (rest : Text) : quoted? (t ++ '"' :: c :: rest) = some (field, c :: rest) := by
  induction h with
  | nil => simp [quoted?, hc]
  | quote _ ih =>
    rw [List.cons_append, List.cons_append, quoted?, if_neg (by simp), if_pos rfl, ih]
    rfl
  | plain hne _ ih =>
    rw [List.cons_append, quoted?_plain hne, ih]
    rfl

theorem field?_of_isField {field t : Text} (h : IsField field t) {c : Char}
    (hc : c = ',' ∨ c = '\n') (rest : Text) : field? (t ++ c :: rest) = some (field, c :: rest) := by
  have hquote : c ≠ '"' := by rcases hc with rfl | rfl <;> decide
  cases h with
  | bare hplain =>
    have hhead : (field ++ c :: rest).head? ≠ some '"' := by
      cases field with
      | nil => simpa using hquote
      | cons d field =>
        intro hd
        obtain rfl : d = '"' := by simpa using hd
        exact absurd (hplain '"' List.mem_cons_self) (by decide)
    have hrun : ∀ d ∈ field, (!isSign d) = true := by
      intro d hd
      rw [hplain d hd]
      rfl
    have hstop : Stops (!isSign ·) (c :: rest) := by
      apply stops_cons
      rcases hc with rfl | rfl <;> decide
    rw [field?, if_neg hhead, takeWhile_run hrun hstop, dropWhile_run hrun hstop]
  | quoted hdoubled =>
    rw [field?, List.append_assoc, List.cons_append, if_pos List.head?_cons]
    exact quoted?_doubled hdoubled hquote rest

theorem record?_of_isRecord {fields : List Text} {t : Text} (h : IsRecord fields t) (rest : Text) :
    record? (t ++ rest) = some (fields, rest) := by
  cases h with
  | @cells cells hne =>
    have hlen := length_le_commas (cells.map Cell.written)
    rw [List.length_map] at hlen
    rw [record?, List.append_assoc]
    refine itemsUntil?_commas (by decide) hne ?_ ?_ rest
    · intro cell _ c rest hc
      exact field?_of_isField cell.isField hc rest
    · rw [List.length_append, List.length_append, List.length_singleton]
      omega

theorem isRecord_ne_nil {fields : List Text} {t : Text} (h : IsRecord fields t) : t ≠ [] := by
  cases h
  exact List.append_ne_nil_of_right_ne_nil _ (List.cons_ne_nil _ _)

theorem records?_of_isDocument {records : List (List Text)} {t : Text} (h : IsDocument records t)
    {n : Nat} (hn : t.length ≤ n) : records? n t = some records := by
  induction h generalizing n with
  | nil => cases n <;> rfl
  | @cons fields records t u hrecord _ ih =>
    have hpos : 0 < t.length := List.length_pos_iff.mpr (isRecord_ne_nil hrecord)
    rw [List.length_append] at hn
    have hfirst := record?_of_isRecord hrecord u
    cases hall : t ++ u with
    | nil => simp [List.append_eq_nil_iff, isRecord_ne_nil hrecord] at hall
    | cons c rest =>
      cases n with
      | zero => omega
      | succ n =>
        rw [hall] at hfirst
        simp only [records?, hfirst, ih (show u.length ≤ n by omega), Option.map_some]

theorem read?_of_isDocument {records : List (List Text)} {t : Text} (h : IsDocument records t) :
    read? t = some records :=
  records?_of_isDocument h (Nat.le_refl _)

theorem isDocument_unique {records records' : List (List Text)} {t : Text}
    (h : IsDocument records t) (h' : IsDocument records' t) : records = records' := by
  have heq := read?_of_isDocument h
  rw [read?_of_isDocument h'] at heq
  exact (Option.some.inj heq).symm

/-! ## The writer follows the grammar -/

theorem doubled_flatMap (field : Text) : Doubled field (field.flatMap quotedUnit) := by
  induction field with
  | nil => exact .nil
  | cons c field ih =>
    rw [List.flatMap_cons, quotedUnit]
    split
    · rename_i hc
      subst hc
      exact .quote ih
    · rename_i hc
      exact .plain hc ih

theorem isField_fieldUnits (field : Text) : IsField field (fieldUnits field).flatten := by
  unfold fieldUnits
  split
  · have hflat : (['"'] :: field.map quotedUnit ++ [['"']]).flatten =
        '"' :: field.flatMap quotedUnit ++ ['"'] := by
      simp [List.flatMap_def]
    rw [hflat]
    exact .quoted (doubled_flatMap field)
  · rename_i hbare
    have hflat : (field.map fun c => [c]).flatten = field := by
      rw [← List.flatMap_def, List.flatMap_singleton']
    rw [hflat]
    apply IsField.bare
    intro c hc
    have hnone : ∀ d ∈ field, isSign d = false := by
      simpa [needsQuotes, isSign] using hbare
    exact hnone c hc

/-- A field as the writer writes it. -/
def cell (field : Text) : Cell := ⟨field, (fieldUnits field).flatten, isField_fieldUnits field⟩

theorem record_eq {fields : List Text} (hne : fields ≠ []) :
    record fields = commas ((fields.map cell).map Cell.written) ++ ['\n'] := by
  induction fields with
  | nil => exact absurd rfl hne
  | cons field fields ih =>
    cases fields with
    | nil => simp [record, recordUnits, cell, commas_singleton]
    | cons next fields =>
      have hrest := ih (List.cons_ne_nil next fields)
      rw [record] at hrest
      rw [record, recordUnits, List.flatten_append, List.flatten_cons, hrest]
      · simp [commas_cons_cons, cell]
      · exact nofun

theorem isRecord_record {fields : List Text} (hne : fields ≠ []) :
    IsRecord fields (record fields) := by
  have hfields : (fields.map cell).map Cell.field = fields := by
    rw [List.map_map]
    exact List.map_id fields
  have h := @IsRecord.cells (fields.map cell) (by simpa using hne)
  rwa [hfields, ← record_eq hne] at h

theorem isDocument_document {records : List (List Text)} (h : ∀ fields ∈ records, fields ≠ []) :
    IsDocument records (document records) := by
  induction records with
  | nil => exact .nil
  | cons fields records ih =>
    rw [document, List.flatMap_cons]
    exact .cons (isRecord_record (h fields List.mem_cons_self))
      (ih fun r hr => h r (List.mem_cons_of_mem fields hr))

end MismatchLog.Csv
