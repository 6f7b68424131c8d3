import MismatchLog.Proofs.FileTree.Resolution
import MismatchLog.Proofs.Toml.Distinct
import MismatchLog.Settings

/-!
# The fields of a document

* `Holds`: the fields that a document gives, each by looking it up;
* `IsIllTyped`: one of its sections or fields has the wrong type;
* `ofTable_eq_ok_iff`: reading the members one by one comes to the same, because no name is defined
  twice.
-/

namespace MismatchLog

/-! ## Reading members one by one -/

section
variable {σ α β ε : Type} {add : σ → Text × α → Except ε σ}

theorem exists_foldlM_ok {members : List (Text × α)}
    (hstep : ∀ m ∈ members, ∀ s, ∃ s', add s m = .ok s') (s : σ) :
    ∃ s', members.foldlM add s = .ok s' := by
  induction members generalizing s with
  | nil => exact ⟨s, rfl⟩
  | cons m members ih =>
    obtain ⟨next, hnext⟩ := hstep m List.mem_cons_self s
    obtain ⟨s', hs'⟩ := ih (fun n hn => hstep n (List.mem_cons_of_mem m hn)) next
    refine ⟨s', ?_⟩
    rw [List.foldlM_cons, hnext]
    exact hs'

/-- One part of the state goes by one name: it comes from the member of that name, if there is one.
The induction is on the members, of which none behind that one has its name. -/
theorem lookup_of_foldlM {part : σ → β} {name : Text} {read : α → Except ε β}
    (hnamed : ∀ {s s' : σ} {v : α}, add s (name, v) = .ok s' → read v = .ok (part s'))
    (hother : ∀ {s s' : σ} {m : Text × α}, m.1 ≠ name → add s m = .ok s' → part s' = part s)
    {members : List (Text × α)} (hnodup : (members.map Prod.fst).Nodup) {s s' : σ}
    (hfold : members.foldlM add s = .ok s') :
    (members.lookup name = none ∧ part s' = part s) ∨
      ∃ v, members.lookup name = some v ∧ read v = .ok (part s') := by
  induction members generalizing s with
  | nil =>
    obtain rfl := Except.ok.inj hfold
    exact .inl ⟨rfl, rfl⟩
  | cons m members ih =>
    rw [List.map_cons, List.nodup_cons] at hnodup
    rw [List.foldlM_cons] at hfold
    cases hnext : add s m with
    | error e => rw [hnext] at hfold; cases hfold
    | ok next =>
      rw [hnext] at hfold
      have ih := ih hnodup.2 hfold
      obtain ⟨n, v⟩ := m
      by_cases hname : n = name
      · subst hname
        rcases ih with ⟨-, ih⟩ | ⟨w, hw, -⟩
        · right
          refine ⟨v, List.lookup_cons_self, ?_⟩
          rw [ih]
          exact hnamed hnext
        · obtain ⟨before, after, rfl, -⟩ := List.lookup_eq_some_iff.mp hw
          exact absurd (by simp) hnodup.1
      · rw [List.lookup_cons, beq_false_of_ne (Ne.symm hname)]
        rwa [hother hname hnext] at ih

end

namespace Settings

open FileTree (bind_eq_ok_iff)

/-! ## What a document says -/

/-- A value that can be a section: a table in any spelling, an array with the fields by position, or
a moment, which has no fields. -/
inductive IsSection : Toml.Value → Prop
  | table (origin : Toml.Origin) (members : Toml.Table) : IsSection (.table origin members)
  | moment : IsSection .moment
  | array (items : List Toml.Value) : IsSection (.array items)
  | tables (elements : List Toml.Table) : IsSection (.tables elements)

/-- What a section holds under a name, or at a place if it is an array. -/
def member? (name : Text) (place : Nat) : Toml.Value → Option Toml.Value
  | .table _ members => members.lookup name
  | .array items => items[place]?
  | .tables elements => elements[place]?.map (.table .header)
  | _ => none

inductive Field where
  | counts
  | format
  | level
  deriving DecidableEq, Repr

namespace Field

def home : Field → Text
  | .counts | .format => "report".toList
  | .level => "logging".toList

def name : Field → Text
  | .counts => "counts".toList
  | .format => "format".toList
  | .level => "level".toList

/-- Where an array has the field. -/
def place : Field → Nat
  | .counts | .level => 0
  | .format => 1

/-- A value of the type that a field has. -/
inductive Admits : Field → Toml.Value → Prop
  | counts (b : Bool) : Admits .counts (.boolean b)
  | format (t : Text) : Admits .format (.string t)
  | level (t : Text) : Admits .level (.string t)

/-- The value that a document gives to a field. -/
def value? (f : Field) (table : Toml.Table) : Option Toml.Value :=
  (table.lookup f.home).bind (member? f.name f.place)

theorem home_format : home .format = home .counts := rfl

end Field

/-- A section or a field of the document has the wrong type. -/
inductive IsIllTyped (table : Toml.Table) : Prop
  | ofSection {field : Field} {v : Toml.Value} (found : table.lookup field.home = some v)
      (foreign : ¬ IsSection v)
  | ofField {field : Field} {v : Toml.Value} (found : field.value? table = some v)
      (foreign : ¬ field.Admits v)

/-- What a document says of its fields, all of which have the right type. -/
structure Holds (table : Toml.Table) (f : Fields) : Prop where
  sections : ∀ (field : Field) (v : Toml.Value), table.lookup field.home = some v → IsSection v
  counts : Field.counts.value? table = f.report.counts.map .boolean
  format : Field.format.value? table = f.report.format.map .string
  level : Field.level.value? table = f.logging.level.map .string

theorem exists_eq_map {α : Type} {o : Option Toml.Value} {make : α → Toml.Value}
    (h : ∀ v, o = some v → ∃ a, v = make a) : ∃ c : Option α, o = c.map make := by
  cases o with
  | none => exact ⟨none, rfl⟩
  | some v =>
    obtain ⟨a, rfl⟩ := h v rfl
    exact ⟨some a, rfl⟩

theorem exists_holds {table : Toml.Table} (h : ¬ IsIllTyped table) : ∃ f, Holds table f := by
  have hadmits (field : Field) (v : Toml.Value) (hv : field.value? table = some v) :
      field.Admits v := by
    by_contra hforeign
    exact h (.ofField hv hforeign)
  obtain ⟨c, hc⟩ : ∃ c : Option Bool, Field.counts.value? table = c.map .boolean := by
    refine exists_eq_map fun v hv => ?_
    cases hadmits .counts v hv with
    | counts b => exact ⟨b, rfl⟩
  obtain ⟨f, hf⟩ : ∃ f : Option Text, Field.format.value? table = f.map .string := by
    refine exists_eq_map fun v hv => ?_
    cases hadmits .format v hv with
    | format t => exact ⟨t, rfl⟩
  obtain ⟨l, hl⟩ : ∃ l : Option Text, Field.level.value? table = l.map .string := by
    refine exists_eq_map fun v hv => ?_
    cases hadmits .level v hv with
    | level t => exact ⟨t, rfl⟩
  refine ⟨⟨⟨c, f⟩, ⟨l⟩⟩, ?_, hc, hf, hl⟩
  intro field v hv
  by_contra hforeign
  exact h (.ofSection hv hforeign)

theorem Holds.not_isIllTyped {table : Toml.Table} {f : Fields} (h : Holds table f) :
    ¬ IsIllTyped table := by
  rintro (⟨found, foreign⟩ | @⟨field, v, found, foreign⟩)
  · exact foreign (h.sections _ _ found)
  · apply foreign
    cases field with
    | counts =>
      obtain ⟨b, -, rfl⟩ := Option.map_eq_some_iff.mp (h.counts.symm.trans found)
      exact .counts b
    | format =>
      obtain ⟨t, -, rfl⟩ := Option.map_eq_some_iff.mp (h.format.symm.trans found)
      exact .format t
    | level =>
      obtain ⟨t, -, rfl⟩ := Option.map_eq_some_iff.mp (h.level.symm.trans found)
      exact .level t

/-! ## Reading a section -/

/-- A reader that accepts the values of one kind. -/
def Accepts {α : Type} (read : Toml.Value → Except IllTyped α) (make : α → Toml.Value) : Prop :=
  ∀ {v : Toml.Value} {a : α}, read v = .ok a ↔ v = make a

theorem boolean_accepts : Accepts boolean .boolean := by
  intro v a
  cases v <;> simp [boolean]

theorem string_accepts : Accepts string .string := by
  intro v a
  cases v <;> simp [string]

section
variable {α : Type} {read : Toml.Value → Except IllTyped α} {make : α → Toml.Value}
  (hread : Accepts read make)
include hread

theorem Accepts.mapM_eq_ok_iff {o : Option Toml.Value} {c : Option α} :
    o.mapM read = .ok c ↔ o = c.map make := by
  cases o with
  | none => cases c <;> simp [pure, Except.pure]
  | some v =>
    rw [Option.mapM_some]
    cases c with
    | none =>
      refine iff_of_false ?_ nofun
      cases read v <;> exact nofun
    | some a =>
      rw [Option.map_some, Option.some.injEq, ← hread]
      cases read v <;> simp [Functor.map, Except.map]

/-- What a fold over distinct names leaves of one name. -/
theorem Accepts.eq_map {o : Option Toml.Value} {c : Option α}
    (h : (o = none ∧ c = none) ∨ ∃ v, o = some v ∧ (read v).map some = .ok c) :
    o = c.map make := by
  rcases h with ⟨rfl, rfl⟩ | ⟨v, rfl, h⟩
  · rfl
  · cases hv : read v with
    | error e => rw [hv] at h; cases h
    | ok a =>
      rw [hv] at h
      obtain rfl := Except.ok.inj h
      rw [hread.mp hv]
      rfl

end

theorem ReportFields.add_counts {s s' : ReportFields} {v : Toml.Value}
    (h : s.add (Field.counts.name, v) = .ok s') : (boolean v).map some = .ok s'.counts := by
  obtain ⟨b, hb, h⟩ := bind_eq_ok_iff.mp h
  obtain rfl := Except.ok.inj h
  rw [hb]
  rfl

theorem ReportFields.add_format {s s' : ReportFields} {v : Toml.Value}
    (h : s.add (Field.format.name, v) = .ok s') : (string v).map some = .ok s'.format := by
  obtain ⟨t, ht, h⟩ := bind_eq_ok_iff.mp h
  obtain rfl := Except.ok.inj h
  rw [ht]
  rfl

/-- A member changes at most the field of its name. -/
theorem ReportFields.add_eq_ok {s s' : ReportFields} {m : Text × Toml.Value}
    (h : s.add m = .ok s') :
    (m.1 ≠ Field.counts.name → s'.counts = s.counts) ∧
      (m.1 ≠ Field.format.name → s'.format = s.format) := by
  unfold ReportFields.add at h
  split at h
  · rename_i hname
    obtain ⟨b, -, h⟩ := bind_eq_ok_iff.mp h
    obtain rfl := Except.ok.inj h
    exact ⟨fun hne => absurd hname hne, fun _ => rfl⟩
  · split at h
    · rename_i hname
      obtain ⟨t, -, h⟩ := bind_eq_ok_iff.mp h
      obtain rfl := Except.ok.inj h
      exact ⟨fun _ => rfl, fun hne => absurd hname hne⟩
    · obtain rfl := Except.ok.inj h
      exact ⟨fun _ => rfl, fun _ => rfl⟩

theorem ReportFields.exists_add {m : Text × Toml.Value}
    (hcounts : m.1 = Field.counts.name → ∃ b, m.2 = .boolean b)
    (hformat : m.1 = Field.format.name → ∃ t, m.2 = .string t) (s : ReportFields) :
    ∃ s', s.add m = .ok s' := by
  unfold ReportFields.add
  split
  · rename_i hname
    obtain ⟨b, hb⟩ := hcounts hname
    exact ⟨{ s with counts := some b }, by rw [hb]; rfl⟩
  · split
    · rename_i hname
      obtain ⟨t, ht⟩ := hformat hname
      exact ⟨{ s with format := some t }, by rw [ht]; rfl⟩
    · exact ⟨s, rfl⟩

theorem ReportFields.foldlM_eq_ok_iff {t : Toml.Table} (h : t.Distinct) {g : ReportFields} :
    t.foldlM add ⟨none, none⟩ = .ok g ↔
      t.lookup Field.counts.name = g.counts.map .boolean ∧
        t.lookup Field.format.name = g.format.map .string := by
  have hsound {g : ReportFields} (hfold : t.foldlM add ⟨none, none⟩ = .ok g) :
      t.lookup Field.counts.name = g.counts.map .boolean ∧
        t.lookup Field.format.name = g.format.map .string :=
    ⟨boolean_accepts.eq_map (lookup_of_foldlM add_counts (fun hne hadd => (add_eq_ok hadd).1 hne)
        h.names hfold),
      string_accepts.eq_map (lookup_of_foldlM add_format (fun hne hadd => (add_eq_ok hadd).2 hne)
        h.names hfold)⟩
  refine ⟨hsound, ?_⟩
  rintro ⟨hcounts, hformat⟩
  obtain ⟨g', hg'⟩ : ∃ g', t.foldlM add (⟨none, none⟩ : ReportFields) = .ok g' := by
    refine exists_foldlM_ok (fun m hm s => ?_) _
    have hlookup := h.lookup_of_mem hm
    refine exists_add ?_ ?_ s
    · intro hname
      rw [hname, hcounts, Option.map_eq_some_iff] at hlookup
      obtain ⟨b, -, hb⟩ := hlookup
      exact ⟨b, hb.symm⟩
    · intro hname
      rw [hname, hformat, Option.map_eq_some_iff] at hlookup
      obtain ⟨u, -, hu⟩ := hlookup
      exact ⟨u, hu.symm⟩
  obtain ⟨hcounts', hformat'⟩ := hsound hg'
  rw [hcounts] at hcounts'
  rw [hformat] at hformat'
  have hc : g.counts = g'.counts := Option.map_injective (fun _ _ => Toml.Value.boolean.inj) hcounts'
  have hf : g.format = g'.format := Option.map_injective (fun _ _ => Toml.Value.string.inj) hformat'
  rw [hg']
  show Except.ok (ReportFields.mk g'.counts g'.format) = .ok ⟨g.counts, g.format⟩
  rw [hc, hf]

/-- A section read member by member or by position. -/
theorem ReportFields.ofValue_eq_ok_iff {v : Toml.Value} (h : v.Distinct) {g : ReportFields} :
    ofValue v = .ok g ↔ IsSection v ∧
      member? Field.counts.name Field.counts.place v = g.counts.map .boolean ∧
      member? Field.format.name Field.format.place v = g.format.map .string := by
  have hitems (vs : List Toml.Value) :
      (do return ReportFields.mk (← vs[0]?.mapM boolean) (← vs[1]?.mapM string)) = .ok g ↔
        vs[0]? = g.counts.map .boolean ∧ vs[1]? = g.format.map .string := by
    rw [bind_eq_ok_iff]
    constructor
    · rintro ⟨c, hc, hrest⟩
      obtain ⟨f, hf, hg⟩ := bind_eq_ok_iff.mp hrest
      obtain rfl := Except.ok.inj hg
      exact ⟨boolean_accepts.mapM_eq_ok_iff.mp hc, string_accepts.mapM_eq_ok_iff.mp hf⟩
    · rintro ⟨hc, hf⟩
      exact ⟨g.counts, boolean_accepts.mapM_eq_ok_iff.mpr hc,
        bind_eq_ok_iff.mpr ⟨g.format, string_accepts.mapM_eq_ok_iff.mpr hf, rfl⟩⟩
  cases h with
  | boolean b => exact iff_of_false nofun (fun hsection => nomatch hsection.1)
  | integer n => exact iff_of_false nofun (fun hsection => nomatch hsection.1)
  | float x => exact iff_of_false nofun (fun hsection => nomatch hsection.1)
  | string t => exact iff_of_false nofun (fun hsection => nomatch hsection.1)
  | moment =>
    refine (foldlM_eq_ok_iff Toml.Table.distinct_nil).trans ?_
    exact (and_iff_right IsSection.moment).symm
  | @table origin members distinct =>
    refine (foldlM_eq_ok_iff distinct).trans ?_
    exact (and_iff_right (IsSection.table origin members)).symm
  | @array items _ =>
    refine (hitems items).trans ?_
    exact (and_iff_right (IsSection.array items)).symm
  | @tables elements _ =>
    refine (hitems (elements.map (.table .header))).trans ?_
    rw [List.getElem?_map, List.getElem?_map]
    exact (and_iff_right (IsSection.tables elements)).symm

theorem LoggingFields.add_level {s s' : LoggingFields} {v : Toml.Value}
    (h : s.add (Field.level.name, v) = .ok s') : (string v).map some = .ok s'.level := by
  obtain ⟨t, ht, h⟩ := bind_eq_ok_iff.mp h
  obtain rfl := Except.ok.inj h
  rw [ht]
  rfl

theorem LoggingFields.add_of_ne {s : LoggingFields} {m : Text × Toml.Value}
    (hne : m.1 ≠ Field.level.name) : s.add m = .ok s := if_neg hne

theorem LoggingFields.foldlM_eq_ok_iff {t : Toml.Table} (h : t.Distinct) {g : LoggingFields} :
    t.foldlM add ⟨none⟩ = .ok g ↔ t.lookup Field.level.name = g.level.map .string := by
  have hsound {g : LoggingFields} (hfold : t.foldlM add ⟨none⟩ = .ok g) :
      t.lookup Field.level.name = g.level.map .string := by
    refine string_accepts.eq_map (lookup_of_foldlM add_level ?_ h.names hfold)
    intro s s' m hne hadd
    rw [add_of_ne hne] at hadd
    rw [Except.ok.inj hadd]
  refine ⟨hsound, ?_⟩
  intro hlevel
  obtain ⟨g', hg'⟩ : ∃ g', t.foldlM add (⟨none⟩ : LoggingFields) = .ok g' := by
    refine exists_foldlM_ok (fun m hm s => ?_) _
    by_cases hname : m.1 = Field.level.name
    · have hlookup := h.lookup_of_mem hm
      rw [hname, hlevel, Option.map_eq_some_iff] at hlookup
      obtain ⟨u, -, hu⟩ := hlookup
      have hname : m.1 = "level".toList := hname
      exact ⟨⟨some u⟩, by rw [add, if_pos hname, ← hu]; rfl⟩
    · exact ⟨s, add_of_ne hname⟩
  have hlevel' := hsound hg'
  rw [hlevel] at hlevel'
  have hl : g.level = g'.level := Option.map_injective (fun _ _ => Toml.Value.string.inj) hlevel'
  rw [hg']
  show Except.ok (LoggingFields.mk g'.level) = .ok ⟨g.level⟩
  rw [hl]

theorem LoggingFields.ofValue_eq_ok_iff {v : Toml.Value} (h : v.Distinct) {g : LoggingFields} :
    ofValue v = .ok g ↔
      IsSection v ∧ member? Field.level.name Field.level.place v = g.level.map .string := by
  have hitems (vs : List Toml.Value) :
      (do return LoggingFields.mk (← vs[0]?.mapM string)) = .ok g ↔
        vs[0]? = g.level.map .string := by
    rw [bind_eq_ok_iff]
    constructor
    · rintro ⟨l, hl, hg⟩
      obtain rfl := Except.ok.inj hg
      exact string_accepts.mapM_eq_ok_iff.mp hl
    · intro hl
      exact ⟨g.level, string_accepts.mapM_eq_ok_iff.mpr hl, rfl⟩
  cases h with
  | boolean b => exact iff_of_false nofun (fun hsection => nomatch hsection.1)
  | integer n => exact iff_of_false nofun (fun hsection => nomatch hsection.1)
  | float x => exact iff_of_false nofun (fun hsection => nomatch hsection.1)
  | string t => exact iff_of_false nofun (fun hsection => nomatch hsection.1)
  | moment =>
    refine (foldlM_eq_ok_iff Toml.Table.distinct_nil).trans ?_
    exact (and_iff_right IsSection.moment).symm
  | @table origin members distinct =>
    refine (foldlM_eq_ok_iff distinct).trans ?_
    exact (and_iff_right (IsSection.table origin members)).symm
  | @array items _ =>
    refine (hitems items).trans ?_
    exact (and_iff_right (IsSection.array items)).symm
  | @tables elements _ =>
    refine (hitems (elements.map (.table .header))).trans ?_
    rw [List.getElem?_map]
    exact (and_iff_right (IsSection.tables elements)).symm

/-! ## Reading a document -/

theorem Fields.add_report {s s' : Fields} {v : Toml.Value}
    (h : s.add (Field.counts.home, v) = .ok s') : ReportFields.ofValue v = .ok s'.report := by
  obtain ⟨g, hg, h⟩ := bind_eq_ok_iff.mp h
  obtain rfl := Except.ok.inj h
  exact hg

theorem Fields.add_logging {s s' : Fields} {v : Toml.Value}
    (h : s.add (Field.level.home, v) = .ok s') : LoggingFields.ofValue v = .ok s'.logging := by
  obtain ⟨g, hg, h⟩ := bind_eq_ok_iff.mp h
  obtain rfl := Except.ok.inj h
  exact hg

/-- A member changes at most the section of its name. -/
theorem Fields.add_eq_ok {s s' : Fields} {m : Text × Toml.Value} (h : s.add m = .ok s') :
    (m.1 ≠ Field.counts.home → s'.report = s.report) ∧
      (m.1 ≠ Field.level.home → s'.logging = s.logging) := by
  unfold Fields.add at h
  split at h
  · rename_i hname
    obtain ⟨g, -, h⟩ := bind_eq_ok_iff.mp h
    obtain rfl := Except.ok.inj h
    exact ⟨fun hne => absurd hname hne, fun _ => rfl⟩
  · split at h
    · rename_i hname
      obtain ⟨g, -, h⟩ := bind_eq_ok_iff.mp h
      obtain rfl := Except.ok.inj h
      exact ⟨fun _ => rfl, fun hne => absurd hname hne⟩
    · obtain rfl := Except.ok.inj h
      exact ⟨fun _ => rfl, fun _ => rfl⟩

theorem Fields.exists_add {m : Text × Toml.Value}
    (hreport : m.1 = Field.counts.home → ∃ g, ReportFields.ofValue m.2 = .ok g)
    (hlogging : m.1 = Field.level.home → ∃ g, LoggingFields.ofValue m.2 = .ok g) (s : Fields) :
    ∃ s', s.add m = .ok s' := by
  unfold Fields.add
  split
  · rename_i hname
    obtain ⟨g, hg⟩ := hreport hname
    exact ⟨{ s with report := g }, by rw [hg]; rfl⟩
  · split
    · rename_i hname
      obtain ⟨g, hg⟩ := hlogging hname
      exact ⟨{ s with logging := g }, by rw [hg]; rfl⟩
    · exact ⟨s, rfl⟩

theorem holds_of_ofTable {t : Toml.Table} (h : t.Distinct) {f : Fields}
    (hf : Fields.ofTable t = .ok f) : Holds t f := by
  have hreport := lookup_of_foldlM Fields.add_report
    (fun hne hadd => (Fields.add_eq_ok hadd).1 hne) h.names hf
  have hlogging := lookup_of_foldlM Fields.add_logging
    (fun hne hadd => (Fields.add_eq_ok hadd).2 hne) h.names hf
  have hreport : (∀ v, t.lookup Field.counts.home = some v → IsSection v) ∧
      Field.counts.value? t = f.report.counts.map .boolean ∧
      Field.format.value? t = f.report.format.map .string := by
    unfold Field.value?
    rcases hreport with ⟨hnone, heq⟩ | ⟨v, hv, hread⟩
    · rw [Field.home_format, hnone, heq]
      exact ⟨nofun, rfl, rfl⟩
    · rw [Field.home_format, hv]
      obtain ⟨hsection, hc, hf⟩ := (ReportFields.ofValue_eq_ok_iff (h.lookup hv)).mp hread
      exact ⟨fun w hw => Option.some.inj hw ▸ hsection, hc, hf⟩
  have hlogging : (∀ v, t.lookup Field.level.home = some v → IsSection v) ∧
      Field.level.value? t = f.logging.level.map .string := by
    unfold Field.value?
    rcases hlogging with ⟨hnone, heq⟩ | ⟨v, hv, hread⟩
    · rw [hnone, heq]
      exact ⟨nofun, rfl⟩
    · rw [hv]
      obtain ⟨hsection, hl⟩ := (LoggingFields.ofValue_eq_ok_iff (h.lookup hv)).mp hread
      exact ⟨fun w hw => Option.some.inj hw ▸ hsection, hl⟩
  refine ⟨?_, hreport.2.1, hreport.2.2, hlogging.2⟩
  intro field
  cases field with
  | counts => exact hreport.1
  | format => exact hreport.1
  | level => exact hlogging.1

theorem exists_ofTable_of_holds {t : Toml.Table} (h : t.Distinct) {f : Fields}
    (hf : Holds t f) : ∃ f', Fields.ofTable t = .ok f' := by
  refine exists_foldlM_ok ?_ Fields.none
  intro m hm s
  have hlookup := h.lookup_of_mem hm
  have hdistinct : m.2.Distinct := h.values m hm
  refine Fields.exists_add ?_ ?_ s
  · intro hname
    rw [hname] at hlookup
    have hcounts := hf.counts
    have hformat := hf.format
    rw [Field.value?, hlookup, Option.bind_some] at hcounts
    rw [Field.value?, Field.home_format, hlookup,
      Option.bind_some] at hformat
    exact ⟨f.report, (ReportFields.ofValue_eq_ok_iff hdistinct).mpr
      ⟨hf.sections .counts _ hlookup, hcounts, hformat⟩⟩
  · intro hname
    rw [hname] at hlookup
    have hlevel := hf.level
    rw [Field.value?, hlookup, Option.bind_some] at hlevel
    exact ⟨f.logging, (LoggingFields.ofValue_eq_ok_iff hdistinct).mpr
      ⟨hf.sections .level _ hlookup, hlevel⟩⟩

/-- A document says one thing of its fields. -/
theorem Holds.unique {t : Toml.Table} {f g : Fields} (hf : Holds t f) (hg : Holds t g) : f = g := by
  have hc : f.report.counts = g.report.counts :=
    Option.map_injective (fun _ _ => Toml.Value.boolean.inj) (hf.counts.symm.trans hg.counts)
  have hm : f.report.format = g.report.format :=
    Option.map_injective (fun _ _ => Toml.Value.string.inj) (hf.format.symm.trans hg.format)
  have hl : f.logging.level = g.logging.level :=
    Option.map_injective (fun _ _ => Toml.Value.string.inj) (hf.level.symm.trans hg.level)
  show Fields.mk ⟨f.report.counts, f.report.format⟩ ⟨f.logging.level⟩ = _
  rw [hc, hm, hl]

theorem ofTable_eq_ok_iff {t : Toml.Table} (h : t.Distinct) {f : Fields} :
    Fields.ofTable t = .ok f ↔ Holds t f := by
  refine ⟨holds_of_ofTable h, ?_⟩
  intro hf
  obtain ⟨g, hg⟩ := exists_ofTable_of_holds h hf
  rw [hg, (holds_of_ofTable h hg).unique hf]

theorem ofTable_of_isIllTyped {t : Toml.Table} (h : t.Distinct) (hill : IsIllTyped t) :
    ∃ e, Fields.ofTable t = .error e := by
  cases hread : Fields.ofTable t with
  | error e => exact ⟨e, rfl⟩
  | ok f => exact absurd hill (holds_of_ofTable h hread).not_isIllTyped

end Settings
end MismatchLog
