import MismatchLog.Proofs.Settings.Fields
import MismatchLog.Proofs.Text.Lowercase

/-!
# Settings, all or nothing and then field by field

* `formatOfName?_eq_some_iff`, `levelOfName?_eq_some_iff`: a format and a level are found by their
  names in any letter case of A to Z, though other alphabets are lower-cased too;
* `accepted_iff`: a text counts if it is a document with fields of the right types;
* `settings_all_or_nothing`: what all this makes of a text.
-/

namespace MismatchLog
namespace Settings

/-! ## Names -/

/-- The names of a format, in lower case. -/
def formatNames : Format → List Text
  | .text => ["text".toList, "txt".toList]
  | .json => ["json".toList]
  | .csv => ["csv".toList]

theorem formatOfName?_eq_some_iff {name : Text} {f : Format} :
    Format.ofName? name = some f ↔ Text.lower name ∈ formatNames f := by
  unfold Format.ofName?
  by_cases htext : Text.lower name = "text".toList ∨ Text.lower name = "txt".toList
  · rw [if_pos htext]
    rcases htext with h | h <;> rw [h] <;> cases f <;> decide
  · rw [if_neg htext]
    by_cases hjson : Text.lower name = "json".toList
    · rw [if_pos hjson, hjson]
      cases f <;> decide
    · rw [if_neg hjson]
      by_cases hcsv : Text.lower name = "csv".toList
      · rw [if_pos hcsv, hcsv]
        cases f <;> decide
      · rw [not_or] at htext
        rw [if_neg hcsv]
        cases f with
        | text => simpa [formatNames] using htext
        | json => simpa [formatNames] using hjson
        | csv => simpa [formatNames] using hcsv

/-- No level's name has a letter that lower-casing makes of one beyond ASCII. -/
theorem not_foreign_of_mem_name (l : Level) : ∀ c ∈ l.name, ¬ Text.Foreign c := by
  have hall : l.name.all (fun c => ¬ Text.Foreign c) = true := by cases l <;> decide
  exact fun c hc => of_decide_eq_true (List.all_eq_true.mp hall c hc)

theorem level_name_injective : Function.Injective Level.name := by
  intro l m h
  cases l <;> cases m <;> first | rfl | exact absurd h (by decide)

theorem levelOfName?_eq_some_iff {name : Text} {l : Level} :
    levelOfName? name = some l ↔ Text.lower name = l.name := by
  have hlower (m : Level) : Text.lowercase name = m.name ↔ Text.lower name = m.name :=
    Text.lowercase_eq_iff (not_foreign_of_mem_name m) name
  constructor
  · intro h
    have hname : l.name = Text.lowercase name := by simpa using List.find?_some h
    exact (hlower l).mp hname.symm
  · intro h
    have hname : l.name = Text.lowercase name := ((hlower l).mpr h).symm
    cases hfind : levelOfName? name with
    | none =>
      have hall : l ∈ Level.all := by cases l <;> decide
      exact absurd hname (by simpa using List.find?_eq_none.mp hfind l hall)
    | some m =>
      have hm : m.name = Text.lowercase name := by simpa using List.find?_some hfind
      rw [level_name_injective (hm.trans hname.symm)]

/-! ## What follows for the settings -/

/-- The format that a name stands for, and the warning if it stands for none. -/
inductive ChoosesFormat : Option Text → Format → List Warning → Prop
  | absent : ChoosesFormat none .text []
  | named {name : Text} {f : Format} (known : Text.lower name ∈ formatNames f) :
      ChoosesFormat (some name) f []
  | unknown {name : Text} (unknown : ∀ f, Text.lower name ∉ formatNames f) :
      ChoosesFormat (some name) .text [.unknownFormat name]

/-- The level that a name stands for, and the warning if it stands for none. -/
inductive ChoosesLevel : Option Text → Option Level → List Warning → Prop
  | absent : ChoosesLevel none none []
  | named {name : Text} {l : Level} (known : Text.lower name = l.name) :
      ChoosesLevel (some name) (some l) []
  | unknown {name : Text} (unknown : ∀ l : Level, Text.lower name ≠ l.name) :
      ChoosesLevel (some name) none [.unknownLevel name]

theorem quoted_infix (front name behind : Text) :
    '"' :: name ++ ['"'] <:+: (front ++ ['"']) ++ name ++ '"' :: behind :=
  ⟨front, behind, by simp only [List.append_assoc, List.cons_append, List.nil_append]⟩

theorem quoted_unknownFormat (name : Text) :
    '"' :: name ++ ['"'] <:+: (Warning.unknownFormat name).message :=
  quoted_infix "[report] format = ".toList name _

theorem quoted_unknownLevel (name : Text) :
    '"' :: name ++ ['"'] <:+: (Warning.unknownLevel name).message := by
  obtain ⟨front, behind, h⟩ := quoted_infix "[logging] level = ".toList name
    " is not recognised. Valid values: error, warn, info, debug, trace. ".toList
  refine ⟨front, behind ++ "Using default (warn).".toList, ?_⟩
  rw [← List.append_assoc, h]
  rfl

theorem choosesFormat (o : Option Text) :
    ChoosesFormat o ((o.bind Format.ofName?).getD .text)
      ((o.filter fun _ => o.bind Format.ofName? = none).toList.map .unknownFormat) := by
  cases o with
  | none => exact .absent
  | some name =>
    rw [Option.bind_some]
    cases hname : Format.ofName? name with
    | none =>
      simp only [Option.filter_some, decide_true, if_true]
      refine .unknown ?_
      intro f hf
      rw [formatOfName?_eq_some_iff.mpr hf] at hname
      cases hname
    | some f =>
      simp only [Option.filter_some, reduceCtorEq, decide_false, Bool.false_eq_true, if_false]
      exact .named (formatOfName?_eq_some_iff.mp hname)

theorem choosesLevel (o : Option Text) :
    ChoosesLevel o (o.bind levelOfName?)
      ((o.filter fun _ => o.bind levelOfName? = none).toList.map .unknownLevel) := by
  cases o with
  | none => exact .absent
  | some name =>
    rw [Option.bind_some]
    cases hname : levelOfName? name with
    | none =>
      simp only [Option.filter_some, decide_true, if_true]
      refine .unknown ?_
      intro l hl
      rw [levelOfName?_eq_some_iff.mpr hl] at hname
      cases hname
    | some l =>
      simp only [Option.filter_some, reduceCtorEq, decide_false, Bool.false_eq_true, if_false]
      exact .named (levelOfName?_eq_some_iff.mp hname)

theorem ofText_of_isIllTyped {t : Text} {table : Toml.Table} (hread : Toml.read? t = some table)
    (hill : IsIllTyped table) : ∃ e, ofText t = (default, [.illTyped e]) := by
  obtain ⟨e, he⟩ := ofTable_of_isIllTyped (Toml.read?_distinct hread) hill
  refine ⟨e, ?_⟩
  rw [ofText, hread]
  simp only [he]

theorem ofText_of_holds {t : Text} {table : Toml.Table} {f : Fields}
    (hread : Toml.read? t = some table) (hf : Holds table f) : ofText t = ofFields f := by
  have hfields := (ofTable_eq_ok_iff (Toml.read?_distinct hread)).mpr hf
  rw [ofText, hread]
  simp only [hfields]

/-! ## Texts that count -/

/-- The text, or a part of it, could not be read. -/
inductive Warning.IsRefusal : Warning → Prop
  | malformed : IsRefusal .malformed
  | illTyped (e : IllTyped) : IsRefusal (.illTyped e)

/-- A text about which no warning says that it could not be read. -/
def Accepted (t : Text) : Prop := ∀ w ∈ (ofText t).2, ¬ w.IsRefusal

theorem not_isRefusal_of_mem_ofFields {f : Fields} {w : Warning} (h : w ∈ (ofFields f).2) :
    ¬ w.IsRefusal := by
  rw [ofFields, List.mem_append] at h
  rcases h with h | h
  · obtain ⟨_, _, rfl⟩ := List.mem_map.mp h
    exact nofun
  · obtain ⟨_, _, rfl⟩ := List.mem_map.mp h
    exact nofun

theorem accepted_iff {t : Text} :
    Accepted t ↔ ∃ table f, Toml.read? t = some table ∧ Fields.ofTable table = .ok f := by
  constructor
  · intro h
    cases hread : Toml.read? t with
    | none =>
      rw [Accepted, ofText, hread] at h
      exact absurd .malformed (h .malformed List.mem_cons_self)
    | some table =>
      cases hfields : Fields.ofTable table with
      | error e =>
        rw [Accepted, ofText, hread] at h
        simp only [hfields] at h
        exact absurd (.illTyped e) (h (.illTyped e) List.mem_cons_self)
      | ok f => exact ⟨table, f, rfl, hfields⟩
  · rintro ⟨table, f, hread, hfields⟩
    rw [Accepted, ofText, hread]
    simp only [hfields]
    exact fun w hw => not_isRefusal_of_mem_ofFields hw

/-! ## The settings in a text -/

/-- **A document counts as a whole or not at all, and then field by field.** A text that is no
document, or in which a section or a field has the wrong type anywhere, leaves the defaults and gives
one warning. Otherwise each field has what the document gives it; a name that stands for nothing
leaves the default and is quoted in a warning, the format's before the level's. -/
theorem settings_all_or_nothing (t : Text) :
    (Toml.read? t = none ∨ (∃ table, Toml.read? t = some table ∧ IsIllTyped table) →
      ∃ w, (w = .malformed ∨ ∃ e, w = .illTyped e) ∧ ofText t = (⟨false, .text, none⟩, [w])) ∧
    (∀ table, Toml.read? t = some table → ¬ IsIllTyped table →
      ∃ (c : Option Bool) (f l : Option Text) (formatWarnings levelWarnings : List Warning),
        Field.counts.value? table = c.map .boolean ∧
        Field.format.value? table = f.map .string ∧
        Field.level.value? table = l.map .string ∧
        (ofText t).1.counts = c.getD false ∧
        ChoosesFormat f (ofText t).1.format formatWarnings ∧
        ChoosesLevel l (ofText t).1.level levelWarnings ∧
        (ofText t).2 = formatWarnings ++ levelWarnings) ∧
    (∀ name, '"' :: name ++ ['"'] <:+: (Warning.unknownFormat name).message ∧
      '"' :: name ++ ['"'] <:+: (Warning.unknownLevel name).message) ∧
    ∀ l, (ofText t).1.level = some l → l.name ∈
      ["error".toList, "warn".toList, "info".toList, "debug".toList, "trace".toList] := by
  refine ⟨?_, ?_, ?_, ?_⟩
  · rintro (hnone | ⟨table, hread, hill⟩)
    · exact ⟨.malformed, .inl rfl, by rw [ofText, hnone]; rfl⟩
    · obtain ⟨e, he⟩ := ofText_of_isIllTyped hread hill
      exact ⟨.illTyped e, .inr ⟨e, rfl⟩, he⟩
  · intro table hread htyped
    obtain ⟨f, hf⟩ := exists_holds htyped
    rw [ofText_of_holds hread hf]
    exact ⟨f.report.counts, f.report.format, f.logging.level, _, _, hf.counts, hf.format, hf.level,
      rfl, choosesFormat f.report.format, choosesLevel f.logging.level, rfl⟩
  · intro name
    exact ⟨quoted_unknownFormat name, quoted_unknownLevel name⟩
  · intro l _
    cases l <;> decide

/-- A field of the wrong type stands behind two that could be taken. -/
def lateFault : Text :=
  "[report]\ncounts = true\nformat = \"csv\"\n[logging]\nlevel = 5\n".toList

def lateFaultTable : Toml.Table :=
  [("report".toList, .table .header
      [("counts".toList, .boolean true), ("format".toList, .string "csv".toList)]),
    ("logging".toList, .table .header [("level".toList, .integer 5)])]

/-- The lower case of the level has a dot too many to be a name. -/
def dottedLevel : Text := "report.format = \"Txt\"\nlogging = [\"\u0130NFO\"]".toList

def dottedLevelTable : Toml.Table :=
  [("report".toList, .table .dotted [("format".toList, .string "Txt".toList)]),
    ("logging".toList, .array [.string "\u0130NFO".toList])]

theorem dottedLevel_holds :
    Holds dottedLevelTable ⟨⟨none, some "Txt".toList⟩, ⟨some "\u0130NFO".toList⟩⟩ where
  sections := by
    intro field v hv
    cases field with
    | counts => obtain rfl := Option.some.inj hv; exact .table _ _
    | format => obtain rfl := Option.some.inj hv; exact .table _ _
    | level => obtain rfl := Option.some.inj hv; exact .array _
  counts := rfl
  format := rfl
  level := rfl

theorem settings_all_or_nothing_late_fault :
    (Toml.read? lateFault = some lateFaultTable ∧ IsIllTyped lateFaultTable ∧
      ∃ w, (w = .malformed ∨ ∃ e, w = .illTyped e) ∧
        ofText lateFault = (⟨false, .text, none⟩, [w])) ∧
    (Toml.read? dottedLevel = some dottedLevelTable ∧ ¬ IsIllTyped dottedLevelTable ∧
      ∃ (f l : Option Text) (formatWarnings levelWarnings : List Warning),
        Field.format.value? dottedLevelTable = f.map .string ∧
        Field.level.value? dottedLevelTable = l.map .string ∧
        ChoosesFormat f (ofText dottedLevel).1.format formatWarnings ∧
        ChoosesLevel l (ofText dottedLevel).1.level levelWarnings ∧
        (ofText dottedLevel).2 = formatWarnings ++ levelWarnings) := by
  have hread : Toml.read? lateFault = some lateFaultTable := rfl
  have hlevel : Field.level.value? lateFaultTable = some (.integer 5) := rfl
  have hill : IsIllTyped lateFaultTable := .ofField hlevel nofun
  have hread' : Toml.read? dottedLevel = some dottedLevelTable := rfl
  have htyped := dottedLevel_holds.not_isIllTyped
  obtain ⟨c, f, l, formatWarnings, levelWarnings, -, hf, hl, -, hrest⟩ :=
    (settings_all_or_nothing dottedLevel).2.1 _ hread' htyped
  exact ⟨⟨hread, hill, (settings_all_or_nothing lateFault).1 (.inr ⟨_, hread, hill⟩)⟩,
    ⟨hread', htyped, f, l, formatWarnings, levelWarnings, hf, hl, hrest⟩⟩

end Settings
end MismatchLog
