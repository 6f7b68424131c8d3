import MismatchLog.Proofs.Settings.AllOrNothing
import MismatchLog.Proofs.Toml.Written

/-!
# Four ways to write the same settings

The two sections may be tables with headers, dotted keys, inline tables or arrays.

* `read?_document`: the table of a document in each style, however its strings are escaped;
* `ofText_document`: what it gives;
* `spellings_agree`: all four give the same settings and warnings, and every text survives its
  quotes.
-/

namespace MismatchLog
namespace Settings

open Toml (Value booleanText Scalar Lines IsBareKey Quoted quoted definition_bare definition_dotted
  line_header)

inductive Style where
  | headers
  | dotted
  | inline
  | positional

namespace Style

/-- All three fields, with the two strings in their quotes. -/
def document (counts : Bool) (format level : Text) : Style → Text
  | headers => "[report]\ncounts = ".toList ++ booleanText counts ++ "\nformat = ".toList ++ format ++
      "\n[logging]\nlevel = ".toList ++ level ++ "\n".toList
  | dotted => "report.counts = ".toList ++ booleanText counts ++ "\nreport.format = ".toList ++
      format ++ "\nlogging.level = ".toList ++ level ++ "\n".toList
  | inline => "report = \x7b counts = ".toList ++ booleanText counts ++ ", format = ".toList ++
      format ++ " \x7d\nlogging = \x7b level = ".toList ++ level ++ " \x7d\n".toList
  | positional => "report = [".toList ++ booleanText counts ++ ", ".toList ++ format ++
      "]\nlogging = [".toList ++ level ++ "]\n".toList

def statements (counts : Bool) (format level : Text) : Style → List Toml.Statement
  | headers =>
    [.table ["report".toList],
      .define ["counts".toList] (.boolean counts),
      .define ["format".toList] (.string format),
      .table ["logging".toList],
      .define ["level".toList] (.string level)]
  | dotted =>
    [.define ["report".toList, "counts".toList] (.boolean counts),
      .define ["report".toList, "format".toList] (.string format),
      .define ["logging".toList, "level".toList] (.string level)]
  | inline =>
    [.define ["report".toList] (.table .inline
        [("counts".toList, .boolean counts), ("format".toList, .string format)]),
      .define ["logging".toList] (.table .inline [("level".toList, .string level)])]
  | positional =>
    [.define ["report".toList] (.array [.boolean counts, .string format]),
      .define ["logging".toList] (.array [.string level])]

/-- The value of a section. -/
def value (style : Style) (members : Toml.Table) : Value :=
  match style with
  | headers => .table .header members
  | dotted => .table .dotted members
  | inline => .table .inline members
  | positional => .array (members.map Prod.snd)

def table (counts : Bool) (format level : Text) (style : Style) : Toml.Table :=
  [("report".toList,
      style.value [("counts".toList, .boolean counts), ("format".toList, .string format)]),
    ("logging".toList, style.value [("level".toList, .string level)])]

theorem build?_statements (counts : Bool) (format level : Text) (style : Style) :
    Toml.build? (style.statements counts format level) = some (style.table counts format level) := by
  cases style <;> rfl

end Style

theorem isBareKey_report : IsBareKey "report".toList := ⟨by decide, List.all_eq_true.mp (by decide)⟩

theorem isBareKey_counts : IsBareKey "counts".toList := ⟨by decide, List.all_eq_true.mp (by decide)⟩

theorem isBareKey_format : IsBareKey "format".toList := ⟨by decide, List.all_eq_true.mp (by decide)⟩

theorem isBareKey_logging : IsBareKey "logging".toList := ⟨by decide, List.all_eq_true.mp (by decide)⟩

theorem isBareKey_level : IsBareKey "level".toList := ⟨by decide, List.all_eq_true.mp (by decide)⟩

section
variable {counts : Bool} {format level qf ql : Text}

/-- The documents are made of lines. -/
theorem lines_document (hformat : Quoted format qf) (hlevel : Quoted level ql) (style : Style) :
    Lines (style.statements counts format level) (style.document counts qf ql) := by
  have hcounts : Scalar (.boolean counts) (booleanText counts) := .boolean counts
  have hformat : Scalar (.string format) qf := .string hformat
  have hlevel : Scalar (.string level) ql := .string hlevel
  -- the texts differ only in how they are bracketed
  have hlines : ∃ t, Lines (style.statements counts format level) t ∧
      style.document counts qf ql = t := by
    cases style with
    | headers =>
      refine ⟨_, .cons (line_header isBareKey_report)
        (.cons (.define (definition_bare isBareKey_counts (.scalar hcounts)))
          (.cons (.define (definition_bare isBareKey_format (.scalar hformat)))
            (.cons (line_header isBareKey_logging)
              (.cons (.define (definition_bare isBareKey_level (.scalar hlevel))) .nil)))), ?_⟩
      delta Style.document
      simp
    | dotted =>
      refine ⟨_, .cons (.define (definition_dotted isBareKey_report isBareKey_counts (.scalar hcounts)))
        (.cons (.define (definition_dotted isBareKey_report isBareKey_format (.scalar hformat)))
          (.cons (.define (definition_dotted isBareKey_logging isBareKey_level (.scalar hlevel)))
            .nil)), ?_⟩
      delta Style.document
      simp
    | inline =>
      refine ⟨_, .cons (.define (definition_bare isBareKey_report
          (.inline (.cons (definition_bare isBareKey_counts hcounts)
            (.last (definition_bare isBareKey_format hformat))) rfl)))
        (.cons (.define (definition_bare isBareKey_logging
          (.inline (.last (definition_bare isBareKey_level hlevel)) rfl))) .nil), ?_⟩
      delta Style.document
      simp
    | positional =>
      refine ⟨_, .cons (.define (definition_bare isBareKey_report
          (.array (.cons hcounts (.last hformat)))))
        (.cons (.define (definition_bare isBareKey_logging (.array (.last hlevel)))) .nil), ?_⟩
      delta Style.document
      simp
  obtain ⟨t, ht, rfl⟩ := hlines
  exact ht

theorem read?_document (hformat : Quoted format qf) (hlevel : Quoted level ql) (style : Style) :
    Toml.read? (style.document counts qf ql) = some (style.table counts format level) :=
  (Toml.read?_lines (lines_document hformat hlevel style)).trans
    (style.build?_statements counts format level)

end

theorem Style.isSection_value (style : Style) (members : Toml.Table) :
    IsSection (style.value members) := by
  cases style with
  | headers | dotted | inline => exact .table _ _
  | positional => exact .array _

theorem Style.holds_table (counts : Bool) (format level : Text) (style : Style) :
    Holds (style.table counts format level) ⟨⟨some counts, some format⟩, ⟨some level⟩⟩ where
  sections := by
    intro field v hv
    cases field with
    | counts | format | level =>
      obtain rfl := Option.some.inj hv
      exact style.isSection_value _
  counts := by cases style <;> rfl
  format := by cases style <;> rfl
  level := by cases style <;> rfl

theorem ofText_document {counts : Bool} {format level qf ql : Text} (hformat : Quoted format qf)
    (hlevel : Quoted level ql) (style : Style) :
    Accepted (style.document counts qf ql) ∧
      ofText (style.document counts qf ql) = ofFields ⟨⟨some counts, some format⟩, ⟨some level⟩⟩ := by
  have hread : Toml.read? (style.document counts qf ql) = some (style.table counts format level) :=
    read?_document hformat hlevel style
  have hholds := style.holds_table counts format level
  have hfields := (ofTable_eq_ok_iff (Toml.read?_distinct hread)).mpr hholds
  exact ⟨accepted_iff.mpr ⟨_, _, hread, hfields⟩, ofText_of_holds hread hholds⟩

/-- **The spelling of a document does not matter, and every text survives its quotes.** In all four
styles, and for every text in the two strings, the document is read, and it gives the settings and
the warnings that its three values give. -/
theorem spellings_agree (counts : Bool) (format level : Text) (style : Style) :
    Accepted (style.document counts (quoted format) (quoted level)) ∧
      ofText (style.document counts (quoted format) (quoted level)) =
        ofFields ⟨⟨some counts, some format⟩, ⟨some level⟩⟩ :=
  ofText_document (Toml.quoted_quoted format) (Toml.quoted_quoted level) style

end Settings
end MismatchLog
