import MismatchLog.Proofs.Settings.AllOrNothing
import MismatchLog.Proofs.Toml.Prolonged.Document

/-!
# Tables that the settings do not know

A table of another name may stand at the end of a document, whatever the document ends with: an open
section, an array of tables, a comment without the end of its line.

* `build?_table`: the table that the header and the members behind it add to the document's;
* `ofText_unknown_table`, `unknown_table_ignored`: the settings and the warnings stay.
-/

namespace MismatchLog

namespace Toml

theorem foldlM_define (ds : List (List Text × Value)) (d : Draft) :
    (ds.map fun e => Statement.define e.1 e.2).foldlM Draft.carryOut d =
      (ds.foldlM Table.define? d.members).map fun members => { d with members } := by
  induction ds generalizing d with
  | nil => rfl
  | cons e ds ih =>
    rw [List.map_cons, List.foldlM_cons, List.foldlM_cons, Draft.carryOut]
    cases d.members.define? (e.1, e.2) with
    | none => rfl
    | some members => exact ih { d with members }

/-- A table with a new name becomes the last member of the document. -/
theorem build?_table {ss : List Statement} {table : Table} (h : build? ss = some table)
    {name : Text} (hnew : table.lookup name = none) {ds : List (List Text × Value)}
    {members : Table} (hds : ds.foldlM Table.define? [] = some members) :
    build? (ss ++ .table [name] :: ds.map fun d => .define d.1 d.2) =
      some (table ++ [(name, .table .header members)]) := by
  obtain ⟨d, hd, hfinish⟩ := Option.bind_eq_some_iff.mp h
  have hheader : d.carryOut (.table [name]) = some ⟨table, [name], false, []⟩ := by
    have hdetach : Table.detach name table = some (table, []) := by
      rw [Table.detach, hnew]
    simp only [Draft.carryOut, hfinish, List.getLast?_singleton, List.dropLast_singleton,
      Table.within, hdetach, Option.bind_eq_bind, Option.bind_some]
    rfl
  rw [build?, List.foldlM_append, hd]
  simp only [List.foldlM_cons, Option.bind_eq_bind, Option.bind_some, hheader, foldlM_define, hds,
    Option.map_some]
  simp [Draft.finish, Table.within, Table.define, hnew]

end Toml

namespace Settings

open Toml (IsBareKey Scalar Lines prolong definition_bare line_header)

theorem ofTable_unknown {name : Text} (hunknown : name ∉ ["report".toList, "logging".toList])
    (table : Toml.Table) (v : Toml.Value) :
    Fields.ofTable (table ++ [(name, v)]) = Fields.ofTable table := by
  simp only [List.mem_cons, List.not_mem_nil, or_false, not_or] at hunknown
  have hadd (f : Fields) : f.add (name, v) = .ok f := by
    rw [Fields.add, if_neg hunknown.1, if_neg hunknown.2]
  rw [Fields.ofTable, Fields.ofTable, List.foldlM_append]
  cases table.foldlM Fields.add .none with
  | error e => rfl
  | ok f => exact (bind_pure _).trans (hadd f)

/-- A table that the settings do not know makes no difference at the end of a document. -/
theorem ofText_unknown_table {t : Text} (ht : Accepted t) {name : Text}
    (hunknown : name ∉ ["report".toList, "logging".toList])
    (hnew : ∀ table, Toml.read? t = some table → table.lookup name = none)
    {ds : List (List Text × Toml.Value)} {members : Toml.Table}
    (hds : ds.foldlM Toml.Table.define? [] = some members) {more : Text}
    (hmore : Lines (.table [name] :: ds.map fun d => .define d.1 d.2) more) :
    ofText (prolong more t) = ofText t := by
  obtain ⟨table, f, hread, hfields⟩ := accepted_iff.mp ht
  obtain ⟨ss, hbuild, hprolong⟩ := Toml.read?_prolong hread
  have hread' := (hprolong hmore).trans (Toml.build?_table hbuild (hnew table hread) hds)
  rw [ofText, ofText, hread, hread']
  simp only [ofTable_unknown hunknown]

/-- **Unknown tables are ignored.** Behind a document that is read, whatever it ends with, a table
of a new name with a key makes no difference to the settings or to the warnings. The value is a
boolean, a decimal integer of 64 bits or a string in double quotes, in any way of writing it;
`Toml.decimal_signedDecimal` and `Toml.quoted_quoted` give one for each. -/
theorem unknown_table_ignored {t : Text} (ht : Accepted t) {name key : Text} (hname : IsBareKey name)
    (hunknown : name ∉ ["report".toList, "logging".toList])
    (hnew : ∀ table, Toml.read? t = some table → table.lookup name = none) (hkey : IsBareKey key)
    {v : Toml.Value} {value : Text} (hvalue : Scalar v value) :
    ofText (t ++ "\n[".toList ++ name ++ "]\n".toList ++ key ++ " = ".toList ++ value ++
      "\n".toList) = ofText t := by
  have hlines : Lines [.table [name], .define [key] v] _ :=
    .cons (line_header hname) (.cons (.define (definition_bare hkey (.scalar hvalue))) .nil)
  have hdefined : [([key], v)].foldlM Toml.Table.define? [] = some [(key, v)] := rfl
  rw [← ofText_unknown_table ht hunknown hnew hdefined hlines]
  congr 1
  simp [prolong]

/-- A dotted key, a string that looks like a header on its second line, and an element of an array
that a comment without the end of its line leaves open. -/
def openEnd : Text :=
  "report.format = \"json\"\nnote = \x27\x27\x27\n[extra]\n\x27\x27\x27\n[[server]]\nport = 80 # open".toList

def openEndTable : Toml.Table :=
  [("report".toList, .table .dotted [("format".toList, .string "json".toList)]),
    ("note".toList, .string "[extra]\n".toList),
    ("server".toList, .tables [[("port".toList, .integer 80)]])]

theorem unknown_table_ignored_open_end :
    Accepted openEnd ∧ Toml.read? openEnd = some openEndTable ∧
      openEndTable.lookup "extra".toList = none ∧
      ofText openEnd = (⟨false, .json, none⟩, []) ∧
      ofText (openEnd ++ "\n[".toList ++ "extra".toList ++ "]\n".toList ++ "key".toList ++
        " = ".toList ++ Toml.quoted "[\"report\"]\n\x00".toList ++ "\n".toList) = ofText openEnd ∧
      ofText (openEnd ++ "\n[".toList ++ "extra".toList ++ "]\n".toList ++ "key".toList ++
        " = ".toList ++ Text.signedDecimal (-0x8000000000000000) ++ "\n".toList) =
          ofText openEnd := by
  have hread : Toml.read? openEnd = some openEndTable := rfl
  have hfields : Fields.ofTable openEndTable = .ok ⟨⟨none, some "json".toList⟩, ⟨none⟩⟩ := rfl
  have haccepted : Accepted openEnd := accepted_iff.mpr ⟨_, _, hread, hfields⟩
  have hlookup : openEndTable.lookup "extra".toList = none := by decide
  have hnew (table : Toml.Table) (h : Toml.read? openEnd = some table) :
      table.lookup "extra".toList = none := by
    obtain rfl := Option.some.inj (hread.symm.trans h)
    exact hlookup
  have hname : IsBareKey "extra".toList := ⟨by decide, List.all_eq_true.mp (by decide)⟩
  have hkey : IsBareKey "key".toList := ⟨by decide, List.all_eq_true.mp (by decide)⟩
  have hunknown : "extra".toList ∉ ["report".toList, "logging".toList] := by decide
  refine ⟨haccepted, hread, hlookup, rfl, ?_, ?_⟩
  · exact unknown_table_ignored haccepted hname hunknown hnew hkey (.string (Toml.quoted_quoted _))
  · exact unknown_table_ignored haccepted hname hunknown hnew hkey
      (.integer (Toml.decimal_signedDecimal _) (by decide) (by decide))

end Settings
end MismatchLog
