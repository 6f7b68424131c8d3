import MismatchLog.Proofs.Json.Reading
import MismatchLog.Proofs.Json.Writing
import MismatchLog.Proofs.Report.Pieces
import MismatchLog.Proofs.Utf8.RoundTrip

/-!
# A report as an array of objects is read back

* `isDocument_jsonBody_iff`: the report is a JSON text, of one value and of no other;
* `ofValue?_toValue`: the object of an entry gives the entry back, whatever its key and its line;
* `jsonBody_eq_iff`: so reports are equal exactly if their entries are;
* `keys_told_apart_by_text`: keys alone are told apart by the texts of their objects.
-/

namespace MismatchLog

namespace Json.Value

/-- The value of the first member of a name. -/
def get? (name : Text) : Value → Option Value
  | .object members => members.lookup name
  | _ => none

def text? : Value → Option Text
  | .string t => some t
  | _ => none

def natural? : Value → Option Nat
  | .number spelling => Text.ofDecimal? spelling
  | _ => none

def textAt? (name : Text) (v : Value) : Option Text := (v.get? name).bind text?

end Json.Value

/-- The key that an object stands for. Its kind says which. -/
def Key.ofValue? (v : Json.Value) : Option Key :=
  if v.textAt? "kind".toList = some "hex_pair".toList then do
    return .hexPair (← v.textAt? "dut".toList) (← v.textAt? "ref".toList)
  else if v.textAt? "kind".toList = some "raw_line".toList then do
    return .rawLine (← v.textAt? "text".toList)
  else none

/-- The entry that an object stands for. -/
def Entry.ofValue? (v : Json.Value) : Option Entry := do
  let count ← (v.get? "count".toList).bind Json.Value.natural?
  let line ← v.textAt? "line".toList
  let key ← (v.get? "key".toList).bind Key.ofValue?
  return ⟨count, line, key⟩

theorem Key.ofValue?_value (k : Key) : ofValue? (Json.value k.toJson) = some k := by
  cases k with
  | hexPair dut ref =>
    rw [toJson, Json.value]
    simp only [List.map_cons, List.map_nil, Json.value]
    rfl
  | rawLine text =>
    rw [toJson, Json.value]
    simp only [List.map_cons, List.map_nil, Json.value]
    rfl

/-- The text of a key is read back. -/
theorem Key.read?_write (k : Key) :
    (Json.read? (Json.write .compact 0 k.toJson)).bind ofValue? = some k := by
  have hdocument := Json.isDocument_write Json.compact k.toJson 0
  rw [Json.read?_of_isDocument hdocument, Option.bind_some, ofValue?_value]

theorem Key.write_toJson_eq_iff {a b : Key} :
    Json.write .compact 0 a.toJson = Json.write .compact 0 b.toJson ↔ a = b := by
  constructor
  · intro h
    have hread := read?_write a
    rw [h, read?_write] at hread
    exact (Option.some.inj hread).symm
  · rintro rfl
    rfl

/-- **Keys are told apart by their texts.** The object of a key, written without white space, is a
JSON text of one value and of no other, and the key is read back from it, whatever its texts hold:
quotes, backslashes, braces, or what looks like an object or a literal itself. So two keys have the
same text only if they are the same key: a line never has the text of a pair, and characters that
are moved from one value of a pair to the other show. -/
theorem Key.keys_told_apart_by_text :
    (∀ k : Key, (∀ v, Json.IsDocument v (Json.write .compact 0 k.toJson) ↔ v = Json.value k.toJson) ∧
      (Json.read? (Json.write .compact 0 k.toJson)).bind ofValue? = some k) ∧
    (∀ a b : Key, Json.write .compact 0 a.toJson = Json.write .compact 0 b.toJson ↔ a = b) ∧
    (∀ text dut ref : Text, Json.write .compact 0 (rawLine text).toJson ≠
      Json.write .compact 0 (hexPair dut ref).toJson) ∧
    ∀ dut moved ref : Text, Json.write .compact 0 (hexPair (dut ++ moved) ref).toJson =
      Json.write .compact 0 (hexPair dut (moved ++ ref)).toJson ↔ moved = [] := by
  refine ⟨?_, fun a b => write_toJson_eq_iff, ?_, ?_⟩
  · intro k
    have hdocument := Json.isDocument_write Json.compact k.toJson 0
    refine ⟨fun v => ⟨fun hv => Json.isDocument_unique hv hdocument, ?_⟩, read?_write k⟩
    rintro rfl
    exact hdocument
  · intro text dut ref h
    cases write_toJson_eq_iff.mp h
  · intro dut moved ref
    rw [write_toJson_eq_iff, hexPair.injEq]
    constructor
    · rintro ⟨hdut, -⟩
      simpa using hdut
    · rintro rfl
      exact ⟨List.append_nil dut, rfl⟩

/-- The kind comes first. -/
example : Json.write .compact 0 (Key.ofLiterals "0X5".toList "0xA".toList).toJson =
    "\x7b\"kind\":\"hex_pair\",\"dut\":\"0x5\",\"ref\":\"0xa\"\x7d".toList := by decide

namespace Entry

/-- An entry as a value: an object with three members. -/
def toValue (e : Entry) : Json.Value :=
  .object [("count".toList, .number (Text.decimal e.count)), ("line".toList, .string e.line),
    ("key".toList, Json.value e.key.toJson)]

theorem value_toJson (e : Entry) : Json.value e.toJson = e.toValue := by
  rw [toJson, Json.value]
  simp only [List.map_cons, List.map_nil, Json.value]
  rfl

theorem ofValue?_toValue (e : Entry) : ofValue? e.toValue = some e := by
  have hcount : (e.toValue.get? "count".toList).bind Json.Value.natural? = some e.count :=
    Text.ofDecimal?_decimal e.count
  have hline : e.toValue.textAt? "line".toList = some e.line := rfl
  have hkey : (e.toValue.get? "key".toList).bind Key.ofValue? = some e.key :=
    Key.ofValue?_value e.key
  simp only [ofValue?, hcount, hline, hkey, Option.bind_eq_bind, Option.bind_some]
  rfl

end Entry

namespace Report

section
variable (t : Tally)

theorem written_jsonBody :
    Json.Written (.array (t.entries.toList.map Entry.toValue)) (jsonBody t) := by
  have h := Json.written_write Json.indented (.array (t.entries.toList.map Entry.toJson)) 0
  have hvalues : (t.entries.toList.map Entry.toJson).map Json.value =
      t.entries.toList.map Entry.toValue := by
    rw [List.map_map]
    exact List.map_congr_left fun e _ => e.value_toJson
  rwa [Json.value, hvalues] at h

/-- The line feed at the end is white space. -/
theorem isDocument_jsonBody :
    Json.IsDocument (.array (t.entries.toList.map Entry.toValue)) (jsonBody t ++ ['\n']) :=
  .item ⟨.none, _, jsonBody t, ⟨['\n'], rfl⟩⟩ (written_jsonBody t)

theorem isDocument_jsonBody_iff (v : Json.Value) :
    Json.IsDocument v (jsonBody t ++ ['\n']) ↔ v = .array (t.entries.toList.map Entry.toValue) := by
  constructor
  · intro h
    exact Json.isDocument_unique h (isDocument_jsonBody t)
  · rintro rfl
    exact isDocument_jsonBody t

theorem map_ofValue? :
    (t.entries.toList.map Entry.toValue).map Entry.ofValue? = t.entries.toList.map some := by
  rw [List.map_map]
  exact List.map_congr_left fun e _ => e.ofValue?_toValue

end

/-- Reports are equal only if their entries are. -/
theorem jsonBody_eq_iff {t t' : Tally} : jsonBody t = jsonBody t' ↔ t.entries = t'.entries := by
  constructor
  · intro h
    have hvalues := Json.isDocument_unique (isDocument_jsonBody t) (h ▸ isDocument_jsonBody t')
    have hentries := congrArg (List.map Entry.ofValue?) (Json.Value.array.inj hvalues)
    rw [map_ofValue?, map_ofValue?] at hentries
    exact Array.toList_inj.mp ((List.map_inj_right fun _ _ => Option.some.inj).mp hentries)
  · intro h
    rw [jsonBody, jsonBody, h]

/-- **Objects lose nothing.** What a sink takes of a report as objects is a text in UTF-8: one JSON
text, without white space around it, and a line feed. It stands for an array and for nothing else,
with one object for each entry in order, whose members have different names and give the entry back:
its count, its line, and its key by kind. So equal reports have equal entries. -/
theorem objects_read_back :
    (∀ (counts : Bool) (t : Tally), ∃ (body : Text) (items : List Json.Value),
      (delivery .json counts t).sendTo .unbounded = ⟨Utf8.encode (body ++ ['\n']), none⟩ ∧
      Utf8.decode? (Utf8.encode (body ++ ['\n'])) = some (body ++ ['\n']) ∧
      Json.Written (.array items) body ∧
      Json.read? (body ++ ['\n']) = some (.array items) ∧
      (∀ v, Json.IsDocument v (body ++ ['\n']) ↔ v = .array items) ∧
      (∀ i ∈ items, ∃ members, i = .object members ∧ (members.map Prod.fst).Nodup) ∧
      items.map Entry.ofValue? = t.entries.toList.map some) ∧
    ∀ (counts counts' : Bool) (t t' : Tally),
      (delivery .json counts t).sendTo .unbounded = (delivery .json counts' t').sendTo .unbounded ↔
        t.entries = t'.entries := by
  refine ⟨?_, ?_⟩
  · intro counts t
    refine ⟨jsonBody t, t.entries.toList.map Entry.toValue, sendTo_delivery .json counts t,
      Utf8.decode?_encode _, written_jsonBody t, Json.read?_of_isDocument (isDocument_jsonBody t),
      isDocument_jsonBody_iff t, ?_, map_ofValue? t⟩
    intro i hi
    obtain ⟨e, -, rfl⟩ := List.mem_map.mp hi
    have hnames : ["count".toList, "line".toList, "key".toList].Nodup := by decide
    exact ⟨_, rfl, hnames⟩
  · intro counts counts' t t'
    rw [sendTo_delivery, sendTo_delivery, Delivery.Outcome.mk.injEq, and_iff_left rfl,
      Utf8.encode_injective.eq_iff, render, render, List.append_left_inj, jsonBody_eq_iff]

end Report
end MismatchLog
