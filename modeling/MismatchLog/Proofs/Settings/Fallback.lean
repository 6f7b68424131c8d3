import MismatchLog.Proofs.FileTree.Resolution
import MismatchLog.Proofs.Utf8.RoundTrip
import MismatchLog.Settings.Location

/-!
# Settings that are of no use

* `Unusable`: what can be wrong with a settings file, from its absence to a field of the wrong type;
* `Declares`: the fields of a document that is read;
* `load_of_unusable`: a file that is of no use leaves the default settings;
* `load_of_declares`: from all others the fields are taken;
* `unusable_or_declares`: there is no third case, so loading never stops a scan.
-/

namespace MismatchLog

namespace FileTree

/-- A path that leads to a directory. -/
inductive NamesDirectory (t : FileTree) (path : Text) : Prop
  | itself {p : Place} (resolves : t.resolve path = .ok (.directory p))
  | entry {dir : Place} {name : Text} {slash : Bool}
      (resolves : t.resolve path = .ok (.entry dir name slash))
      (found : t.at? (dir ++ [name]) = some .directory)

theorem NamesDirectory.read {t : FileTree} {path : Text} (h : NamesDirectory t path) :
    ∃ e, t.read path = .error e := by
  cases h with
  | itself resolves =>
    refine ⟨.isDirectory, ?_⟩
    rw [FileTree.read, resolves]
    rfl
  | @entry dir name slash resolves found =>
    cases hchild : t.child dir name with
    | error e =>
      refine ⟨e, ?_⟩
      rw [FileTree.read, resolves]
      show t.child dir name >>= _ = _
      rw [hchild]
      rfl
    | ok n =>
      obtain ⟨-, hn⟩ := child_eq_ok_iff.mp hchild
      obtain rfl : Node.directory = n := Option.some.inj (found.symm.trans hn)
      refine ⟨.isDirectory, ?_⟩
      rw [FileTree.read, resolves]
      show t.child dir name >>= _ = _
      rw [hchild]
      rfl

/-- What can be read is there. -/
theorem holds_of_read {t : FileTree} {path : Text} {content : Bytes}
    (h : t.read path = .ok content) : t.holds path = true := by
  obtain ⟨target, hresolve, h⟩ := bind_eq_ok_iff.mp h
  cases target with
  | directory p => cases h
  | entry dir name slash =>
    obtain ⟨n, hchild, h⟩ := bind_eq_ok_iff.mp h
    rw [holds, hresolve]
    simp only [hchild]
    cases n with
    | directory => rfl
    | file bytes => cases slash with
      | true => cases h
      | false => rfl
    | special s => cases slash with
      | true => cases h
      | false => rfl

end FileTree

namespace Settings

/-- A settings file that is of no use. -/
inductive Unusable (t : FileTree) (path : Text) : Prop
  | missing (absent : t.holds path = false)
  | directory (named : t.NamesDirectory path)
  | unreadable {e : IoError} (fault : t.read path = .error e)
  | notText {content : Bytes} (read : t.read path = .ok content)
      (foreign : ∀ text, Utf8.encode text ≠ content)
  | malformed {text : Text} (read : t.read path = .ok (Utf8.encode text))
      (fault : Toml.read? text = none)
  | illTyped {text : Text} {table : Toml.Table} {e : IllTyped}
      (read : t.read path = .ok (Utf8.encode text)) (document : Toml.read? text = some table)
      (fault : Fields.ofTable table = .error e)

/-- The fields that a settings file gives. -/
inductive Declares (t : FileTree) (path : Text) : Fields → Prop
  | fields {text : Text} {table : Toml.Table} {f : Fields}
      (read : t.read path = .ok (Utf8.encode text)) (document : Toml.read? text = some table)
      (typed : Fields.ofTable table = .ok f) : Declares t path f

theorem readText_of_error {t : FileTree} {path : Text} {e : IoError} (h : t.read path = .error e) :
    readText t path = .error e := by
  rw [readText, h]
  rfl

theorem readText_of_encode {t : FileTree} {path text : Text}
    (h : t.read path = .ok (Utf8.encode text)) : readText t path = .ok text := by
  apply FileTree.bind_eq_ok_iff.mpr
  refine ⟨Utf8.encode text, h, ?_⟩
  rw [Utf8.decode?_encode]
  rfl

theorem readText_of_foreign {t : FileTree} {path : Text} {content : Bytes}
    (h : t.read path = .ok content) (foreign : ∀ text, Utf8.encode text ≠ content) :
    readText t path = .error notUtf8 := by
  have hnone : Utf8.decode? content = none := if_neg (foreign _)
  simp only [readText, h, bind, Except.bind, hnone]
  rfl

theorem load_of_fault {t : FileTree} {path : Text} {e : IoError}
    (h : readText t path = .error e) : (load t path).1 = default := by
  rw [load]
  split
  · rw [h]
  · rfl

theorem load_of_readText {t : FileTree} {path text : Text}
    (hread : t.read path = .ok (Utf8.encode text)) :
    (load t path).1 = (ofText text).1 := by
  rw [load, if_pos (FileTree.holds_of_read hread), readText_of_encode hread]

theorem load_of_unusable {t : FileTree} {path : Text} (h : Unusable t path) :
    (load t path).1 = default := by
  cases h with
  | missing absent => rw [load, absent]; rfl
  | directory named =>
    obtain ⟨e, he⟩ := named.read
    exact load_of_fault (readText_of_error he)
  | unreadable fault => exact load_of_fault (readText_of_error fault)
  | notText read foreign => exact load_of_fault (readText_of_foreign read foreign)
  | malformed read fault => rw [load_of_readText read, ofText, fault]
  | illTyped read document fault => rw [load_of_readText read, ofText, document]; simp only [fault]

theorem load_of_declares {t : FileTree} {path : Text} {f : Fields} (h : Declares t path f) :
    (load t path).1 = (ofFields f).1 := by
  obtain ⟨read, document, typed⟩ := h
  rw [load_of_readText read, ofText, document]
  simp only [typed]

/-- A file either is of no use or gives fields. -/
theorem unusable_or_declares (t : FileTree) (path : Text) :
    Unusable t path ∨ ∃ f, Declares t path f := by
  cases hread : t.read path with
  | error e => exact .inl (.unreadable hread)
  | ok content =>
    by_cases htext : ∃ text, Utf8.encode text = content
    · obtain ⟨text, rfl⟩ := htext
      cases hdocument : Toml.read? text with
      | none => exact .inl (.malformed hread hdocument)
      | some table =>
        cases htyped : Fields.ofTable table with
        | error e => exact .inl (.illTyped hread hdocument htyped)
        | ok f => exact .inr ⟨f, .fields hread hdocument htyped⟩
    · exact .inl (.notText hread fun text h => htext ⟨text, h⟩)

end Settings
end MismatchLog
