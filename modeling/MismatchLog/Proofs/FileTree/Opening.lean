import MismatchLog.Proofs.FileTree.Resolution

/-!
# What opening, truncating and writing change

* `openForWriting_eq_ok_iff`: when a path opens, and what that does to the tree;
* `Grows`: what opening keeps. A tree grows by empty files in places where nothing was, so all that
  could be read before is read again (`Grows.read`);
* `OpensFile`: a path that opens as a regular file, which it still does after another was opened
  (`OpensFile.of_grows`);
* `truncate_eq_ok_iff`, `writeOver_of_file`: the two steps that change a file that is there.
-/

namespace MismatchLog.FileTree

theorem ne_nil_of_file {t : FileTree} {p : Place} {content : Bytes}
    (h : t.at? p = some (.file content)) : p ≠ [] := by
  rintro rfl
  simp [at?] at h

/-- What was put into a file's place is found there. -/
theorem at?_put_file {t : FileTree} {p : Place} {content : Bytes}
    (h : t.at? p = some (.file content)) (n : Node) (q : Place) :
    (t.put p n).at? q = if q = p then some n else t.at? q := by
  rw [at?_put]
  simp [ne_nil_of_file h]

/-! ## Opening -/

/-- A path opens if it ends in a name, without a slash after it, and names a file, something that
does not refuse, or nothing yet. -/
theorem openForWriting_eq_ok_iff {t t' : FileTree} {path : Text} {p : Place} :
    t.openForWriting path = .ok (p, t') ↔
      ∃ dir name, t.resolve path = .ok (.entry dir name false) ∧
        (Utf8.encode name).length ≤ nameLimit ∧ p = dir ++ [name] ∧
        ((t.at? p = none ∧ t' = t.put p (.file [])) ∨
          (t' = t ∧ ((∃ content, t.at? p = some (.file content)) ∨
            ∃ s, t.at? p = some (.special s) ∧ s.refuses = none))) := by
  constructor
  · intro h
    obtain ⟨target, htarget, h⟩ := bind_eq_ok_iff.mp h
    match target, h with
    | .entry dir name false, h =>
      refine ⟨dir, name, htarget, ?_⟩
      dsimp only at h
      split at h
      · rename_i content hchild
        obtain ⟨rfl, rfl⟩ := Prod.mk.inj (Except.ok.inj h)
        obtain ⟨hlong, hat⟩ := child_eq_ok_iff.mp hchild
        exact ⟨hlong, rfl, .inr ⟨rfl, .inl ⟨content, hat⟩⟩⟩
      · cases h
      · rename_i s hchild
        split at h
        · rename_i hs
          obtain ⟨rfl, rfl⟩ := Prod.mk.inj (Except.ok.inj h)
          obtain ⟨hlong, hat⟩ := child_eq_ok_iff.mp hchild
          exact ⟨hlong, rfl, .inr ⟨rfl, .inr ⟨s, hat, hs⟩⟩⟩
        · cases h
      · rename_i e hchild
        split at h
        · rename_i he
          subst he
          obtain ⟨rfl, rfl⟩ := Prod.mk.inj (Except.ok.inj h)
          obtain ⟨hlong, hat⟩ := child_eq_notFound_iff.mp hchild
          exact ⟨hlong, rfl, .inl ⟨hat, rfl⟩⟩
        · cases h
  · rintro ⟨dir, name, htarget, hlong, rfl, hfound⟩
    refine bind_eq_ok_iff.mpr ⟨_, htarget, ?_⟩
    rcases hfound with ⟨hat, rfl⟩ | ⟨rfl, ⟨content, hat⟩ | ⟨s, hat, hs⟩⟩
    · simp [child_eq_notFound_iff.mpr ⟨hlong, hat⟩, pure, Except.pure]
    · simp [child_eq_ok_iff.mpr ⟨hlong, hat⟩, pure, Except.pure]
    · simp [child_eq_ok_iff.mpr ⟨hlong, hat⟩, hs, pure, Except.pure]

/-- Opening makes a missing file and changes nothing else. -/
theorem at?_openForWriting {t t' : FileTree} {path : Text} {p : Place}
    (h : t.openForWriting path = .ok (p, t')) (q : Place) :
    t'.at? q = if q = p ∧ t.at? p = none then some (.file []) else t.at? q := by
  obtain ⟨dir, name, -, -, rfl, hfound⟩ := openForWriting_eq_ok_iff.mp h
  rcases hfound with ⟨hat, rfl⟩ | ⟨rfl, ⟨content, hat⟩ | ⟨s, hat, -⟩⟩
  · rw [at?_put]
    simp [hat]
  · simp [hat]
  · simp [hat]

theorem here_openForWriting {t t' : FileTree} {path : Text} {p : Place}
    (h : t.openForWriting path = .ok (p, t')) : t'.here = t.here := by
  obtain ⟨dir, name, -, -, rfl, ⟨-, rfl⟩ | ⟨rfl, -⟩⟩ := openForWriting_eq_ok_iff.mp h
  · rfl
  · rfl

/-! ## What opening keeps -/

/-- Nothing but empty files was added, in places where nothing was. -/
structure Grows (t t' : FileTree) : Prop where
  here : t'.here = t.here
  added : ∀ p, t'.at? p = t.at? p ∨ (t.at? p = none ∧ t'.at? p = some (.file []))

theorem Grows.refl (t : FileTree) : Grows t t := ⟨rfl, fun _ => .inl rfl⟩

theorem Grows.trans {t t' t'' : FileTree} (h : Grows t t') (h' : Grows t' t'') : Grows t t'' := by
  refine ⟨h'.here.trans h.here, ?_⟩
  intro p
  rcases h.added p with hp | ⟨hnone, hp⟩
  · rw [← hp]
    exact h'.added p
  · rcases h'.added p with hp' | ⟨hnone', -⟩
    · exact .inr ⟨hnone, hp'.trans hp⟩
    · rw [hp] at hnone'
      cases hnone'

theorem openForWriting_grows {t t' : FileTree} {path : Text} {p : Place}
    (h : t.openForWriting path = .ok (p, t')) : Grows t t' := by
  refine ⟨here_openForWriting h, ?_⟩
  intro q
  rw [at?_openForWriting h q]
  split
  · rename_i hq
    obtain ⟨rfl, hnone⟩ := hq
    exact .inr ⟨hnone, rfl⟩
  · exact .inl rfl

/-- What is there stays what it is. -/
theorem Grows.kept {t t' : FileTree} (h : Grows t t') {p : Place} {n : Node}
    (hp : t.at? p = some n) : t'.at? p = some n := by
  rcases h.added p with hsame | ⟨hnone, -⟩
  · rw [hsame, hp]
  · rw [hp] at hnone
    cases hnone

theorem Grows.sameDirectories {t t' : FileTree} (h : Grows t t') : SameDirectories t t' := by
  refine ⟨h.here, ?_⟩
  intro p
  constructor
  · intro hp
    rcases h.added p with hsame | ⟨-, hfile⟩
    · rw [← hsame, hp]
    · rw [hp] at hfile
      cases hfile
  · exact h.kept

/-- Every path that could be read is read as before. -/
theorem Grows.read {t t' : FileTree} (h : Grows t t') {path : Text} {content : Bytes}
    (hread : t.read path = .ok content) : t'.read path = .ok content := by
  obtain ⟨target, htarget, hread⟩ := bind_eq_ok_iff.mp hread
  refine bind_eq_ok_iff.mpr ⟨target, resolve_of_sameDirectories h.sameDirectories htarget, ?_⟩
  cases target with
  | directory p => exact hread
  | entry dir name slash =>
    obtain ⟨n, hchild, hread⟩ := bind_eq_ok_iff.mp hread
    obtain ⟨hlong, hat⟩ := child_eq_ok_iff.mp hchild
    exact bind_eq_ok_iff.mpr ⟨n, child_eq_ok_iff.mpr ⟨hlong, h.kept hat⟩, hread⟩

/-! ## Regular files -/

/-- A path opens as the regular file of a place: one that is there, or one that opening makes. -/
def OpensFile (t : FileTree) (path : Text) (p : Place) : Prop :=
  ∃ t', t.openForWriting path = .ok (p, t') ∧ ∃ content, t'.at? p = some (.file content)

theorem opensFile_iff {t : FileTree} {path : Text} {p : Place} :
    OpensFile t path p ↔
      ∃ dir name, t.resolve path = .ok (.entry dir name false) ∧
        (Utf8.encode name).length ≤ nameLimit ∧ p = dir ++ [name] ∧
        (t.at? p = none ∨ ∃ content, t.at? p = some (.file content)) := by
  constructor
  · rintro ⟨t', hopen, content, hat⟩
    obtain ⟨dir, name, htarget, hlong, hp, hfound⟩ := openForWriting_eq_ok_iff.mp hopen
    refine ⟨dir, name, htarget, hlong, hp, ?_⟩
    rcases hfound with ⟨hnone, -⟩ | ⟨rfl, -⟩
    · exact .inl hnone
    · exact .inr ⟨content, hat⟩
  · rintro ⟨dir, name, htarget, hlong, hp, hfound⟩
    rcases hfound with hnone | ⟨content, hat⟩
    · have hopen := openForWriting_eq_ok_iff.mpr
        ⟨dir, name, htarget, hlong, hp, .inl ⟨hnone, rfl⟩⟩
      exact ⟨_, hopen, [], by rw [at?_openForWriting hopen p, if_pos ⟨rfl, hnone⟩]⟩
    · exact ⟨t, openForWriting_eq_ok_iff.mpr
        ⟨dir, name, htarget, hlong, hp, .inr ⟨rfl, .inl ⟨content, hat⟩⟩⟩, content, hat⟩

/-- Opening other files first does not matter. If one of them was this file, it is there now; if it
was meant to be a directory of this path, the path did not open before either. -/
theorem OpensFile.of_grows {t t' : FileTree} {path : Text} {p : Place} (h : OpensFile t path p)
    (hgrows : Grows t t') : OpensFile t' path p := by
  obtain ⟨dir, name, htarget, hlong, hp, hfound⟩ := opensFile_iff.mp h
  refine opensFile_iff.mpr
    ⟨dir, name, resolve_of_sameDirectories hgrows.sameDirectories htarget, hlong, hp, ?_⟩
  rcases hgrows.added p with hsame | ⟨-, hfile⟩
  · rw [hsame]
    exact hfound
  · exact .inr ⟨[], hfile⟩

/-! ## Files that are open -/

theorem truncate_eq_ok_iff {t t' : FileTree} {p : Place} :
    t.truncate p = .ok t' ↔
      (∃ content, t.at? p = some (.file content)) ∧ t' = t.put p (.file []) := by
  unfold truncate
  split
  · rename_i content hat
    simp [hat, eq_comm]
  · rename_i hno
    constructor
    · intro h
      cases h
    · rintro ⟨⟨content, hat⟩, -⟩
      exact absurd hat (hno content)

theorem at?_truncate {t t' : FileTree} {p : Place} (h : t.truncate p = .ok t') (q : Place) :
    t'.at? q = if q = p then some (.file []) else t.at? q := by
  obtain ⟨⟨content, hat⟩, rfl⟩ := truncate_eq_ok_iff.mp h
  exact at?_put_file hat _ q

theorem writeOver_of_file {t : FileTree} {p : Place} {old : Bytes}
    (h : t.at? p = some (.file old)) (bytes : Bytes) :
    t.writeOver p bytes = t.put p (.file (bytes ++ old.drop bytes.length)) := by
  rw [writeOver, h]

end MismatchLog.FileTree
