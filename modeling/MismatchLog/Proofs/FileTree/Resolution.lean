import MismatchLog.FileTree

/-!
# What a path names

A path is looked up through directories only, so trees with the same directories look it up alike,
whatever else they hold:

* `resolve_of_sameDirectories`: what a path resolves to in one of them it resolves to in the other;
* `child_eq_ok_iff`, `child_eq_notFound_iff`: what is found at the last name.
-/

namespace MismatchLog.FileTree

theorem bind_eq_ok_iff {ε α β : Type} {x : Except ε α} {f : α → Except ε β} {b : β} :
    x >>= f = .ok b ↔ ∃ a, x = .ok a ∧ f a = .ok b := by
  cases x with
  | error e => simp [bind, Except.bind]
  | ok a => simp [bind, Except.bind]

/-- The same working directory and the same directories. The files may differ. -/
structure SameDirectories (t t' : FileTree) : Prop where
  here : t'.here = t.here
  directory : ∀ p, t'.at? p = some .directory ↔ t.at? p = some .directory

/-! ## One name -/

theorem child_eq_ok_iff {t : FileTree} {dir : Place} {name : Text} {n : Node} :
    t.child dir name = .ok n ↔
      (Utf8.encode name).length ≤ nameLimit ∧ t.at? (dir ++ [name]) = some n := by
  unfold child
  by_cases hlong : nameLimit < (Utf8.encode name).length
  · simp [hlong, Nat.not_le_of_lt hlong]
  · cases h : t.at? (dir ++ [name]) <;> simp [hlong, Nat.le_of_not_lt hlong]

theorem child_eq_notFound_iff {t : FileTree} {dir : Place} {name : Text} :
    t.child dir name = .error .notFound ↔
      (Utf8.encode name).length ≤ nameLimit ∧ t.at? (dir ++ [name]) = none := by
  unfold child
  by_cases hlong : nameLimit < (Utf8.encode name).length
  · simp [hlong, Nat.not_le_of_lt hlong, IoError.notFound, IoError.nameTooLong]
  · cases h : t.at? (dir ++ [name]) <;> simp [hlong, Nat.le_of_not_lt hlong]

theorem enter_of_sameDirectories {t t' : FileTree} (h : SameDirectories t t') {dir d : Place}
    {name : Text} (hd : t.enter dir name = .ok d) : t'.enter dir name = .ok d := by
  unfold enter at hd ⊢
  by_cases hdot : name = ['.']
  · rwa [if_pos hdot] at hd ⊢
  · by_cases hdots : name = ['.', '.']
    · rwa [if_neg hdot, if_pos hdots] at hd ⊢
    · rw [if_neg hdot, if_neg hdots] at hd ⊢
      obtain ⟨n, hn, hd⟩ := bind_eq_ok_iff.mp hd
      cases n with
      | file content => cases hd
      | special s => cases hd
      | directory =>
        obtain ⟨hlong, hat⟩ := child_eq_ok_iff.mp hn
        have hn' := child_eq_ok_iff.mpr ⟨hlong, (h.directory _).mpr hat⟩
        exact bind_eq_ok_iff.mpr ⟨Node.directory, hn', hd⟩

/-! ## All names of a path -/

/-- By induction on the names: every step goes into a directory, which the other tree has too. -/
theorem walk_of_sameDirectories {t t' : FileTree} (h : SameDirectories t t') {names : List Text}
    {start d : Place} (hd : names.foldlM t.enter start = .ok d) :
    names.foldlM t'.enter start = .ok d := by
  induction names generalizing start with
  | nil => exact hd
  | cons name names ih =>
    rw [List.foldlM_cons] at hd ⊢
    obtain ⟨next, hnext, hd⟩ := bind_eq_ok_iff.mp hd
    exact bind_eq_ok_iff.mpr ⟨next, enter_of_sameDirectories h hnext, ih hd⟩

theorem resolve_of_sameDirectories {t t' : FileTree} (h : SameDirectories t t') {path : Text}
    {target : Target} (ht : t.resolve path = .ok target) : t'.resolve path = .ok target := by
  simp only [resolve, h.here] at ht ⊢
  split at ht
  · cases ht
  split at ht
  · cases ht
  split at ht
  · cases ht
  rename_i hnul hempty hlong
  rw [if_neg hnul, if_neg hempty, if_neg hlong]
  generalize (Path.segments path).filter (· ≠ []) = names at ht ⊢
  cases hlast : names.getLast? with
  | none => simpa only [hlast] using ht
  | some name =>
    simp only [hlast] at ht ⊢
    obtain ⟨dir, hdir, ht⟩ := bind_eq_ok_iff.mp ht
    exact bind_eq_ok_iff.mpr ⟨dir, walk_of_sameDirectories h hdir, ht⟩

end MismatchLog.FileTree
