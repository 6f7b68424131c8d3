import MismatchLog.Run

/-!
# What a dash is

Paths are the same when their components are, so there are many spellings of a dash: slashes and
single dots may follow it. `isDash_iff` says which spellings these are, by what stands between their
slashes, and `dash_names_streams` that they name a standard stream where a log is read or a report
is written, and a file where a copy is.
-/

namespace MismatchLog

theorem Text.cut_eq_splitOn (sep : Char) (t : Text) : cut sep t = t.splitOn sep := by
  induction t with
  | nil => rfl
  | cons c t ih =>
    have hsplit : (c :: t).splitOn sep =
        if c = sep then [] :: t.splitOn sep else (t.splitOn sep).modifyHead (List.cons c) := by
      simp [List.splitOn, List.splitOnP_cons_eq_if_modifyHead]
    obtain ⟨part, parts, hparts⟩ := List.exists_cons_of_ne_nil (List.splitOnP_ne_nil (· == sep) t)
    have hrest : t.splitOn sep = part :: parts := hparts
    rw [cut, hsplit, ih, hrest]
    rfl

namespace Path

/-- A dash, and after it between slashes nothing, or the dot that stays where it is. -/
def SpellsDash (p : Text) : Prop :=
  ∃ rest, p.splitOn '/' = ['-'] :: rest ∧ ∀ s ∈ rest, s = [] ∨ s = ['.']

theorem innerComponent?_eq_none_iff {s : Text} :
    innerComponent? s = none ↔ s = [] ∨ s = ['.'] := by
  unfold innerComponent?
  split
  · simp [*]
  · split <;> simp [*]

theorem innerComponent?_eq_name_iff {s t : Text} :
    innerComponent? s = some (.name t) ↔ s = t ∧ s ≠ [] ∧ s ≠ ['.'] ∧ s ≠ ['.', '.'] := by
  unfold innerComponent?
  split
  · rename_i hnone
    rcases hnone with rfl | rfl <;> simp
  · rename_i hsome
    rw [not_or] at hsome
    split <;> simp [*]

/-- A path that does not start with a slash starts with a segment that is not empty. -/
theorem segments_cons {c : Char} (hc : c ≠ '/') (t : Text) :
    ∃ part rest, segments (c :: t) = (c :: part) :: rest := by
  rw [segments, Text.cut, if_neg hc]
  cases Text.cut '/' t with
  | nil => exact ⟨[], [], rfl⟩
  | cons part rest => exact ⟨part, rest, rfl⟩

/-- A relative path has the components of a dash if its first segment is a dash and no other has a
component. -/
theorem isDash_of_segments {p first : Text} {rest : List Text} (hrelative : isAbsolute p = false)
    (hsegments : segments p = first :: rest) (hfirst : first ≠ []) :
    isDash p = true ↔ first = ['-'] ∧ ∀ s ∈ rest, s = [] ∨ s = ['.'] := by
  have hdash : components ['-'] = [.name ['-']] := by decide
  have hrest : rest.filterMap innerComponent? = [] ↔ ∀ s ∈ rest, s = [] ∨ s = ['.'] := by
    simp only [List.filterMap_eq_nil_iff, innerComponent?_eq_none_iff]
  rw [isDash, decide_eq_true_iff, hdash, components, hsegments, ← hrest]
  simp only [hrelative]
  by_cases hdot : first = ['.']
  · simp [hdot]
  · cases hcomponent : innerComponent? first with
    | none =>
      rcases innerComponent?_eq_none_iff.mp hcomponent with h | h
      · exact absurd h hfirst
      · exact absurd h hdot
    | some component =>
      have hname : component = .name ['-'] ↔ first = ['-'] := by
        rw [← Option.some_inj, ← hcomponent, innerComponent?_eq_name_iff]
        constructor
        · exact And.left
        · rintro rfl
          decide
      simp [hdot, hname]

/-- The components of a dash are those of the spellings of one. -/
theorem isDash_iff {p : Text} : isDash p = true ↔ SpellsDash p := by
  rw [SpellsDash, ← Text.cut_eq_splitOn, ← segments]
  cases p with
  | nil => exact iff_of_false (by decide) (by rintro ⟨rest, hrest, -⟩; cases hrest)
  | cons c t =>
    by_cases hc : c = '/'
    · -- an absolute path has a root, and an empty first segment
      subst hc
      have hroot : ∃ more, components ('/' :: t) = .root :: more := ⟨_, rfl⟩
      obtain ⟨more, hmore⟩ := hroot
      refine iff_of_false ?_ ?_
      · simp [isDash, hmore, show components ['-'] = [.name ['-']] by decide]
      · rintro ⟨rest, hrest, -⟩
        cases hrest
    · obtain ⟨part, rest, hsegments⟩ := segments_cons hc t
      have hrelative : isAbsolute (c :: t) = false := decide_eq_false hc
      rw [isDash_of_segments hrelative hsegments (List.cons_ne_nil c part), hsegments]
      constructor
      · rintro ⟨hfirst, hrest⟩
        exact ⟨rest, by rw [hfirst], hrest⟩
      · rintro ⟨rest', hcons, hrest⟩
        obtain ⟨hfirst, rfl⟩ := List.cons.inj hcons
        exact ⟨hfirst, hrest⟩

instance : DecidablePred SpellsDash := fun _ => decidable_of_iff _ isDash_iff

/-- **A dash names a standard stream, however it is spelled, but never the file of a copy.** An
argument means the standard input, or the standard output, exactly if it is a dash followed between
slashes by nothing or by single dots; every other argument is the path of a file, as it stands. The
copy of a log goes to the file of its path, whatever that is. -/
theorem dash_names_streams :
    (∀ p : Text, (Source.ofArgument p = .stdin ↔ SpellsDash p) ∧
      (Source.ofArgument p = .file p ↔ ¬ SpellsDash p)) ∧
    (∀ p : Text, (Destination.ofArgument? (some p) = .stdout ↔ SpellsDash p) ∧
      (Destination.ofArgument? (some p) = .file p ↔ ¬ SpellsDash p)) ∧
    ∀ job : Job, (∀ p, job.filteredTo = some (.file p) ↔ job.filtered = some p) ∧
      job.filteredTo ≠ some .stdout := by
  refine ⟨?_, ?_, ?_⟩
  · intro p
    rw [← isDash_iff, Source.ofArgument]
    split <;> simp [*]
  · intro p
    rw [← isDash_iff, Destination.ofArgument?]
    split <;> simp [*]
  · intro job
    rw [Job.filteredTo]
    cases job.filtered <;> simp

example : SpellsDash "-".toList ∧ SpellsDash "-//".toList ∧ SpellsDash "-/./".toList ∧
    ¬ SpellsDash "./-".toList ∧ ¬ SpellsDash "/-".toList ∧ ¬ SpellsDash "-/a".toList := by decide

end Path
end MismatchLog
