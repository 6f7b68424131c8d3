import MismatchLog.Line

/-!
# Logs as lists of lines

* `Cut`: what it means that lines end where a line feed stands and nowhere else;
* `split_cut`, `split_flatten`: a log is cut that way, and lines that are cut that way are what
  their concatenation is cut into;
* `split_append`: a log that ends with a line feed is cut apart from what follows it;
* `Cut.sublist`: lines that are left out of a log never make two others one;
* `split_is_only_cut`: there is no other way to cut a log, and lines can be taken out of it and the
  rest be read again line by line.
-/

namespace MismatchLog.Line

/-- Lines that end after every line feed and nowhere else, the end of the log apart. -/
structure Cut (lines : List Bytes) : Prop where
  nonempty : ∀ line ∈ lines, line ≠ []
  /-- A line feed stands at the end of a line or not at all. -/
  inner : ∀ line ∈ lines, lf ∉ line.dropLast
  /-- Only the last line may lack one. -/
  ended : ∀ line ∈ lines.dropLast, line.getLast? = some lf

theorem cut_nil : Cut [] := ⟨nofun, nofun, nofun⟩

theorem Cut.tail {line : Bytes} {rest : List Bytes} (h : Cut (line :: rest)) : Cut rest := by
  refine ⟨?_, ?_, ?_⟩
  · intro l hl
    exact h.nonempty l (List.mem_cons_of_mem _ hl)
  · intro l hl
    exact h.inner l (List.mem_cons_of_mem _ hl)
  · intro l hl
    cases rest with
    | nil => cases hl
    | cons next rest => exact h.ended l (List.mem_cons_of_mem _ hl)

/-- A line that ends in its only line feed can stand in front of others. -/
theorem Cut.cons {line : Bytes} {rest : List Bytes} (hinner : lf ∉ line.dropLast)
    (hended : line.getLast? = some lf) (h : Cut rest) : Cut (line :: rest) := by
  refine ⟨?_, ?_, ?_⟩
  · rintro l (_ | ⟨_, hmem⟩)
    · rintro rfl
      cases hended
    · exact h.nonempty l hmem
  · rintro l (_ | ⟨_, hmem⟩)
    · exact hinner
    · exact h.inner l hmem
  · intro l hl
    cases rest with
    | nil => cases hl
    | cons next rest =>
      rcases List.mem_cons.mp hl with rfl | hmem
      · exact hended
      · exact h.ended l hmem

/-- A line feed in front of lines is a line of its own. -/
theorem cut_lf_cons {lines : List Bytes} (h : Cut lines) : Cut ([lf] :: lines) :=
  Cut.cons List.not_mem_nil rfl h

/-- Any other byte makes the first line longer. -/
theorem cut_cons_cons {b : UInt8} (hb : b ≠ lf) {line : Bytes} {rest : List Bytes}
    (h : Cut (line :: rest)) : Cut ((b :: line) :: rest) := by
  have hne : line ≠ [] := h.nonempty line List.mem_cons_self
  refine ⟨?_, ?_, ?_⟩
  · rintro l (_ | ⟨_, hmem⟩)
    · exact List.cons_ne_nil _ _
    · exact h.nonempty l (List.mem_cons_of_mem _ hmem)
  · rintro l (_ | ⟨_, hmem⟩)
    · rw [List.dropLast_cons_of_ne_nil hne, List.mem_cons, not_or]
      exact ⟨hb.symm, h.inner line List.mem_cons_self⟩
    · exact h.inner l (List.mem_cons_of_mem _ hmem)
  · intro l hl
    cases rest with
    | nil => cases hl
    | cons next rest =>
      rcases List.mem_cons.mp hl with rfl | hmem
      · rw [List.getLast?_cons_of_ne_nil hne]
        exact h.ended line List.mem_cons_self
      · exact h.ended l (List.mem_cons_of_mem _ hmem)

theorem cut_prepend (b : UInt8) {lines : List Bytes} (h : Cut lines) : Cut (prepend b lines) := by
  unfold prepend
  split
  · rename_i hb
    subst hb
    exact cut_lf_cons h
  · rename_i hb
    cases lines with
    | nil => exact ⟨by simp, by simp, by simp⟩
    | cons line rest => exact cut_cons_cons hb h

/-- A log is cut after every line feed. -/
theorem split_cut (log : Bytes) : Cut (split log) := by
  induction log with
  | nil => exact cut_nil
  | cons b log ih => exact cut_prepend b ih

/-! ## From lines back to the log -/

/-- The first line ends with the first line feed. -/
theorem split_append_lf {body : Bytes} (h : lf ∉ body) (rest : Bytes) :
    split (body ++ lf :: rest) = (body ++ [lf]) :: split rest := by
  induction body with
  | nil => rfl
  | cons b body ih =>
    rw [List.mem_cons, not_or] at h
    rw [List.cons_append, split_cons, ih h.2, prepend, if_neg (Ne.symm h.1)]
    rfl

/-- Without a line feed there is one line. -/
theorem split_unended {line : Bytes} (hne : line ≠ []) (h : lf ∉ line) : split line = [line] := by
  induction line with
  | nil => exact absurd rfl hne
  | cons b line ih =>
    rw [List.mem_cons, not_or] at h
    have hb : b ≠ lf := Ne.symm h.1
    cases line with
    | nil => simp [split, prepend, hb]
    | cons c line => rw [split_cons, ih (List.cons_ne_nil _ _) h.2, prepend, if_neg hb]

/-- Lines are what their log is cut into. The induction goes line by line: each but the last ends
with the first line feed of what is left. -/
theorem split_flatten {lines : List Bytes} (h : Cut lines) : split lines.flatten = lines := by
  induction lines with
  | nil => rfl
  | cons line rest ih =>
    have hne : line ≠ [] := h.nonempty line List.mem_cons_self
    have hinner : lf ∉ line.dropLast := h.inner line List.mem_cons_self
    have hline : line.dropLast ++ [line.getLast hne] = line := List.dropLast_concat_getLast hne
    rw [List.flatten_cons]
    by_cases hlast : line.getLast hne = lf
    · have hsplit := split_append_lf hinner rest.flatten
      rw [ih h.tail, ← List.singleton_append, ← List.append_assoc, ← hlast, hline] at hsplit
      exact hsplit
    · -- a line that lacks its line feed is the last
      have hrest : rest = [] := by
        cases rest with
        | nil => rfl
        | cons next rest =>
          have hended := h.ended line List.mem_cons_self
          rw [List.getLast?_eq_some_getLast hne] at hended
          exact absurd (Option.some.inj hended) hlast
      subst hrest
      have hno : lf ∉ line := by
        rw [← hline, List.mem_append, List.mem_singleton, not_or]
        exact ⟨hinner, Ne.symm hlast⟩
      rw [List.flatten_nil, List.append_nil]
      exact split_unended hne hno

/-! ## Two logs -/

theorem prepend_ne_nil (b : UInt8) (lines : List Bytes) : prepend b lines ≠ [] := by
  unfold prepend
  split
  · exact List.cons_ne_nil _ _
  · cases lines <;> exact List.cons_ne_nil _ _

/-- What is put in front of some lines does not reach the lines behind them. -/
theorem prepend_append (b : UInt8) {lines : List Bytes} (h : lines ≠ []) (more : List Bytes) :
    prepend b (lines ++ more) = prepend b lines ++ more := by
  cases lines with
  | nil => exact absurd rfl h
  | cons line rest =>
    unfold prepend
    split <;> rfl

/-- After a line feed the cutting starts anew. -/
theorem split_append_of_lf (log more : Bytes) :
    split (log ++ lf :: more) = split (log ++ [lf]) ++ split more := by
  induction log with
  | nil => rfl
  | cons b log ih =>
    have hne : split (log ++ [lf]) ≠ [] := by
      cases log with
      | nil => exact prepend_ne_nil lf _
      | cons c log => exact prepend_ne_nil c _
    rw [List.cons_append, split_cons, ih, prepend_append b hne, List.cons_append, split_cons]

/-- A log is empty or ends with a line feed, so that nothing can be glued to its last line. -/
def IsEnded (log : Bytes) : Prop := log = [] ∨ log.getLast? = some lf

theorem split_append {log : Bytes} (h : IsEnded log) (more : Bytes) :
    split (log ++ more) = split log ++ split more := by
  rcases h with rfl | hlast
  · rfl
  · obtain ⟨body, rfl⟩ := List.getLast?_eq_some_iff.mp hlast
    rw [List.append_assoc, List.singleton_append, split_append_of_lf]

/-! ## Some of the lines -/

theorem dropLast_sublist_dropLast {α : Type} {l l' : List α} (h : List.Sublist l l') :
    List.Sublist l.dropLast l'.dropLast := by
  rw [← List.reverse_sublist, ← List.tail_reverse, ← List.tail_reverse]
  exact h.reverse.tail

/-- Leaving lines out keeps every other line apart. -/
theorem Cut.sublist {lines kept : List Bytes} (h : Cut lines) (hsub : List.Sublist kept lines) :
    Cut kept := by
  refine ⟨?_, ?_, ?_⟩
  · intro line hline
    exact h.nonempty line (hsub.subset hline)
  · intro line hline
    exact h.inner line (hsub.subset hline)
  · intro line hline
    exact h.ended line ((dropLast_sublist_dropLast hsub).subset hline)

/-! ## The only cut -/

theorem length_prepend_le (b : UInt8) (lines : List Bytes) :
    (prepend b lines).length ≤ lines.length + 1 := by
  unfold prepend
  split
  · exact Nat.le_refl _
  · cases lines with
    | nil => exact Nat.le_refl _
    | cons line rest => exact Nat.le_succ _

/-- There are no more lines than bytes. -/
theorem length_split_le (log : Bytes) : (split log).length ≤ log.length := by
  induction log with
  | nil => exact Nat.le_refl _
  | cons b log ih => exact Nat.le_trans (length_prepend_le b (split log)) (Nat.succ_le_succ ih)

/-- **A log is cut in one way only.** Of all lists of byte strings the lines of a log are the one
that gives the log in order, without an empty line, with a line feed at the end of every line but
perhaps the last and nowhere else; there are no more lines than bytes. If lines are left out, those
that stay are the lines of what stays. -/
theorem split_is_only_cut (log : Bytes) :
    (∀ lines : List Bytes, Cut lines ∧ lines.flatten = log ↔ lines = split log) ∧
    (split log).length ≤ log.length ∧
    ∀ kept, List.Sublist kept (split log) → split kept.flatten = kept := by
  refine ⟨?_, length_split_le log, ?_⟩
  · intro lines
    constructor
    · rintro ⟨hcut, rfl⟩
      exact (split_flatten hcut).symm
    · rintro rfl
      exact ⟨split_cut log, flatten_split log⟩
  · intro kept hkept
    exact split_flatten ((split_cut log).sublist hkept)

/-- An empty line is left out between two others, of which the second lacks its line feed. -/
theorem split_is_only_cut_gap :
    List.Sublist [[0x61, lf], [0x62]] (split [0x61, lf, lf, 0x62]) ∧
    split [0x61, lf, 0x62] = [[0x61, lf], [0x62]] := by
  have hkept : List.Sublist [[0x61, lf], [0x62]] (split [0x61, lf, lf, 0x62]) := by decide
  exact ⟨hkept, (split_is_only_cut [0x61, lf, lf, 0x62]).2.2 _ hkept⟩

end MismatchLog.Line
