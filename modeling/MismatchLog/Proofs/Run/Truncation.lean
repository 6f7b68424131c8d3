import MismatchLog.Proofs.Run.Opening
import MismatchLog.Proofs.Run.Writing

/-!
# From open outputs to empty ones

Outputs are truncated one after the other, the report's first. `truncateAndWrite_cases` names the
three ways on from open outputs, and `at?_truncate` says what a truncation changes.
-/

namespace MismatchLog.Run

theorem Opens.place?_eq_some_iff {t t' : FileTree} {d : Destination} {o : Output}
    (h : Opens t d o t') {q : Place} : o.place? = some q ↔ OpensAt t d q := by
  cases h with
  | stdout =>
    constructor
    · rintro ⟨⟩
    · rintro ⟨path, t', hd, -⟩
      cases hd
  | @file path p _ hopen =>
    constructor
    · rintro ⟨⟩
      exact ⟨path, _, rfl, hopen⟩
    · rintro ⟨path', t'', hd, hopen'⟩
      cases hd
      obtain ⟨rfl, -⟩ := Prod.mk.inj (Except.ok.inj (hopen.symm.trans hopen'))
      rfl

theorem at?_truncate {t t' : FileTree} {o : Output} (h : o.truncate t = .ok t') (q : Place) :
    t'.at? q = if o.place? = some q then some (.file []) else t.at? q := by
  cases o with
  | stdout =>
    obtain rfl := Except.ok.inj h
    rfl
  | file path p => simp [FileTree.at?_truncate h q, Output.place?, eq_comm]

/-- The copy's output is truncated, if there is one. -/
inductive TruncatesCopy (t : FileTree) : Option Output → FileTree → Prop
  | unwanted : TruncatesCopy t none t
  | output {o : Output} {t' : FileTree} (truncated : o.truncate t = .ok t') :
      TruncatesCopy t (some o) t'

theorem truncateAndWrite_of_truncated {w : World} {job : Job} {log : Bytes} {t t₁ t₂ : FileTree}
    {report : Output} {filtered : Option Output} (hreport : report.truncate t = .ok t₁)
    (hcopy : TruncatesCopy t₁ filtered t₂) :
    truncateAndWrite w job log t report filtered = write w job log t₂ report filtered := by
  cases hcopy with
  | unwanted => rw [truncateAndWrite, hreport]
  | output hcopy => simp only [truncateAndWrite, hreport, hcopy]

/-- From open outputs a run stops at the first that cannot be truncated, or writes. -/
theorem truncateAndWrite_cases (w : World) (job : Job) (log : Bytes) (t : FileTree)
    (report : Output) (filtered : Option Output) :
    (∃ e, report.truncate t = .error e ∧ truncateAndWrite w job log t report filtered =
      stopped (.io .truncateReport report.display e) t) ∨
    (∃ t₁ o e, report.truncate t = .ok t₁ ∧ filtered = some o ∧ o.truncate t₁ = .error e ∧
      truncateAndWrite w job log t report filtered =
        stopped (.io .truncateFiltered o.display e) t₁) ∨
    (∃ t₁ t₂, report.truncate t = .ok t₁ ∧ TruncatesCopy t₁ filtered t₂ ∧
      truncateAndWrite w job log t report filtered = write w job log t₂ report filtered) := by
  cases hreport : report.truncate t with
  | error e =>
    refine .inl ⟨e, rfl, ?_⟩
    rw [truncateAndWrite, hreport]
  | ok t₁ =>
    cases filtered with
    | none =>
      have hcopies : TruncatesCopy t₁ none t₁ := .unwanted
      exact .inr (.inr ⟨t₁, t₁, rfl, hcopies, truncateAndWrite_of_truncated hreport hcopies⟩)
    | some o =>
      cases hcopy : o.truncate t₁ with
      | error e =>
        refine .inr (.inl ⟨t₁, o, e, rfl, rfl, hcopy, ?_⟩)
        simp only [truncateAndWrite, hreport, hcopy]
      | ok t₂ =>
        have hcopies : TruncatesCopy t₁ (some o) t₂ := .output hcopy
        exact .inr (.inr ⟨t₁, t₂, rfl, hcopies, truncateAndWrite_of_truncated hreport hcopies⟩)

end MismatchLog.Run
