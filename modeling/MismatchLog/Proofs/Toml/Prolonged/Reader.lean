import MismatchLog.Toml.Blank

/-!
# Readers and a text that goes on

What a reader makes of a text when more lines are put behind it.

* `prolong`: a text with more lines behind it;
* `Exact`: a reader to which the lines make no difference;
* `Steady`: a reader that still reads what it read without them, though it may read more of a text
  that it refused. Steady readers can be put one behind the other.
-/

namespace MismatchLog.Toml

/-- A text with more lines behind it. -/
def prolong (more t : Text) : Text := t ++ '\n' :: more

@[simp] theorem prolong_nil (more : Text) : prolong more [] = '\n' :: more := rfl

@[simp] theorem prolong_cons (more : Text) (c : Char) (t : Text) :
    prolong more (c :: t) = c :: prolong more t := rfl

/-- What a text with more lines starts with on its line it starts with alone. -/
theorem prolong_eq_append_iff {more w : Text} (hw : '\n' ∉ w) {t rest : Text} :
    prolong more t = w ++ rest ↔ ∃ u, t = w ++ u ∧ rest = prolong more u := by
  constructor
  · intro h
    induction w generalizing t with
    | nil => exact ⟨t, rfl, h.symm⟩
    | cons c w ih =>
      rw [List.mem_cons, not_or] at hw
      cases t with
      | nil => exact absurd (List.cons.inj h).1 hw.1
      | cons d t =>
        obtain ⟨rfl, hrest⟩ := List.cons.inj h
        obtain ⟨u, rfl, hu⟩ := ih hw.2 hrest
        exact ⟨u, rfl, hu⟩
  · rintro ⟨u, rfl, rfl⟩
    exact List.append_assoc w u _

/-- An answer with more lines behind the rest of the text. -/
def behind {α : Type} (more : Text) (r : α × Text) : α × Text := (r.1, prolong more r.2)

/-- More lines behind the text make no difference to what is read or refused. -/
def Exact {α : Type} (read : Text → Option (α × Text)) : Prop :=
  ∀ more t, read (prolong more t) = (read t).map (behind more)

/-- The same for a reader that only skips. -/
def ExactSkip (skip : Text → Option Text) : Prop :=
  ∀ more t, skip (prolong more t) = (skip t).map (prolong more)

theorem bind_commute {ρ σ : Type} {o : Option ρ} {f : ρ → Option σ} {g : ρ → ρ} {k : σ → σ}
    (h : ∀ r, f (g r) = (f r).map k) : (o.map g).bind f = (o.bind f).map k := by
  cases o with
  | none => rfl
  | some r => exact h r

theorem bind_behind {α : Type} (o : Option α) (more t : Text) :
    (o.bind fun a => some (a, prolong more t)) = (o.bind fun a => some (a, t)).map (behind more) := by
  cases o <;> rfl

theorem takeWhile_prolong {p : Char → Bool} (hp : p '\n' = false) (more t : Text) :
    (prolong more t).takeWhile p = t.takeWhile p := by
  induction t with
  | nil => rw [prolong_nil, List.takeWhile_cons_of_neg (by simp [hp])]; rfl
  | cons c t ih => rw [prolong_cons, List.takeWhile_cons, List.takeWhile_cons, ih]

theorem dropWhile_prolong {p : Char → Bool} (hp : p '\n' = false) (more t : Text) :
    (prolong more t).dropWhile p = prolong more (t.dropWhile p) := by
  induction t with
  | nil => rw [prolong_nil, List.dropWhile_cons_of_neg (by simp [hp])]; rfl
  | cons c t ih =>
    rw [prolong_cons, List.dropWhile_cons, List.dropWhile_cons, ih]
    split <;> rfl

/-! ## Readers that are steady -/

section
variable {α β : Type} {f f' : Text → Option (α × Text)}

/-- What the first reader reads of a text, the second reads of it with more lines. -/
def Carries (f f' : Text → Option (α × Text)) : Prop :=
  ∀ ⦃t a rest⦄, f t = some (a, rest) → ∀ more, f' (prolong more t) = some (a, prolong more rest)

/-- What is read of a text is read of it with more lines, too. -/
def Steady (f : Text → Option (α × Text)) : Prop := Carries f f

theorem Exact.steady (h : Exact f) : Steady f := by
  intro t a rest hread more
  rw [h, hread]
  rfl

/-- A reader that goes one way behind a certain character, and another way without it. -/
structure Branches (c : Char) (f g read : Text → Option (α × Text)) : Prop where
  behind : ∀ t, read (c :: t) = f t
  other : ∀ t, (∀ u, t ≠ c :: u) → read t = g t

namespace Carries

theorem pure (a : α) : Carries (fun t => some (a, t)) fun t => some (a, t) := by
  intro t b rest h more
  obtain ⟨rfl, rfl⟩ := Prod.mk.inj (Option.some.inj h)
  rfl

theorem refuse : Carries (fun _ => none) f' := nofun

theorem of_eq {g g' : Text → Option (α × Text)} (hg : Carries g g') (h : ∀ t, f t = g t)
    (h' : ∀ t, f' t = g' t) : Carries f f' := by
  intro t a rest hread more
  rw [h] at hread
  rw [h']
  exact hg hread more

/-- One reader behind the other. -/
theorem bind {g g' : α → Text → Option (β × Text)} (hf : Carries f f')
    (hg : ∀ a, Carries (g a) (g' a)) :
    Carries (fun t => (f t).bind fun r => g r.1 r.2) fun t => (f' t).bind fun r => g' r.1 r.2 := by
  intro t b rest h more
  obtain ⟨⟨a, u⟩, hu, hrest⟩ := Option.bind_eq_some_iff.mp h
  exact Option.bind_eq_some_iff.mpr ⟨(a, prolong more u), hf hu more, hg a hrest more⟩

/-- A reader behind a choice that does not depend on the text. -/
theorem given {γ : Type} {g g' : γ → Text → Option (β × Text)} (o : Option γ)
    (hg : ∀ c, Carries (g c) (g' c)) :
    Carries (fun t => o.bind fun c => g c t) fun t => o.bind fun c => g' c t := by
  cases o with
  | none => exact nofun
  | some c => exact hg c

/-- A reader behind one that only skips. -/
theorem skip {skip : Text → Option Text} (hskip : ExactSkip skip) (hf : Carries f f') :
    Carries (fun t => (skip t).bind f) fun t => (skip t).bind f' := by
  intro t b rest h more
  obtain ⟨u, hu, hrest⟩ := Option.bind_eq_some_iff.mp h
  exact Option.bind_eq_some_iff.mpr ⟨prolong more u, by rw [hskip, hu]; rfl, hf hrest more⟩

theorem shift {drop : Text → Text} (hdrop : ∀ more t, drop (prolong more t) = prolong more (drop t))
    (hf : Carries f f') : Carries (fun t => f (drop t)) fun t => f' (drop t) := by
  intro t b rest h more
  simp only [hdrop]
  exact hf h more

theorem branch {g g' read read' : Text → Option (α × Text)} {c : Char} (hc : c ≠ '\n')
    (h : Branches c f g read) (h' : Branches c f' g' read') (hf : Carries f f')
    (hg : Carries g g') : Carries read read' := by
  intro t b rest hread more
  by_cases hsign : ∃ u, t = c :: u
  · obtain ⟨u, rfl⟩ := hsign
    rw [h.behind] at hread
    rw [prolong_cons, h'.behind]
    exact hf hread more
  · rw [h.other t fun u hu => hsign ⟨u, hu⟩] at hread
    rw [h'.other]
    · exact hg hread more
    · intro u hu
      obtain ⟨v, rfl, -⟩ := (prolong_eq_append_iff (w := [c]) (by simpa using hc.symm)).mp hu
      exact hsign ⟨v, rfl⟩

end Carries
end

end MismatchLog.Toml
