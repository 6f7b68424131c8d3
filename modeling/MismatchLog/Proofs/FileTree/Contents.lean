import MismatchLog.Proofs.FileTree.Opening

/-!
# Trees that differ in what their files hold

* `DifferInFiles`: two trees that are the same but for the content of some regular files;
* `EndAlike`: two computations that fail alike or have results that are related;
* `resolve_of_differ`, `read_of_differ`, `openForWriting_of_differ`, `truncate_of_differ`: nothing
  that is done with the trees tells them apart, but for reading one of those files, and truncating
  one makes it the same in both;
* `OpensFile.of_sameDirectories`, `OpensFile.openForWriting`: a path that opened once opens again as
  long as directories stay, and changes nothing if its file is there.
-/

namespace MismatchLog.FileTree

/-! ## Names -/

/-- A path names a place: it ends in a name there, without a slash after it. -/
def Names (t : FileTree) (path : Text) (p : Place) : Prop :=
  ∃ dir name, t.resolve path = .ok (.entry dir name false) ∧ p = dir ++ [name]

theorem SameDirectories.symm {t t' : FileTree} (h : SameDirectories t t') :
    SameDirectories t' t :=
  ⟨h.here.symm, fun p => (h.directory p).symm⟩

theorem SameDirectories.trans {t t' t'' : FileTree} (h : SameDirectories t t')
    (h' : SameDirectories t' t'') : SameDirectories t t'' :=
  ⟨h'.here.trans h.here, fun p => (h'.directory p).trans (h.directory p)⟩

theorem names_of_sameDirectories {t t' : FileTree} (h : SameDirectories t t') {path : Text}
    {p : Place} : t'.Names path p ↔ t.Names path p := by
  constructor
  · rintro ⟨dir, name, htarget, hp⟩
    exact ⟨dir, name, resolve_of_sameDirectories h.symm htarget, hp⟩
  · rintro ⟨dir, name, htarget, hp⟩
    exact ⟨dir, name, resolve_of_sameDirectories h htarget, hp⟩

theorem Names.unique {t : FileTree} {path : Text} {p q : Place} (hp : t.Names path p)
    (hq : t.Names path q) : p = q := by
  obtain ⟨dir, name, htarget, rfl⟩ := hp
  obtain ⟨dir', name', htarget', rfl⟩ := hq
  cases htarget.symm.trans htarget'
  rfl

theorem names_of_open {t t' : FileTree} {path : Text} {p : Place}
    (h : t.openForWriting path = .ok (p, t')) : t.Names path p := by
  obtain ⟨dir, name, htarget, -, hp, -⟩ := openForWriting_eq_ok_iff.mp h
  exact ⟨dir, name, htarget, hp⟩

/-! ## Opening again -/

theorem OpensFile.of_open {t t' t'' : FileTree} {path : Text} {p : Place} {content : Bytes}
    (h : t.openForWriting path = .ok (p, t')) (hdirectories : SameDirectories t t'')
    (hat : t''.at? p = some (.file content)) : OpensFile t'' path p := by
  obtain ⟨dir, name, htarget, hlong, hp, -⟩ := openForWriting_eq_ok_iff.mp h
  exact opensFile_iff.mpr ⟨dir, name, resolve_of_sameDirectories hdirectories htarget, hlong, hp,
    .inr ⟨content, hat⟩⟩

theorem OpensFile.of_sameDirectories {t t' : FileTree} {path : Text} {p : Place} {content : Bytes}
    (h : OpensFile t path p) (hdirectories : SameDirectories t t')
    (hat : t'.at? p = some (.file content)) : OpensFile t' path p := by
  obtain ⟨t₁, hopen, -⟩ := h
  exact .of_open hopen hdirectories hat

/-- A file that is there is opened as it is. -/
theorem OpensFile.openForWriting {t : FileTree} {path : Text} {p : Place} {content : Bytes}
    (h : OpensFile t path p) (hat : t.at? p = some (.file content)) :
    t.openForWriting path = .ok (p, t) := by
  obtain ⟨dir, name, htarget, hlong, hp, -⟩ := opensFile_iff.mp h
  exact openForWriting_eq_ok_iff.mpr
    ⟨dir, name, htarget, hlong, hp, .inr ⟨rfl, .inl ⟨content, hat⟩⟩⟩

/-- A path that names a file is read, if some path opens it. -/
theorem Names.read {t : FileTree} {path path' : Text} {p : Place} {content : Bytes}
    (h : t.Names path p) (hopens : OpensFile t path' p) (hat : t.at? p = some (.file content)) :
    t.read path = .ok content := by
  obtain ⟨dir, name, htarget, rfl⟩ := h
  obtain ⟨dir', name', -, hlong, hp, -⟩ := opensFile_iff.mp hopens
  obtain ⟨-, hname⟩ := List.append_inj' hp rfl
  obtain rfl : name = name' := List.cons.inj hname |>.1
  refine bind_eq_ok_iff.mpr ⟨_, htarget, ?_⟩
  exact bind_eq_ok_iff.mpr ⟨_, child_eq_ok_iff.mpr ⟨hlong, hat⟩, rfl⟩

/-! ## Two trees -/

/-- The same but for what regular files at some places hold. -/
structure DifferInFiles (places : Place → Prop) (t t' : FileTree) : Prop where
  here : t'.here = t.here
  found : ∀ p, t'.at? p = t.at? p ∨
    places p ∧ ∃ old new, t.at? p = some (.file old) ∧ t'.at? p = some (.file new)

/-- The same trees, as far as a look at any place can tell. -/
structure Same (t t' : FileTree) : Prop where
  here : t'.here = t.here
  found : ∀ p, t'.at? p = t.at? p

section
variable {places : Place → Prop} {t t' : FileTree}

theorem DifferInFiles.refl (places : Place → Prop) (t : FileTree) : DifferInFiles places t t :=
  ⟨rfl, fun _ => .inl rfl⟩

theorem DifferInFiles.mono {places' : Place → Prop} (h : DifferInFiles places t t')
    (hplaces : ∀ p, places p → places' p) : DifferInFiles places' t t' := by
  refine ⟨h.here, ?_⟩
  intro p
  rcases h.found p with hsame | ⟨hp, hfiles⟩
  · exact .inl hsame
  · exact .inr ⟨hplaces p hp, hfiles⟩

theorem DifferInFiles.symm (h : DifferInFiles places t t') : DifferInFiles places t' t := by
  refine ⟨h.here.symm, ?_⟩
  intro p
  rcases h.found p with hsame | ⟨hp, old, new, hold, hnew⟩
  · exact .inl hsame.symm
  · exact .inr ⟨hp, new, old, hnew, hold⟩

theorem DifferInFiles.trans {t'' : FileTree} (h : DifferInFiles places t t')
    (h' : DifferInFiles places t' t'') : DifferInFiles places t t'' := by
  refine ⟨h'.here.trans h.here, ?_⟩
  intro p
  rcases h.found p with hsame | ⟨hp, old, new, hold, hnew⟩
  · rw [← hsame]
    exact h'.found p
  · rcases h'.found p with hsame | ⟨-, -, newer, -, hnewer⟩
    · exact .inr ⟨hp, old, new, hold, hsame.trans hnew⟩
    · exact .inr ⟨hp, old, newer, hold, hnewer⟩

theorem DifferInFiles.same (h : DifferInFiles places t t') (hplaces : ∀ p, ¬ places p) :
    Same t t' := by
  refine ⟨h.here, ?_⟩
  intro p
  rcases h.found p with hsame | ⟨hp, -⟩
  · exact hsame
  · exact absurd hp (hplaces p)

theorem DifferInFiles.sameDirectories (h : DifferInFiles places t t') : SameDirectories t t' := by
  refine ⟨h.here, ?_⟩
  intro p
  rcases h.found p with hsame | ⟨-, old, new, hold, hnew⟩
  · rw [hsame]
  · simp [hold, hnew]

/-- A regular file stays one. -/
theorem DifferInFiles.file (h : DifferInFiles places t t') {p : Place} {content : Bytes}
    (hp : t.at? p = some (.file content)) : ∃ content', t'.at? p = some (.file content') := by
  rcases h.found p with hsame | ⟨-, -, new, -, hnew⟩
  · exact ⟨content, hsame.trans hp⟩
  · exact ⟨new, hnew⟩

/-- Putting the same node at the same place makes the place the same. -/
theorem DifferInFiles.put (h : DifferInFiles places t t') {p : Place} (hp : p ≠ []) (n : Node) :
    DifferInFiles (fun q => places q ∧ q ≠ p) (t.put p n) (t'.put p n) := by
  refine ⟨h.here, ?_⟩
  intro q
  rw [at?_put, at?_put]
  by_cases hq : q = p
  · simp [hq, hp]
  · rw [if_neg (by simp [hq]), if_neg (by simp [hq])]
    rcases h.found q with hsame | ⟨hplace, hfiles⟩
    · exact .inl hsame
    · exact .inr ⟨⟨hplace, hq⟩, hfiles⟩

/-! ## One tree before and after -/

theorem differInFiles_put {p : Place} {old : Bytes} (h : t.at? p = some (.file old)) (new : Bytes) :
    DifferInFiles (· = p) t (t.put p (.file new)) := by
  refine ⟨rfl, ?_⟩
  intro q
  rw [at?_put_file h]
  split
  · rename_i hq
    subst hq
    exact .inr ⟨rfl, old, new, h, rfl⟩
  · exact .inl rfl

theorem differInFiles_truncate {p : Place} (h : t.truncate p = .ok t') :
    DifferInFiles (· = p) t t' := by
  obtain ⟨⟨content, hat⟩, rfl⟩ := truncate_eq_ok_iff.mp h
  exact differInFiles_put hat []

theorem differInFiles_writeOver (t : FileTree) (p : Place) (bytes : Bytes) :
    DifferInFiles (· = p) t (t.writeOver p bytes) := by
  unfold writeOver
  split
  · rename_i old hat
    exact differInFiles_put hat _
  · exact .refl _ t

/-! ## The same done to two trees -/

/-- Both fail, with the same failure, or both have a result, and the results are related. -/
inductive EndAlike {ε α β : Type} (related : α → β → Prop) : Except ε α → Except ε β → Prop
  | error (e : ε) : EndAlike related (.error e) (.error e)
  | ok {a : α} {b : β} (results : related a b) : EndAlike related (.ok a) (.ok b)

theorem EndAlike.mono {ε α β : Type} {related related' : α → β → Prop} {x : Except ε α}
    {x' : Except ε β} (h : EndAlike related x x') (hrelated : ∀ a b, related a b → related' a b) :
    EndAlike related' x x' := by
  cases h with
  | error e => exact .error e
  | ok results => exact .ok (hrelated _ _ results)

theorem EndAlike.bind {ε α β α' β' : Type} {related : α → β → Prop} {related' : α' → β' → Prop}
    {x : Except ε α} {x' : Except ε β} {f : α → Except ε α'} {f' : β → Except ε β'}
    (h : EndAlike related x x')
    (hnext : ∀ a b, related a b → EndAlike related' (f a) (f' b)) :
    EndAlike related' (x >>= f) (x' >>= f') := by
  cases h with
  | error e => exact .error e
  | ok results => exact hnext _ _ results

theorem child_of_differ (h : DifferInFiles places t t') (dir : Place) (name : Text) :
    EndAlike (fun n n' => n' = n ∨
      places (dir ++ [name]) ∧ ∃ old new, n = .file old ∧ n' = .file new)
      (t.child dir name) (t'.child dir name) := by
  unfold child
  split
  · exact .error _
  · rcases h.found (dir ++ [name]) with hsame | ⟨hplace, old, new, hold, hnew⟩
    · rw [hsame]
      cases t.at? (dir ++ [name]) with
      | none => exact .error _
      | some n => exact .ok (.inl rfl)
    · rw [hold, hnew]
      exact .ok (.inr ⟨hplace, old, new, rfl, rfl⟩)

/-- Only directories are entered. -/
theorem enter_of_differ (h : DifferInFiles places t t') (dir : Place) (name : Text) :
    t'.enter dir name = t.enter dir name := by
  have hchild := child_of_differ h dir name
  unfold enter
  generalize t.child dir name = x at hchild
  generalize t'.child dir name = x' at hchild
  cases hchild with
  | error e => rfl
  | ok hnodes =>
    rcases hnodes with rfl | ⟨-, old, new, rfl, rfl⟩
    · rfl
    · rfl

theorem resolve_of_differ (h : DifferInFiles places t t') (path : Text) :
    t'.resolve path = t.resolve path := by
  have henter : t'.enter = t.enter := by
    funext dir name
    exact enter_of_differ h dir name
  simp only [resolve, h.here, henter]

/-- A file is read alike unless the trees differ in it. -/
theorem read_of_differ (h : DifferInFiles places t t') {path : Text}
    (hplace : ∀ p, t.Names path p → ¬ places p) : t'.read path = t.read path := by
  unfold read
  rw [resolve_of_differ h]
  cases htarget : t.resolve path with
  | error e => rfl
  | ok target =>
    cases target with
    | directory p => rfl
    | entry dir name slash =>
      have hchild := child_of_differ h dir name
      simp only [bind, Except.bind]
      generalize t.child dir name = x at hchild
      generalize t'.child dir name = x' at hchild
      cases hchild with
      | error e => rfl
      | ok hnodes =>
        rcases hnodes with rfl | ⟨hdiffers, old, new, rfl, rfl⟩
        · rfl
        · cases slash with
          | true => rfl
          | false => exact absurd hdiffers (hplace _ ⟨dir, name, htarget, rfl⟩)

theorem openForWriting_of_differ (h : DifferInFiles places t t') (path : Text) :
    EndAlike (fun r r' => r'.1 = r.1 ∧ DifferInFiles places r.2 r'.2)
      (t.openForWriting path) (t'.openForWriting path) := by
  unfold openForWriting
  rw [resolve_of_differ h]
  cases t.resolve path with
  | error e => exact .error e
  | ok target =>
    match target with
    | .directory p => exact .error _
    | .entry dir name true => exact .error _
    | .entry dir name false =>
      have hchild := child_of_differ h dir name
      simp only [bind, Except.bind]
      generalize t.child dir name = x at hchild
      generalize t'.child dir name = x' at hchild
      cases hchild with
      | error e =>
        dsimp only
        split
        · have hplace : dir ++ [name] ≠ [] := by simp
          exact .ok ⟨rfl, (h.put hplace _).mono fun _ => And.left⟩
        · exact .error e
      | ok hnodes =>
        rcases hnodes with rfl | ⟨-, old, new, rfl, rfl⟩
        · rename_i n
          cases n with
          | file content => exact .ok ⟨rfl, h⟩
          | directory => exact .error _
          | special s =>
            dsimp only
            cases s.refuses with
            | none => exact .ok ⟨rfl, h⟩
            | some e => exact .error e
        · exact .ok ⟨rfl, h⟩

/-- Truncating a file makes it the same in both. -/
theorem truncate_of_differ (h : DifferInFiles places t t') (p : Place) :
    EndAlike (DifferInFiles fun q => places q ∧ q ≠ p) (t.truncate p) (t'.truncate p) := by
  unfold truncate
  rcases h.found p with hsame | ⟨-, old, new, hold, hnew⟩
  · rw [hsame]
    split
    · rename_i content hat
      exact .ok (h.put (ne_nil_of_file hat) _)
    · exact .error _
  · rw [hold, hnew]
    exact .ok (h.put (ne_nil_of_file hold) _)

theorem writeOver_of_differ (h : DifferInFiles places t t') (p : Place) (bytes : Bytes) :
    DifferInFiles places (t.writeOver p bytes) (t'.writeOver p bytes) := by
  unfold writeOver
  rcases h.found p with hsame | ⟨hplace, old, new, hold, hnew⟩
  · rw [hsame]
    split
    · rename_i content hat
      exact (h.put (ne_nil_of_file hat) _).mono fun _ => And.left
    · exact h
  · rw [hold, hnew]
    refine ⟨h.here, ?_⟩
    intro q
    rw [at?_put_file hold, at?_put_file hnew]
    split
    · rename_i hq
      rw [hq]
      exact .inr ⟨hplace, _, _, rfl, rfl⟩
    · exact h.found q

end

end MismatchLog.FileTree
