import MismatchLog.Settings.Location

/-!
# Where settings are kept

A user who has a home directory has a directory of settings, beneath it or wherever else the
environment says. All others get by with the working directory.

* `HomeOf`, `KeptIn`: the home directory and the directory of settings;
* `Standard`: the file that is looked at when none is named, with a warning for users without a
  home;
* `homeOf_iff`, `keptIn_iff`, `standard_iff`: they are what is looked up, so there is one answer to
  each, and to the last there always is one.
-/

namespace MismatchLog.Settings

/-- The home directory: the one that is named, unless the name is empty, or the account's. -/
inductive HomeOf (d : Directories) : Text → Prop
  | named {home : Text} (value : d.home = some home) (nonempty : home ≠ []) : HomeOf d home
  | account {home : Text} (unnamed : ∀ dir, d.home = some dir → dir = [])
      (value : d.account = some home) (nonempty : home ≠ []) : HomeOf d home

/-- The directory of settings of a user with a home directory. -/
inductive KeptIn (d : Directories) : Text → Prop
  | named {home dir : Text} (owner : HomeOf d home) (value : d.configHome = some dir)
      (absolute : Path.isAbsolute dir) : KeptIn d dir
  | beneath {home : Text} (owner : HomeOf d home)
      (unnamed : ∀ dir, d.configHome = some dir → ¬ Path.isAbsolute dir) :
      KeptIn d (Path.join home ".config".toList)

/-- The file that is looked at when none is named, and the warning about that. -/
inductive Standard (d : Directories) : Text → Option Text → Prop
  | kept {dir : Text} (directory : KeptIn d dir) :
      Standard d (Path.join (Path.join dir "xregscan".toList) fileName) none
  | homeless (homeless : ∀ home, ¬ HomeOf d home) :
      Standard d (Path.join ['.'] fileName) (some Settings.homeless)

section
variable {d : Directories}

theorem homeOf_iff {home : Text} : HomeOf d home ↔ d.home? = some home := by
  rw [Directories.home?, Option.or_eq_some_iff, Option.filter_eq_some_iff,
    Option.filter_eq_some_iff, Option.filter_eq_none_iff]
  simp only [decide_eq_true_eq, Decidable.not_not]
  constructor
  · intro h
    cases h with
    | named value nonempty => exact .inl ⟨value, nonempty⟩
    | account unnamed value nonempty => exact .inr ⟨unnamed, value, nonempty⟩
  · rintro (⟨value, nonempty⟩ | ⟨unnamed, value, nonempty⟩)
    · exact .named value nonempty
    · exact .account unnamed value nonempty

theorem keptIn_iff {dir : Text} : KeptIn d dir ↔ d.config? = some dir := by
  rw [Directories.config?, Option.map_eq_some_iff]
  constructor
  · intro h
    cases h with
    | named owner value absolute =>
      refine ⟨_, homeOf_iff.mp owner, ?_⟩
      rw [value, Option.filter_some_pos absolute, Option.getD_some]
    | beneath owner unnamed =>
      refine ⟨_, homeOf_iff.mp owner, ?_⟩
      rw [Option.filter_eq_none_iff.mpr unnamed, Option.getD_none]
  · rintro ⟨home, hhome, rfl⟩
    cases hnamed : d.configHome.filter Path.isAbsolute with
    | none => exact .beneath (homeOf_iff.mpr hhome) (Option.filter_eq_none_iff.mp hnamed)
    | some dir =>
      obtain ⟨hvalue, habsolute⟩ := Option.filter_eq_some_iff.mp hnamed
      exact .named (homeOf_iff.mpr hhome) hvalue habsolute

/-- Exactly those without a home directory have no directory of settings. -/
theorem config?_eq_none_iff : d.config? = none ↔ ∀ home, ¬ HomeOf d home := by
  rw [Directories.config?, Option.map_eq_none_iff, Option.eq_none_iff_forall_ne_some]
  simp only [homeOf_iff, ne_eq]

theorem standard_iff {path : Text} {warning : Option Text} :
    Standard d path warning ↔ defaultPath d = (path, warning) := by
  unfold defaultPath
  cases hconfig : d.config? with
  | some dir =>
    constructor
    · intro h
      cases h with
      | kept directory =>
        obtain rfl := Option.some.inj (hconfig.symm.trans (keptIn_iff.mp directory))
        rfl
      | homeless homeless => cases hconfig.symm.trans (config?_eq_none_iff.mpr homeless)
    · rintro ⟨⟩
      exact .kept (keptIn_iff.mpr hconfig)
  | none =>
    constructor
    · intro h
      cases h with
      | kept directory => cases hconfig.symm.trans (keptIn_iff.mp directory)
      | homeless => rfl
    · rintro ⟨⟩
      exact .homeless (config?_eq_none_iff.mp hconfig)

theorem Standard.unique {path path' : Text} {warning warning' : Option Text}
    (h : Standard d path warning) (h' : Standard d path' warning') :
    path = path' ∧ warning = warning' :=
  Prod.mk.inj ((standard_iff.mp h).symm.trans (standard_iff.mp h'))

end

/-- A directory that is named is of no use to a user without a home directory. -/
example : defaultPath ⟨none, some [], some "/etc".toList⟩ =
    ("./config.toml".toList, some homeless) := by decide

end MismatchLog.Settings
