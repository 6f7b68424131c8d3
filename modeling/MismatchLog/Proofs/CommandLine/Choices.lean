import MismatchLog.Proofs.CommandLine.Spelling

/-!
# What a command line says

* `choices`, `values`, `logs`: what the items of a command line say about counts, about an option,
  and about the log;
* `Applies`: the one change that an item makes to what was read so far;
* `Says`: what was read is what the items say. An option and the log are named at most once, and of
  the choices about counts the last holds;
* `says_of_readFrom`: so it is when a whole command line was read, and `debug_of_readFrom` says so of
  the flag for debugging.
-/

namespace MismatchLog.CommandLine

open FileTree (bind_eq_ok_iff)

def Item.choice? : Item → Option Bool
  | .flag .counts => some true
  | .flag .noCounts => some false
  | _ => none

def Item.value? (v : Valued) : Item → Option Text
  | .option v' value => if v' = v then some value else none
  | _ => none

def Item.log? : Item → Option Text
  | .log arg => some arg
  | _ => none

/-- The choices between counts and none, in the order of the items. -/
def choices (items : List Item) : List Bool := items.filterMap Item.choice?

/-- The values that are given for an option. -/
def values (v : Valued) (items : List Item) : List Text := items.filterMap (Item.value? v)

def logs (items : List Item) : List Text := items.filterMap Item.log?

/-! ## One item -/

inductive Applies (o : Options) : Item → Options → Prop
  | counts (new : o.counts ≠ some true) :
      Applies o (.flag .counts) { o with counts := some true }
  | noCounts (new : o.counts ≠ some false) :
      Applies o (.flag .noCounts) { o with counts := some false }
  | debug (new : o.debug = false) : Applies o (.flag .debug) { o with debug := true }
  | output {value : Text} (new : o.output = none) :
      Applies o (.option .output value) { o with output := some value }
  | filtered {value : Text} (new : o.filtered = none) :
      Applies o (.option .filtered value) { o with filtered := some value }
  | config {value : Text} (new : o.config = none) :
      Applies o (.option .config value) { o with config := some value }
  | format {f : Format} (new : o.format = none) :
      Applies o (.option .format f.label) { o with format := some f }
  | log {arg : Text} (new : o.log = none) : Applies o (.log arg) { o with log := some arg }

theorem setCounts_eq_ok_iff {o o' : Options} {f : Flag} {choice : Bool} :
    setCounts o f choice = .ok o' ↔
      o.counts ≠ some choice ∧ { o with counts := some choice } = o' := by
  unfold setCounts
  split <;> simp [*]

theorem path_eq_ok_iff {v : Valued} {old new : Option Text} {value : Text} :
    path v old value = .ok new ↔ old = none ∧ value ≠ [] ∧ some value = new := by
  unfold path
  cases old with
  | none => by_cases hv : value = [] <;> simp [hv]
  | some t => simp

theorem label_of_format? {name : Text} {f : Format} (h : format? name = some f) :
    f.label = name := by
  simpa using List.find?_some h

theorem setFlag_applies {o o' : Options} {f : Flag} (h : setFlag o f = .ok o') :
    Applies o (.flag f) o' := by
  cases f with
  | counts =>
    obtain ⟨hnew, rfl⟩ := setCounts_eq_ok_iff.mp h
    exact .counts hnew
  | noCounts =>
    obtain ⟨hnew, rfl⟩ := setCounts_eq_ok_iff.mp h
    exact .noCounts hnew
  | debug =>
    rw [setFlag] at h
    split at h
    · cases h
    · rename_i hnew
      obtain rfl := Except.ok.inj h
      exact .debug (by simpa using hnew)
  | version => cases h
  | help => cases h

theorem setValue_applies {o o' : Options} {v : Valued} {value : Text}
    (h : setValue o v value = .ok o') : Applies o (.option v value) o' := by
  cases v with
  | output =>
    obtain ⟨new, hnew, h⟩ := bind_eq_ok_iff.mp h
    obtain ⟨hnone, -, rfl⟩ := path_eq_ok_iff.mp hnew
    obtain rfl := Except.ok.inj h
    exact .output hnone
  | filtered =>
    obtain ⟨new, hnew, h⟩ := bind_eq_ok_iff.mp h
    obtain ⟨hnone, -, rfl⟩ := path_eq_ok_iff.mp hnew
    obtain rfl := Except.ok.inj h
    exact .filtered hnone
  | config =>
    obtain ⟨new, hnew, h⟩ := bind_eq_ok_iff.mp h
    obtain ⟨hnone, -, rfl⟩ := path_eq_ok_iff.mp hnew
    obtain rfl := Except.ok.inj h
    exact .config hnone
  | format =>
    rw [setValue] at h
    split at h
    · cases h
    · rename_i hnew
      split at h
      · rename_i f hf
        obtain rfl := Except.ok.inj h
        rw [← label_of_format? hf]
        exact .format (by simpa using hnew)
      · cases h

theorem apply_applies {o o' : Options} {item : Item} (h : item.apply o = .ok o') :
    Applies o item o' := by
  cases item with
  | flag f => exact setFlag_applies h
  | option v value => exact setValue_applies h
  | log arg =>
    rw [Item.apply, setLog] at h
    split at h
    · cases h
    · rename_i hnew
      split at h
      · cases h
      · obtain rfl := Except.ok.inj h
        exact .log (by simpa using hnew)

/-! ## All items -/

structure Says (items : List Item) (o : Options) : Prop where
  log : logs items = o.log.toList
  output : values .output items = o.output.toList
  filtered : values .filtered items = o.filtered.toList
  config : values .config items = o.config.toList
  format : values .format items = (o.format.map Format.label).toList
  counts : (choices items).getLast? = o.counts

theorem says_nil : Says [] .empty := ⟨rfl, rfl, rfl, rfl, rfl, rfl⟩

theorem Says.concat {items : List Item} {item : Item} {o o' : Options} (h : Says items o)
    (happlies : Applies o item o') : Says (items ++ [item]) o' := by
  obtain ⟨hlog, houtput, hfiltered, hconfig, hformat, hcounts⟩ := h
  simp only [logs, values, choices] at hlog houtput hfiltered hconfig hformat hcounts
  cases happlies <;> constructor <;>
    simp_all [logs, values, choices, List.filterMap_append, Item.log?, Item.value?, Item.choice?]

/-- The items that were applied are what the options say, whatever was said before them. -/
theorem says_of_foldlM {before items : List Item} {o o' : Options} (h : Says before o)
    (hfold : items.foldlM Item.apply o = .ok o') : Says (before ++ items) o' := by
  induction items generalizing before o with
  | nil =>
    obtain rfl := Except.ok.inj hfold
    rwa [List.append_nil]
  | cons item items ih =>
    rw [List.foldlM_cons] at hfold
    obtain ⟨o₁, happly, hfold⟩ := bind_eq_ok_iff.mp hfold
    have hnext := ih (h.concat (apply_applies happly)) hfold
    rwa [List.append_assoc, List.singleton_append] at hnext

theorem says_of_readFrom {args : List Text} {items : List Item} {o : Options}
    (h : Spells args items) (hread : readFrom .empty args = .ok o) : Says items o := by
  rw [readFrom_of_spells h] at hread
  exact says_of_foldlM says_nil hread

/-- The flag for debugging is among the items exactly if it was set. -/
theorem debug_of_foldlM {items : List Item} {o o' : Options}
    (hfold : items.foldlM Item.apply o = .ok o') :
    o'.debug = true ↔ o.debug = true ∨ .flag .debug ∈ items := by
  induction items generalizing o with
  | nil =>
    obtain rfl := Except.ok.inj hfold
    simp
  | cons item items ih =>
    rw [List.foldlM_cons] at hfold
    obtain ⟨o₁, happly, hfold⟩ := bind_eq_ok_iff.mp hfold
    rw [ih hfold]
    cases apply_applies happly <;> simp

theorem debug_of_readFrom {args : List Text} {items : List Item} {o : Options}
    (h : Spells args items) (hread : readFrom .empty args = .ok o) :
    o.debug = true ↔ .flag .debug ∈ items := by
  rw [readFrom_of_spells h] at hread
  simpa [Options.empty] using debug_of_foldlM hread

theorem read_eq_ok_iff {args : List Text} {r : Request} :
    read args = .ok r ↔ readFrom .empty args = .ok r.options ∧ r.options.log = some r.log := by
  obtain ⟨log, options⟩ := r
  rw [read, bind_eq_ok_iff]
  constructor
  · rintro ⟨o, hread, h⟩
    cases hlog : o.log with
    | none =>
      rw [hlog] at h
      cases h
    | some arg =>
      rw [hlog] at h
      obtain ⟨rfl, rfl⟩ := Request.mk.inj (Except.ok.inj h)
      exact ⟨hread, hlog⟩
  · rintro ⟨hread, hlog⟩
    refine ⟨options, hread, ?_⟩
    rw [hlog]
    rfl

end MismatchLog.CommandLine
