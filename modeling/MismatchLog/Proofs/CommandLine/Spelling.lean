import MismatchLog.CommandLine
import MismatchLog.Proofs.FileTree.Resolution
import MismatchLog.Proofs.Key.Spelling

/-!
# How arguments spell flags, options and logs

* `Spells`: the grammar of argument lists, apart from the reading. It says which flags, options with
  values, and logs a list of arguments is made of, one after the other;
* `readFrom_of_spells`: reading arguments is applying what they spell, from left to right;
* `spells_of_ok`: arguments that can be read spell something.

So what was read can be told from the items alone, however they were written.
-/

namespace MismatchLog.CommandLine

open FileTree (bind_eq_ok_iff)

inductive Item where
  | flag (f : Flag)
  | option (v : Valued) (value : Text)
  | log (arg : Text)
  deriving DecidableEq, Repr

def Item.apply (o : Options) : Item → Except Stop Options
  | .flag f => setFlag o f
  | .option v value => setValue o v value
  | .log arg => setLog o arg

/-- What items do, one after the other, and the option whose value is to follow them. -/
def applied (o : Options) (items : List Item) (next : Option Valued) :
    Except Stop (Options × Option Valued) := do
  return (← items.foldlM Item.apply o, next)

/-! ## The grammar -/

/-- Letters behind one dash: flags, and perhaps an option at the end with its value. The value
stands right behind the letter, behind an equals sign, or is still to come. -/
inductive Letters : Text → List Item → Option Valued → Prop
  | done : Letters [] [] none
  | flag {c : Char} {f : Flag} {t : Text} {items : List Item} {next : Option Valued}
      (named : (c, .flag f) ∈ shortNames) (rest : Letters t items next) :
      Letters (c :: t) (.flag f :: items) next
  | attached {c : Char} {v : Valued} {value : Text} (named : (c, .valued v) ∈ shortNames)
      (ne : value ≠ []) (first : value.head? ≠ some '=') : Letters (c :: value) [.option v value] none
  | equals {c : Char} {v : Valued} (value : Text) (named : (c, .valued v) ∈ shortNames) :
      Letters (c :: '=' :: value) [.option v value] none
  | awaiting {c : Char} {v : Valued} (named : (c, .valued v) ∈ shortNames) :
      Letters [c] [] (some v)

/-- One argument. -/
inductive Argument : Text → List Item → Option Valued → Prop
  | log {arg : Text} (plain : isValue arg = true) : Argument arg [.log arg] none
  | letters {c : Char} {t : Text} {items : List Item} {next : Option Valued} (first : c ≠ '-')
      (spelled : Letters (c :: t) items next) : Argument ('-' :: c :: t) items next
  | flag {name : Text} {f : Flag} (named : (name, .flag f) ∈ longNames) :
      Argument ('-' :: '-' :: name) [.flag f] none
  | equals {name : Text} {v : Valued} (value : Text) (named : (name, .valued v) ∈ longNames) :
      Argument ('-' :: '-' :: (name ++ '=' :: value)) [.option v value] none
  | awaiting {name : Text} {v : Valued} (named : (name, .valued v) ∈ longNames) :
      Argument ('-' :: '-' :: name) [] (some v)

/-- All arguments. Behind a lone pair of dashes every argument is a log. -/
inductive Spells : List Text → List Item → Prop
  | done : Spells [] []
  | dashes (logs : List Text) : Spells (['-', '-'] :: logs) (logs.map .log)
  | whole {arg : Text} {args : List Text} {items more : List Item}
      (first : Argument arg items none) (rest : Spells args more) :
      Spells (arg :: args) (items ++ more)
  | parted {arg value : Text} {args : List Text} {items more : List Item} {v : Valued}
      (first : Argument arg items (some v)) (plain : isValue value = true)
      (rest : Spells args more) : Spells (arg :: value :: args) (items ++ .option v value :: more)

/-! ## The names -/

theorem lookup_shortNames_iff {c : Char} {s : Switch} :
    shortNames.lookup c = some s ↔ (c, s) ∈ shortNames := by
  constructor
  · intro h
    obtain ⟨before, after, heq, -⟩ := List.lookup_eq_some_iff.mp h
    rw [heq]
    simp
  · intro h
    have all : ∀ n ∈ shortNames, shortNames.lookup n.1 = some n.2 := by decide
    exact all _ h

theorem lookup_longNames_iff {name : Text} {s : Switch} :
    longNames.lookup name = some s ↔ (name, s) ∈ longNames := by
  constructor
  · intro h
    obtain ⟨before, after, heq, -⟩ := List.lookup_eq_some_iff.mp h
    rw [heq]
    simp
  · intro h
    have all : ∀ n ∈ longNames, longNames.lookup n.1 = some n.2 := by decide
    exact all _ h

/-- A long name ends where its argument ends or an equals sign stands. -/
theorem cut_longName {name rest : Text} {s : Switch} (h : (name, s) ∈ longNames)
    (hrest : Key.Stops (· ≠ '=') rest) : (name ++ rest).takeWhile (· ≠ '=') = name ∧
      (name ++ rest).dropWhile (· ≠ '=') = rest := by
  have all : ∀ n ∈ longNames, n.1.all (· ≠ '=') = true := by decide
  have hname := List.all_eq_true.mp (all _ h)
  exact ⟨Key.takeWhile_run hname hrest, Key.dropWhile_run hname hrest⟩

theorem ne_nil_of_longName {name : Text} {s : Switch} (h : (name, s) ∈ longNames) : name ≠ [] := by
  have all : ∀ n ∈ longNames, n.1 ≠ [] := by decide
  exact all _ h

/-! ## What is spelled is what is read -/

theorem applied_cons (o : Options) (item : Item) (items : List Item) (next : Option Valued) :
    applied o (item :: items) next = item.apply o >>= fun o' => applied o' items next := by
  rw [applied, List.foldlM_cons, bind_assoc]
  rfl

theorem applied_singleton (o : Options) (item : Item) (next : Option Valued) :
    applied o [item] next = do return (← item.apply o, next) :=
  applied_cons o item [] next

theorem letters_of_letters {t : Text} {items : List Item} {next : Option Valued}
    (h : Letters t items next) (arg : Text) (o : Options) :
    letters arg o t = applied o items next := by
  induction h generalizing o with
  | done => rfl
  | flag named _ ih =>
    rw [letters, lookup_shortNames_iff.mpr named, applied_cons]
    simp only [ih]
    rfl
  | @attached c v value named ne first =>
    rw [letters, lookup_shortNames_iff.mpr named, applied_singleton]
    cases value with
    | nil => exact absurd rfl ne
    | cons d value =>
      have hd : d ≠ '=' := by simpa using first
      simp [hd, Item.apply]
  | equals value named =>
    rw [letters, lookup_shortNames_iff.mpr named, applied_singleton]
    rfl
  | awaiting named =>
    rw [letters, lookup_shortNames_iff.mpr named]
    rfl

theorem word_flag {name : Text} {f : Flag} (h : (name, .flag f) ∈ longNames) (arg : Text)
    (o : Options) : word arg o name = do return (← setFlag o f, none) := by
  obtain ⟨htake, hdrop⟩ := cut_longName h (Key.stops_nil _)
  rw [List.append_nil] at htake hdrop
  rw [word, htake, hdrop, lookup_longNames_iff.mpr h]

theorem word_equals {name : Text} {v : Valued} (h : (name, .valued v) ∈ longNames)
    (arg value : Text) (o : Options) :
    word arg o (name ++ '=' :: value) = do return (← setValue o v value, none) := by
  have hstops : Key.Stops (· ≠ '=') ('=' :: value) := Key.stops_cons (by decide)
  obtain ⟨htake, hdrop⟩ := cut_longName h hstops
  rw [word, htake, hdrop, lookup_longNames_iff.mpr h]

theorem word_awaiting {name : Text} {v : Valued} (h : (name, .valued v) ∈ longNames) (arg : Text)
    (o : Options) : word arg o name = .ok (o, some v) := by
  obtain ⟨htake, hdrop⟩ := cut_longName h (Key.stops_nil _)
  rw [List.append_nil] at htake hdrop
  rw [word, htake, hdrop, lookup_longNames_iff.mpr h]

theorem argument_of_argument {arg : Text} {items : List Item} {next : Option Valued}
    (h : Argument arg items next) (o : Options) : argument o arg = applied o items next := by
  cases h with
  | log plain =>
    rw [applied_singleton]
    unfold argument
    split
    · simp [isValue] at plain
    · simp [isValue] at plain
    · rfl
  | letters first spelled =>
    rw [argument]
    · exact letters_of_letters spelled _ o
    · simpa using first
  | flag named =>
    rw [argument, word_flag named, applied_singleton]
    rfl
  | equals value named =>
    rw [argument, word_equals named, applied_singleton]
    rfl
  | awaiting named =>
    rw [argument, word_awaiting named]
    rfl

/-- A lone pair of dashes is none of these arguments. -/
theorem Argument.ne_dashes {arg : Text} {items : List Item} {next : Option Valued}
    (h : Argument arg items next) : arg ≠ ['-', '-'] := by
  intro harg
  cases h with
  | log plain =>
    rw [harg] at plain
    cases plain
  | letters first _ => exact first (by simpa using (List.cons.inj (List.cons.inj harg).2).1)
  | flag named => exact ne_nil_of_longName named (by simpa using harg)
  | equals value named => simp at harg
  | awaiting named => exact ne_nil_of_longName named (by simpa using harg)

/-- Reading arguments is applying what they spell. -/
theorem readFrom_of_spells {args : List Text} {items : List Item} (h : Spells args items)
    (o : Options) : readFrom o args = items.foldlM Item.apply o := by
  induction h generalizing o with
  | done => rfl
  | dashes logs =>
    rw [readFrom, if_pos rfl, List.foldlM_map]
    rfl
  | @whole arg args items more first _ ih =>
    rw [readFrom, if_neg first.ne_dashes, argument_of_argument first, List.foldlM_append, applied]
    cases items.foldlM Item.apply o with
    | error e => rfl
    | ok o' => exact ih o'
  | @parted arg value args items more v first plain _ ih =>
    rw [readFrom, if_neg first.ne_dashes, argument_of_argument first, List.foldlM_append, applied]
    cases items.foldlM Item.apply o with
    | error e => rfl
    | ok o' =>
      show (if isValue value = true then _ else _) =
        List.foldlM Item.apply o' (.option v value :: more)
      rw [if_pos plain, List.foldlM_cons, Item.apply]
      cases setValue o' v value with
      | error e => rfl
      | ok o'' => exact ih o''

/-! ## What is read is spelled -/

theorem letters_of_ok {arg t : Text} {o : Options} {r : Options × Option Valued}
    (h : letters arg o t = .ok r) : ∃ items, Letters t items r.2 := by
  induction t generalizing o with
  | nil =>
    obtain rfl := Except.ok.inj h
    exact ⟨[], .done⟩
  | cons c t ih =>
    rw [letters] at h
    cases hc : shortNames.lookup c with
    | none =>
      rw [hc] at h
      cases h
    | some s =>
      rw [hc] at h
      have named := lookup_shortNames_iff.mp hc
      cases s with
      | flag f =>
        obtain ⟨o', -, h⟩ := bind_eq_ok_iff.mp h
        obtain ⟨items, hitems⟩ := ih h
        exact ⟨_, .flag named hitems⟩
      | valued v =>
        dsimp only at h
        split at h
        · obtain rfl := Except.ok.inj h
          exact ⟨[], .awaiting named⟩
        · rename_i value
          obtain ⟨o', -, h⟩ := bind_eq_ok_iff.mp h
          obtain rfl := Except.ok.inj h
          exact ⟨_, .equals value named⟩
        · rename_i hne hequals
          obtain ⟨o', -, h⟩ := bind_eq_ok_iff.mp h
          obtain rfl := Except.ok.inj h
          refine ⟨_, .attached named hne ?_⟩
          rw [Ne, List.head?_eq_some_iff]
          rintro ⟨value, rfl⟩
          exact hequals value rfl

theorem word_of_ok {arg body : Text} {o : Options} {r : Options × Option Valued}
    (h : word arg o body = .ok r) : ∃ items, Argument ('-' :: '-' :: body) items r.2 := by
  have hbody : body.takeWhile (· ≠ '=') ++ body.dropWhile (· ≠ '=') = body :=
    List.takeWhile_append_dropWhile
  rw [word] at h
  split at h
  · cases h
  · rename_i f hname hrest
    obtain ⟨o', -, h⟩ := bind_eq_ok_iff.mp h
    obtain rfl := Except.ok.inj h
    rw [hrest, List.append_nil] at hbody
    rw [hbody] at hname
    exact ⟨_, .flag (lookup_longNames_iff.mp hname)⟩
  · cases h
  · rename_i v hname hrest
    obtain rfl := Except.ok.inj h
    rw [hrest, List.append_nil] at hbody
    rw [hbody] at hname
    exact ⟨_, .awaiting (lookup_longNames_iff.mp hname)⟩
  · rename_i v c value hname hrest
    obtain ⟨o', -, h⟩ := bind_eq_ok_iff.mp h
    obtain rfl := Except.ok.inj h
    have hc : c = '=' := by
      have hstops := Key.stops_dropWhile (· ≠ '=') body
      rw [hrest] at hstops
      simpa using hstops c rfl
    rw [hrest, hc] at hbody
    have hargument := Argument.equals value (lookup_longNames_iff.mp hname)
    rw [hbody] at hargument
    exact ⟨_, hargument⟩

theorem argument_of_ok {arg : Text} {o : Options} {r : Options × Option Valued}
    (h : argument o arg = .ok r) : ∃ items, Argument arg items r.2 := by
  unfold argument at h
  split at h
  · exact word_of_ok h
  · rename_i c rest hdash
    obtain ⟨items, hitems⟩ := letters_of_ok h
    exact ⟨items, .letters hdash hitems⟩
  · rename_i hletters
    obtain ⟨o', -, h⟩ := bind_eq_ok_iff.mp h
    obtain rfl := Except.ok.inj h
    refine ⟨_, .log ?_⟩
    -- a dash is in front of nothing, or not in front at all
    match arg, hletters with
    | [], _ => rfl
    | [c], _ => by_cases hc : c = '-' <;> simp [isValue, hc]
    | c :: d :: rest, hletters =>
      have hc : c ≠ '-' := by
        rintro rfl
        exact hletters d rest rfl
      simp [isValue, hc]

theorem spells_of_ok {args : List Text} {o o' : Options} (h : readFrom o args = .ok o') :
    ∃ items, Spells args items := by
  fun_induction readFrom o args with
  | case1 => exact ⟨[], .done⟩
  | case2 o rest => exact ⟨_, .dashes rest⟩
  | case3 => cases h
  | case4 o arg rest _ o₁ hargument ih =>
    obtain ⟨items, hitems⟩ := argument_of_ok hargument
    obtain ⟨more, hmore⟩ := ih h
    exact ⟨_, .whole hitems hmore⟩
  | case5 => cases h
  | case6 o arg _ o₁ v hargument value rest hplain e => cases h
  | case7 o arg _ o₁ v hargument value rest hplain o₂ _ ih =>
    obtain ⟨items, hitems⟩ := argument_of_ok hargument
    obtain ⟨more, hmore⟩ := ih h
    exact ⟨_, .parted hitems hplain hmore⟩
  | case8 => cases h

end MismatchLog.CommandLine
