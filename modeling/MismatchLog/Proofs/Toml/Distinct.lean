import MismatchLog.Toml.Document
import Mathlib.Data.List.Nodup

/-!
# No name is defined twice

* `Table.Distinct`, `Value.Distinct`: no two members of a table have the same name, at any depth;
* `Table.assign_distinct`, `Table.within_distinct`: whatever a statement adds keeps it so;
* `read?_distinct`: so it is in the table of every document.
-/

namespace MismatchLog.Toml

mutual

/-- All tables in a value have distinct names. -/
inductive Value.Distinct : Value → Prop
  | boolean (b : Bool) : Value.Distinct (.boolean b)
  | integer (n : Int) : Value.Distinct (.integer n)
  | float (x : Binary64) : Value.Distinct (.float x)
  | string (t : Text) : Value.Distinct (.string t)
  | moment : Value.Distinct .moment
  | array {items : List Value} (each : ∀ v ∈ items, v.Distinct) : Value.Distinct (.array items)
  | table {origin : Origin} {members : Table} (distinct : Table.Distinct members) :
      Value.Distinct (.table origin members)
  | tables {elements : List Table} (each : ∀ t ∈ elements, Table.Distinct t) :
      Value.Distinct (.tables elements)

/-- No two members of a table have the same name, and so in the values of its members. -/
inductive Table.Distinct : Table → Prop
  | intro {t : Table} (names : (t.map Prod.fst).Nodup) (values : ∀ m ∈ t, Value.Distinct m.2) :
      Table.Distinct t

end

namespace Table

theorem Distinct.names {t : Table} (h : t.Distinct) : (t.map Prod.fst).Nodup := by
  cases h with
  | intro names _ => exact names

theorem Distinct.values {t : Table} (h : t.Distinct) : ∀ m ∈ t, m.2.Distinct := by
  cases h with
  | intro _ values => exact values

theorem distinct_nil : Distinct [] := .intro List.nodup_nil nofun

/-! ## Looking up -/

theorem mem_of_lookup {t : Table} {name : Text} {v : Value} (h : t.lookup name = some v) :
    (name, v) ∈ t := by
  obtain ⟨before, after, rfl, -⟩ := List.lookup_eq_some_iff.mp h
  exact List.mem_append_right _ List.mem_cons_self

theorem not_mem_names_of_lookup {t : Table} {name : Text} (h : t.lookup name = none) :
    name ∉ t.map Prod.fst := by
  rw [List.lookup_eq_none_iff] at h
  intro hmem
  obtain ⟨m, hm, rfl⟩ := List.mem_map.mp hmem
  simpa using h m hm

theorem Distinct.lookup {t : Table} (h : t.Distinct) {name : Text} {v : Value}
    (hv : t.lookup name = some v) : v.Distinct :=
  h.values _ (mem_of_lookup hv)

theorem Distinct.lookup_of_mem {t : Table} (h : t.Distinct) {m : Text × Value} (hm : m ∈ t) :
    t.lookup m.1 = some m.2 := by
  cases hlookup : t.lookup m.1 with
  | none => exact absurd (List.mem_map_of_mem hm) (not_mem_names_of_lookup hlookup)
  | some v =>
    have heq := List.inj_on_of_nodup_map h.names (mem_of_lookup hlookup) hm rfl
    rw [← heq]

/-! ## Changing one member -/

theorem Distinct.concat {t : Table} (h : t.Distinct) {name : Text} (hnew : t.lookup name = none)
    {v : Value} (hv : v.Distinct) : Distinct (t ++ [(name, v)]) := by
  refine .intro ?_ ?_
  · rw [List.map_append, List.nodup_append]
    refine ⟨h.names, List.nodup_singleton _, ?_⟩
    intro a ha b hb
    obtain rfl := List.mem_singleton.mp hb
    rintro rfl
    exact not_mem_names_of_lookup hnew ha
  · intro m hm
    rcases List.mem_append.mp hm with hm | hm
    · exact h.values m hm
    · obtain rfl := List.mem_singleton.mp hm
      exact hv

theorem map_fst_replace (name : Text) (v : Value) (t : Table) :
    (t.replace name v).map Prod.fst = t.map Prod.fst := by
  induction t with
  | nil => rfl
  | cons m t ih =>
    rw [replace]
    split
    · rename_i hname
      rw [List.map_cons, List.map_cons, hname]
    · rw [List.map_cons, List.map_cons, ih]

theorem mem_replace {name : Text} {v : Value} {t : Table} {m : Text × Value}
    (h : m ∈ t.replace name v) : m = (name, v) ∨ m ∈ t := by
  induction t with
  | nil => cases h
  | cons first t ih =>
    rw [replace] at h
    split at h
    · rcases List.mem_cons.mp h with rfl | h
      · exact .inl rfl
      · exact .inr (List.mem_cons_of_mem _ h)
    · rcases List.mem_cons.mp h with rfl | h
      · exact .inr List.mem_cons_self
      · exact (ih h).imp_right (List.mem_cons_of_mem _)

theorem Distinct.replace {t : Table} (h : t.Distinct) (name : Text) {v : Value}
    (hv : v.Distinct) : Distinct (t.replace name v) := by
  refine .intro ?_ ?_
  · rw [map_fst_replace]
    exact h.names
  · intro m hm
    rcases mem_replace hm with rfl | hm
    · exact hv
    · exact h.values m hm

theorem Distinct.remove {t : Table} (h : t.Distinct) (name : Text) : Distinct (t.remove name) := by
  refine .intro ?_ ?_
  · exact h.names.sublist (List.filter_sublist.map Prod.fst)
  · intro m hm
    exact h.values m (List.mem_of_mem_filter hm)

/-- The last table of an array of tables can be replaced. -/
theorem distinct_elements {elements : List Table} {last : Table} {before : List Table}
    (h : Value.Distinct (.tables elements)) (hrev : elements.reverse = last :: before) :
    last.Distinct ∧ ∀ members : Table, members.Distinct →
      Value.Distinct (.tables (members :: before).reverse) := by
  cases h with
  | tables each =>
    have hall : ∀ t ∈ last :: before, Distinct t := by
      intro t ht
      rw [← hrev, List.mem_reverse] at ht
      exact each t ht
    refine ⟨hall last List.mem_cons_self, ?_⟩
    intro members hmembers
    refine .tables ?_
    intro t ht
    rcases List.mem_cons.mp (List.mem_reverse.mp ht) with rfl | ht
    · exact hmembers
    · exact hall t (List.mem_cons_of_mem last ht)

/-! ## Definitions and headers -/

theorem define_distinct {t t' : Table} (h : t.Distinct) {name : Text} {v : Value}
    (hv : v.Distinct) (hdefine : t.define name v = some t') : t'.Distinct := by
  unfold define at hdefine
  split at hdefine
  · cases hdefine
  · rename_i hnew
    obtain rfl := Option.some.inj hdefine
    exact h.concat (Option.not_isSome_iff_eq_none.mp hnew) hv

/-- The cases are what stands under the first part of the key. -/
theorem assign_distinct {v : Value} (hv : v.Distinct) {path : List Text} {name : Text}
    {t t' : Table} (h : t.Distinct) (hassign : assign v path name t = some t') : t'.Distinct := by
  induction path generalizing t t' with
  | nil => exact define_distinct h hv hassign
  | cons parent path ih =>
    rw [assign] at hassign
    split at hassign
    · rename_i hnew
      obtain ⟨members, hmembers, hassign⟩ := Option.bind_eq_some_iff.mp hassign
      obtain rfl := Option.some.inj hassign
      exact h.concat hnew (.table (ih distinct_nil hmembers))
    · rename_i origin members hfound
      split at hassign
      · obtain ⟨changed, hchanged, hassign⟩ := Option.bind_eq_some_iff.mp hassign
        obtain rfl := Option.some.inj hassign
        cases h.lookup hfound with
        | table distinct => exact h.replace _ (.table (ih distinct hchanged))
      · cases hassign
    · rename_i elements hfound
      split at hassign
      · rename_i next path last before _ hrev
        obtain ⟨changed, hchanged, hassign⟩ := Option.bind_eq_some_iff.mp hassign
        obtain rfl := Option.some.inj hassign
        obtain ⟨hlast, hall⟩ := distinct_elements (h.lookup hfound) hrev
        exact h.replace _ (hall changed (ih hlast hchanged))
      · cases hassign
    · cases hassign

theorem define?_distinct {t t' : Table} (h : t.Distinct) {d : List Text × Value}
    (hd : d.2.Distinct) (hdefine : t.define? d = some t') : t'.Distinct := by
  obtain ⟨name, -, hassign⟩ := Option.bind_eq_some_iff.mp hdefine
  exact assign_distinct hd h hassign

theorem foldlM_define?_distinct {ds : List (List Text × Value)} (hds : ∀ d ∈ ds, d.2.Distinct)
    {t t' : Table} (h : t.Distinct) (hfold : ds.foldlM define? t = some t') : t'.Distinct := by
  induction ds generalizing t with
  | nil =>
    obtain rfl := Option.some.inj hfold
    exact h
  | cons d ds ih =>
    obtain ⟨next, hnext, hfold⟩ := Option.bind_eq_some_iff.mp hfold
    exact ih (fun e he => hds e (List.mem_cons_of_mem d he))
      (define?_distinct h (hds d List.mem_cons_self) hnext) hfold

/-- A change inside a table keeps names distinct if it does so where it is made. What it answers may
have a property of its own. -/
theorem within_distinct {α : Type} {change : Table → Option (Table × α)} {P : α → Prop}
    (hchange : ∀ {t t' : Table} {a : α}, t.Distinct → change t = some (t', a) → t'.Distinct ∧ P a)
    {path : List Text} {t t' : Table} {a : α} (h : t.Distinct)
    (hwithin : within change path t = some (t', a)) : t'.Distinct ∧ P a := by
  induction path generalizing t t' with
  | nil => exact hchange h hwithin
  | cons parent path ih =>
    rw [within] at hwithin
    split at hwithin
    · rename_i hnew
      obtain ⟨⟨members, b⟩, hmembers, hwithin⟩ := Option.bind_eq_some_iff.mp hwithin
      obtain ⟨rfl, rfl⟩ := Prod.mk.inj (Option.some.inj hwithin)
      obtain ⟨hdistinct, hb⟩ := ih distinct_nil hmembers
      exact ⟨h.concat hnew (.table hdistinct), hb⟩
    · cases hwithin
    · rename_i origin members _ hfound
      obtain ⟨⟨changed, b⟩, hchanged, hwithin⟩ := Option.bind_eq_some_iff.mp hwithin
      obtain ⟨rfl, rfl⟩ := Prod.mk.inj (Option.some.inj hwithin)
      cases h.lookup hfound with
      | table distinct =>
        obtain ⟨hdistinct, hb⟩ := ih distinct hchanged
        exact ⟨h.replace _ (.table hdistinct), hb⟩
    · rename_i elements hfound
      split at hwithin
      · rename_i last before hrev
        obtain ⟨⟨changed, b⟩, hchanged, hwithin⟩ := Option.bind_eq_some_iff.mp hwithin
        obtain ⟨rfl, rfl⟩ := Prod.mk.inj (Option.some.inj hwithin)
        obtain ⟨hlast, hall⟩ := distinct_elements (h.lookup hfound) hrev
        obtain ⟨hdistinct, hb⟩ := ih hlast hchanged
        exact ⟨h.replace _ (hall changed hdistinct), hb⟩
      · cases hwithin
    · cases hwithin

theorem detach_distinct {t rest members : Table} (h : t.Distinct) {name : Text}
    (hdetach : t.detach name = some (rest, members)) : rest.Distinct ∧ members.Distinct := by
  unfold detach at hdetach
  split at hdetach
  · obtain ⟨rfl, rfl⟩ := Prod.mk.inj (Option.some.inj hdetach)
    exact ⟨h, distinct_nil⟩
  · rename_i found hfound
    obtain ⟨rfl, rfl⟩ := Prod.mk.inj (Option.some.inj hdetach)
    cases h.lookup hfound with
    | table distinct => exact ⟨h.remove name, distinct⟩
  · cases hdetach

theorem push_distinct {t t' : Table} (h : t.Distinct) {name : Text} {members : Table}
    (hmembers : members.Distinct) (hpush : t.push name members = some (t', ())) : t'.Distinct := by
  unfold push at hpush
  split at hpush
  · rename_i hnew
    obtain ⟨rfl, -⟩ := Prod.mk.inj (Option.some.inj hpush)
    exact h.concat hnew (.tables (by simpa using hmembers))
  · rename_i elements hfound
    obtain ⟨rfl, -⟩ := Prod.mk.inj (Option.some.inj hpush)
    cases h.lookup hfound with
    | tables each =>
      refine h.replace _ (.tables ?_)
      intro u hu
      rcases List.mem_append.mp hu with hu | hu
      · exact each u hu
      · obtain rfl := List.mem_singleton.mp hu
        exact hmembers
  · cases hpush

end Table

/-! ## Values that are read -/

/-- Everything that a reader reads has distinct names. -/
def ReadsDistinct (read : Text → Option (Value × Text)) : Prop :=
  ∀ {t rest : Text} {v : Value}, read t = some (v, rest) → v.Distinct

theorem number?_distinct : ReadsDistinct number? := by
  intro t rest v h
  unfold number? at h
  split at h
  · obtain ⟨rfl, -⟩ := Prod.mk.inj (Option.some.inj h)
    exact .moment
  · split at h
    · obtain ⟨rfl, -⟩ := Prod.mk.inj (Option.some.inj h)
      exact .float _
    · obtain ⟨r, -, hr⟩ := Option.map_eq_some_iff.mp h
      obtain ⟨rfl, -⟩ := Prod.mk.inj hr
      exact .integer _

theorem scalar?_distinct : ReadsDistinct scalar? := by
  intro t rest v h
  unfold scalar? at h
  split at h
  · obtain ⟨rfl, -⟩ := Prod.mk.inj (Option.some.inj h)
    exact .string _
  · split at h
    · obtain ⟨rfl, -⟩ := Prod.mk.inj (Option.some.inj h)
      exact .boolean _
    · obtain ⟨rfl, -⟩ := Prod.mk.inj (Option.some.inj h)
      exact .boolean _
    · exact number?_distinct h

section
variable {value? : Text → Option (Value × Text)} (hvalue : ReadsDistinct value?)
include hvalue

theorem definition?_distinct {t rest : Text} {d : List Text × Value}
    (h : definition? value? t = some (d, rest)) : d.2.Distinct := by
  obtain ⟨⟨names, t⟩, -, h⟩ := Option.bind_eq_some_iff.mp h
  obtain ⟨t, -, h⟩ := Option.bind_eq_some_iff.mp h
  obtain ⟨⟨v, t⟩, hv, h⟩ := Option.bind_eq_some_iff.mp h
  obtain ⟨rfl, -⟩ := Prod.mk.inj (Option.some.inj h)
  exact hvalue hv

theorem items?_distinct {bound : Nat} {t rest : Text} {vs : List Value}
    (h : items? value? bound t = some (vs, rest)) : ∀ v ∈ vs, v.Distinct := by
  induction bound generalizing t vs rest with
  | zero => cases h
  | succ bound ih =>
    rw [items?] at h
    split at h
    · obtain ⟨rfl, -⟩ := Prod.mk.inj (Option.some.inj h)
      exact nofun
    · obtain ⟨⟨v, t⟩, hv, h⟩ := Option.bind_eq_some_iff.mp h
      have hfirst : v.Distinct := hvalue hv
      dsimp only at h
      split at h
      · obtain ⟨⟨more, t⟩, hmore, h⟩ := Option.bind_eq_some_iff.mp h
        obtain ⟨rfl, -⟩ := Prod.mk.inj (Option.some.inj h)
        exact List.forall_mem_cons.mpr ⟨hfirst, ih hmore⟩
      · obtain ⟨rfl, -⟩ := Prod.mk.inj (Option.some.inj h)
        exact List.forall_mem_singleton.mpr hfirst
      · cases h

theorem definitions?_distinct {bound : Nat} {t rest : Text} {ds : List (List Text × Value)}
    (h : definitions? value? bound t = some (ds, rest)) : ∀ d ∈ ds, d.2.Distinct := by
  induction bound generalizing t ds rest with
  | zero => cases h
  | succ bound ih =>
    obtain ⟨⟨d, t⟩, hd, h⟩ := Option.bind_eq_some_iff.mp h
    have hfirst : d.2.Distinct := definition?_distinct hvalue hd
    dsimp only at h
    split at h
    · obtain ⟨⟨more, t⟩, hmore, h⟩ := Option.bind_eq_some_iff.mp h
      obtain ⟨rfl, -⟩ := Prod.mk.inj (Option.some.inj h)
      exact List.forall_mem_cons.mpr ⟨hfirst, ih hmore⟩
    · obtain ⟨rfl, -⟩ := Prod.mk.inj (Option.some.inj h)
      exact List.forall_mem_singleton.mpr hfirst
    · cases h

theorem inlineTable?_distinct : ReadsDistinct (inlineTable? value?) := by
  intro t rest v h
  unfold inlineTable? at h
  split at h
  · obtain ⟨rfl, -⟩ := Prod.mk.inj (Option.some.inj h)
    exact .table Table.distinct_nil
  · obtain ⟨⟨ds, t⟩, hds, h⟩ := Option.bind_eq_some_iff.mp h
    obtain ⟨members, hmembers, h⟩ := Option.bind_eq_some_iff.mp h
    obtain ⟨rfl, -⟩ := Prod.mk.inj (Option.some.inj h)
    exact .table (Table.foldlM_define?_distinct (definitions?_distinct hvalue hds)
      Table.distinct_nil hmembers)

end

theorem value?_distinct (depth : Nat) : ReadsDistinct (value? depth) := by
  induction depth with
  | zero => exact scalar?_distinct
  | succ depth ih =>
    intro t rest v h
    unfold value? at h
    split at h
    · obtain ⟨⟨vs, t⟩, hvs, h⟩ := Option.bind_eq_some_iff.mp h
      obtain ⟨rfl, -⟩ := Prod.mk.inj (Option.some.inj h)
      exact .array (items?_distinct ih hvs)
    · exact inlineTable?_distinct ih h
    · exact scalar?_distinct h

/-! ## Documents -/

/-- A definition of a value with distinct names; any header. -/
def Statement.Distinct : Statement → Prop
  | .define _ v => v.Distinct
  | _ => True

theorem statement?_distinct {t rest : Text} {s : Statement} (h : statement? t = some (s, rest)) :
    s.Distinct := by
  unfold statement? at h
  split at h
  · obtain ⟨⟨names, t⟩, -, h⟩ := Option.bind_eq_some_iff.mp h
    obtain ⟨t, -, h⟩ := Option.bind_eq_some_iff.mp h
    obtain ⟨t, -, h⟩ := Option.bind_eq_some_iff.mp h
    obtain ⟨rfl, -⟩ := Prod.mk.inj (Option.some.inj h)
    trivial
  · obtain ⟨⟨names, t⟩, -, h⟩ := Option.bind_eq_some_iff.mp h
    obtain ⟨t, -, h⟩ := Option.bind_eq_some_iff.mp h
    obtain ⟨t, -, h⟩ := Option.bind_eq_some_iff.mp h
    obtain ⟨rfl, -⟩ := Prod.mk.inj (Option.some.inj h)
    trivial
  · obtain ⟨⟨⟨names, v⟩, t⟩, hd, h⟩ := Option.bind_eq_some_iff.mp h
    obtain ⟨t, -, h⟩ := Option.bind_eq_some_iff.mp h
    obtain ⟨rfl, -⟩ := Prod.mk.inj (Option.some.inj h)
    exact definition?_distinct (value?_distinct depthLimit) hd

theorem statements?_distinct {bound : Nat} {t : Text} {ss : List Statement}
    (h : statements? bound t = some ss) : ∀ s ∈ ss, s.Distinct := by
  induction bound generalizing t ss with
  | zero =>
    cases t with
    | nil =>
      obtain rfl := Option.some.inj h
      exact nofun
    | cons c t => cases h
  | succ bound ih =>
    cases t with
    | nil =>
      obtain rfl := Option.some.inj h
      exact nofun
    | cons c t =>
      rw [statements?] at h
      split at h
      · exact ih h
      · obtain ⟨⟨s, t⟩, hs, h⟩ := Option.bind_eq_some_iff.mp h
        obtain ⟨more, hmore, h⟩ := Option.bind_eq_some_iff.mp h
        obtain rfl := Option.some.inj h
        exact List.forall_mem_cons.mpr ⟨statement?_distinct hs, ih hmore⟩
      · simp

namespace Draft

/-- The tables of a draft have distinct names. -/
structure Distinct (d : Draft) : Prop where
  finished : d.finished.Distinct
  members : d.members.Distinct

theorem empty_distinct : empty.Distinct := ⟨Table.distinct_nil, Table.distinct_nil⟩

theorem Distinct.finish {d : Draft} (h : d.Distinct) {t : Table} (ht : d.finish = some t) :
    t.Distinct := by
  unfold Draft.finish at ht
  split at ht
  · obtain rfl := Option.some.inj ht
    exact h.members
  · rename_i name _
    obtain ⟨⟨t, a⟩, hwithin, rfl⟩ := Option.map_eq_some_iff.mp ht
    refine (Table.within_distinct (P := fun _ => True) ?_ h.finished hwithin).1
    intro t t' _ hdistinct hplace
    refine ⟨?_, trivial⟩
    split at hplace
    · exact Table.push_distinct hdistinct h.members hplace
    · obtain ⟨t, hdefine, hplace⟩ := Option.map_eq_some_iff.mp hplace
      obtain ⟨rfl, -⟩ := Prod.mk.inj hplace
      exact Table.define_distinct hdistinct (.table h.members) hdefine

theorem Distinct.carryOut {d d' : Draft} (h : d.Distinct) {s : Statement} (hs : s.Distinct)
    (hcarry : d.carryOut s = some d') : d'.Distinct := by
  cases s with
  | define names v =>
    obtain ⟨members, hmembers, hcarry⟩ := Option.bind_eq_some_iff.mp hcarry
    obtain rfl := Option.some.inj hcarry
    exact ⟨h.finished, Table.define?_distinct (d := (names, v)) h.members hs hmembers⟩
  | element names =>
    obtain ⟨finished, hfinished, hcarry⟩ := Option.bind_eq_some_iff.mp hcarry
    obtain rfl := Option.some.inj hcarry
    exact ⟨h.finish hfinished, Table.distinct_nil⟩
  | table names =>
    obtain ⟨name, -, hcarry⟩ := Option.bind_eq_some_iff.mp hcarry
    obtain ⟨finished, hfinished, hcarry⟩ := Option.bind_eq_some_iff.mp hcarry
    obtain ⟨⟨rest, members⟩, hwithin, hcarry⟩ := Option.bind_eq_some_iff.mp hcarry
    obtain rfl := Option.some.inj hcarry
    obtain ⟨hrest, hmembers⟩ := Table.within_distinct (P := Table.Distinct)
      (fun hdistinct hdetach => Table.detach_distinct hdistinct hdetach) (h.finish hfinished) hwithin
    exact ⟨hrest, hmembers⟩

/-- The run lemma of `Distinct.carryOut`. -/
theorem Distinct.foldlM_carryOut {ss : List Statement} (hss : ∀ s ∈ ss, s.Distinct)
    {d d' : Draft} (h : d.Distinct) (hfold : ss.foldlM Draft.carryOut d = some d') : d'.Distinct := by
  induction ss generalizing d with
  | nil =>
    obtain rfl := Option.some.inj hfold
    exact h
  | cons s ss ih =>
    obtain ⟨next, hnext, hfold⟩ := Option.bind_eq_some_iff.mp hfold
    exact ih (fun r hr => hss r (List.mem_cons_of_mem s hr))
      (h.carryOut (hss s List.mem_cons_self) hnext) hfold

end Draft

theorem read?_distinct {t : Text} {table : Table} (h : read? t = some table) :
    table.Distinct := by
  obtain ⟨ss, hss, hbuild⟩ := Option.bind_eq_some_iff.mp h
  obtain ⟨d, hd, hfinish⟩ := Option.bind_eq_some_iff.mp hbuild
  exact (Draft.empty_distinct.foldlM_carryOut (statements?_distinct hss) hd).finish hfinish

end MismatchLog.Toml
