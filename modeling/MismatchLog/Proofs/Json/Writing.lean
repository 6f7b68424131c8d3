import MismatchLog.Proofs.Json.Grammar
import MismatchLog.Proofs.Text.Decimal
import Mathlib.Tactic.SplitIfs

/-!
# Written JSON follows the grammar

`written_write`: whatever is written, at any depth and in any layout whose breaks are white space,
is a written form of the value it was made from.
-/

namespace MismatchLog.Json

open Text

theorem sizeOf_lt_of_mem {members : List (Text × Json)} {m : Text × Json} (h : m ∈ members) :
    sizeOf m.2 < sizeOf members := by
  have hlt := List.sizeOf_lt_of_mem h
  obtain ⟨name, v⟩ := m
  rw [Prod.mk.sizeOf_spec] at hlt
  change sizeOf v < sizeOf members
  omega

/-- What goes from items and members to the array and the object holds of all. -/
@[elab_as_elim]
theorem induct {motive : Json → Prop} (number : ∀ n, motive (.number n))
    (string : ∀ t, motive (.string t))
    (array : ∀ items, (∀ v ∈ items, motive v) → motive (.array items))
    (object : ∀ members, (∀ m ∈ members, motive m.2) → motive (.object members)) :
    ∀ v, motive v
  | .number n => number n
  | .string t => string t
  | .array items => array items fun v _ => induct number string array object v
  | .object members => object members fun m hm =>
    have _ := sizeOf_lt_of_mem hm
    induct number string array object m.2
termination_by v => sizeOf v

/-- The value that a written form stands for. -/
def value : Json → Value
  | .number n => .number (decimal n)
  | .string t => .string t
  | .array items => .array (items.map value)
  | .object members => .object (members.map fun m => (m.1, value m.2))
termination_by v => sizeOf v
decreasing_by
  · rename_i hv
    have hlt := List.sizeOf_lt_of_mem hv
    rw [Json.array.sizeOf_spec]
    omega
  · rename_i hm
    have hlt := sizeOf_lt_of_mem hm
    rw [Json.object.sizeOf_spec]
    omega

/-- The white space of a layout. -/
structure Spacing (l : Layout) where
  lineBreak : Nat → Spaces
  lineBreak_eq : ∀ depth, l.lineBreak depth = (lineBreak depth).text
  colon : Spaces
  colon_eq : l.colon = ':' :: colon.text

def indented : Spacing .indented where
  lineBreak depth := ⟨Layout.indented.lineBreak depth, by
    rw [Layout.indented, List.all_cons, List.all_replicate]
    split <;> rfl⟩
  lineBreak_eq _ := rfl
  colon := ⟨[' '], rfl⟩
  colon_eq := rfl

def compact : Spacing .compact where
  lineBreak _ := .none
  lineBreak_eq _ := rfl
  colon := .none
  colon_eq := rfl

/-! ## Numbers and strings -/

theorem isNumber_decimal (n : Nat) : IsNumber (decimal n) := by
  have hwhole : IsWhole (decimal n) := by
    cases hn : decimal n with
    | nil => exact absurd hn (decimal_ne_nil n)
    | cons c t =>
      by_cases hc : c = '0'
      · subst hc
        rw [decimal_eq_zero_cons hn]
        exact .zero
      · refine .digits hc ⟨List.cons_ne_nil c t, ?_⟩
        rw [← hn]
        exact fun _ => isDigit_of_mem_decimal
  have h := IsNumber.parts (List.mem_cons_self (a := [])) hwhole .absent .absent
  simpa using h

/-- A control character by its number. -/
theorem spelledChar_control {c : Char} (hc : c.toNat < 0x20) :
    SpelledChar c
      ['\\', 'u', '0', '0', Nat.digitChar (c.toNat / 16), Nat.digitChar (c.toNat % 16)] := by
  have hunits : ∀ n < 0x20, ['0', '0', Nat.digitChar (n / 16), Nat.digitChar (n % 16)].all
      isHexDigit = true ∧ unitValue ['0', '0', Nat.digitChar (n / 16), Nat.digitChar (n % 16)] = n ∧
      n.isValidChar := by decide
  obtain ⟨hhex, hvalue, hvalid⟩ := hunits c.toNat hc
  refine .unit ⟨rfl, List.all_eq_true.mp hhex⟩ ?_
  rw [hvalue, character?, if_pos hvalid, Char.ofNat_toNat]

theorem spelledChar_escape (c : Char) : SpelledChar c (escape c) := by
  unfold escape
  split_ifs with hquote hback hb hf hn hr ht hcontrol
  · subst hquote
    exact .escape rfl
  · subst hback
    exact .escape rfl
  · subst hb
    exact .escape rfl
  · subst hf
    exact .escape rfl
  · subst hn
    exact .escape rfl
  · subst hr
    exact .escape rfl
  · subst ht
    exact .escape rfl
  · exact spelledChar_control hcontrol
  · exact .plain hquote hback (Nat.le_of_not_lt hcontrol)

theorem spelledText_flatMap (t : Text) : SpelledText t (t.flatMap escape) := by
  induction t with
  | nil => exact .nil
  | cons c t ih =>
    rw [List.flatMap_cons]
    exact .cons (spelledChar_escape c) ih

/-! ## Items and members -/

section
variable {α β : Type} (make : α → Spaces → β) (close : Spaces)

/-- The parts of a list, the last of them with the white space before the closing sign. -/
def spread : α → List α → List β
  | a, [] => [make a close]
  | a, b :: rest => make a .none :: spread b rest

theorem spread_ne_nil (a : α) (rest : List α) : spread make close a rest ≠ [] := by
  cases rest <;> exact List.cons_ne_nil _ _

theorem mem_spread {a : α} {rest : List α} {p : β} (hp : p ∈ spread make close a rest) :
    ∃ b ∈ a :: rest, ∃ w, p = make b w := by
  induction rest generalizing a with
  | nil => exact ⟨a, List.mem_cons_self, close, List.mem_singleton.mp hp⟩
  | cons b rest ih =>
    rcases List.mem_cons.mp hp with rfl | hp
    · exact ⟨a, List.mem_cons_self, .none, rfl⟩
    · obtain ⟨c, hc, hpc⟩ := ih hp
      exact ⟨c, List.mem_cons_of_mem a hc, hpc⟩

theorem map_spread {γ : Type} {f : β → γ} {g : α → γ} (h : ∀ a w, f (make a w) = g a) (a : α)
    (rest : List α) : (spread make close a rest).map f = (a :: rest).map g := by
  induction rest generalizing a with
  | nil => rw [spread, List.map_singleton, List.map_singleton, h]
  | cons b rest ih => rw [spread, List.map_cons, List.map_cons, h, ih]

theorem commas_spread {text : β → Text} {body : α → Text}
    (h : ∀ a w, text (make a w) = body a ++ w.text) (a : α) (rest : List α) :
    commas ((spread make close a rest).map text) =
      body a ++ rest.flatMap (fun b => ',' :: body b) ++ close.text := by
  induction rest generalizing a with
  | nil => rw [spread, List.map_singleton, commas_singleton, h, List.flatMap_nil, List.append_nil]
  | cons b rest ih =>
    have hparts : ∃ p ps, (spread make close b rest).map text = p :: ps :=
      List.exists_cons_of_ne_nil (by simpa using spread_ne_nil make close b rest)
    obtain ⟨p, ps, hps⟩ := hparts
    have hrest := ih b
    rw [hps] at hrest
    rw [spread, List.map_cons, hps, commas_cons_cons, hrest, h, List.flatMap_cons]
    simp [Spaces.none]

end

section
variable {l : Layout} (s : Spacing l) (depth : Nat)

theorem writeItems_eq (vs : List Json) :
    writeItems l depth vs = vs.flatMap fun v => ',' :: (l.lineBreak depth ++ write l depth v) := by
  induction vs with
  | nil => rw [writeItems, List.flatMap_nil]
  | cons v vs ih =>
    rw [writeItems, List.flatMap_cons, ih]
    rfl

theorem writeMembers_eq (ms : List (Text × Json)) :
    writeMembers l depth ms =
      ms.flatMap fun m => ',' :: (l.lineBreak depth ++ writeMember l depth m) := by
  induction ms with
  | nil => rw [writeMembers, List.flatMap_nil]
  | cons m ms ih =>
    rw [writeMembers, List.flatMap_cons, ih]
    rfl

/-- An item as it is written, one level further in. -/
def item (v : Json) (after : Spaces) : Item :=
  ⟨s.lineBreak (depth + 1), value v, write l (depth + 1) v, after⟩

def member (m : Text × Json) (after : Spaces) : Member :=
  ⟨s.lineBreak (depth + 1), m.1, m.1.flatMap escape, .none,
    ⟨s.colon, value m.2, write l (depth + 1) m.2, after⟩, spelledText_flatMap m.1⟩

theorem write_array (v : Json) (vs : List Json) :
    write l depth (.array (v :: vs)) =
      '[' :: commas ((spread (item s depth) (s.lineBreak depth) v vs).map Item.written) ++
        [']'] := by
  have hbody (v : Json) (w : Spaces) : (item s depth v w).written =
      l.lineBreak (depth + 1) ++ write l (depth + 1) v ++ w.text := by
    rw [Item.written, item, s.lineBreak_eq]
  rw [write, writeItems_eq, commas_spread _ _ hbody, s.lineBreak_eq depth]
  simp only [List.append_assoc, List.cons_append]

theorem write_object (m : Text × Json) (ms : List (Text × Json)) :
    write l depth (.object (m :: ms)) =
      '{' :: commas ((spread (member s depth) (s.lineBreak depth) m ms).map Member.written) ++
        ['}'] := by
  have hbody (m : Text × Json) (w : Spaces) : (member s depth m w).written =
      l.lineBreak (depth + 1) ++ writeMember l (depth + 1) m ++ w.text := by
    obtain ⟨name, v⟩ := m
    simp [Member.written, Item.written, member, writeMember, quoted, s.lineBreak_eq, s.colon_eq,
      Spaces.none]
  rw [write, writeMembers_eq, commas_spread _ _ hbody, s.lineBreak_eq depth]
  simp only [List.append_assoc, List.cons_append]

end

/-- What is written follows the grammar. -/
theorem written_write {l : Layout} (s : Spacing l) (v : Json) (depth : Nat) :
    Written (value v) (write l depth v) := by
  induction v using induct generalizing depth with
  | number n =>
    rw [value, write]
    exact .number (isNumber_decimal n)
  | string t =>
    rw [value, write]
    exact .string (spelledText_flatMap t)
  | array items ih =>
    rw [value]
    cases items with
    | nil =>
      rw [write]
      exact .emptyArray .none
    | cons v vs =>
      have hvalues : (spread (item s depth) (s.lineBreak depth) v vs).map Item.value =
          (v :: vs).map value :=
        map_spread (item s depth) (s.lineBreak depth) (fun _ _ => rfl) v vs
      rw [write_array s, ← hvalues]
      refine .array (spread_ne_nil _ _ v vs) ?_
      intro i hi
      obtain ⟨u, hu, w, rfl⟩ := mem_spread _ _ hi
      exact ih u hu (depth + 1)
  | object members ih =>
    rw [value]
    cases members with
    | nil =>
      rw [write]
      exact .emptyObject .none
    | cons m ms =>
      have hvalues : (spread (member s depth) (s.lineBreak depth) m ms).map Member.value =
          (m :: ms).map fun m => (m.1, value m.2) :=
        map_spread (member s depth) (s.lineBreak depth) (fun _ _ => rfl) m ms
      rw [write_object s, ← hvalues]
      refine .object (spread_ne_nil _ _ m ms) ?_
      intro p hp
      obtain ⟨n, hn, w, rfl⟩ := mem_spread _ _ hp
      exact ih n hn (depth + 1)

theorem isDocument_write {l : Layout} (s : Spacing l) (v : Json) (depth : Nat) :
    IsDocument (value v) (write l depth v) := by
  have h := IsDocument.item ⟨.none, value v, write l depth v, .none⟩ (written_write s v depth)
  simpa [Item.written, Spaces.none] using h

end MismatchLog.Json
