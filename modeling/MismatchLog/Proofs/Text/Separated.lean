import MismatchLog.Text

/-!
# Items between commas

Records and arrays alike are items with a comma between any two and a closing sign at the end.
`itemsUntil?_commas` says that they are read back with a reader of one item that stops where a comma
or the closing sign follows.
-/

namespace MismatchLog.Text

/-- Texts with a comma between any two of them. -/
def commas (parts : List Text) : Text := [','].intercalate parts

/-- Cutting a text keeps to its characters. -/
theorem mem_of_mem_cut {sep c : Char} {t part : Text} (hpart : part ∈ cut sep t) (hc : c ∈ part) :
    c ∈ t := by
  induction t generalizing part with
  | nil =>
    obtain rfl := List.mem_singleton.mp hpart
    cases hc
  | cons d t ih =>
    rw [cut] at hpart
    split at hpart
    · rcases List.mem_cons.mp hpart with rfl | hpart
      · cases hc
      · exact List.mem_cons_of_mem d (ih hpart hc)
    · split at hpart
      · obtain rfl := List.mem_singleton.mp hpart
        exact List.mem_cons.mpr (.inl (List.mem_singleton.mp hc))
      · rename_i first parts hcut
        rcases List.mem_cons.mp hpart with rfl | hpart
        · rcases List.mem_cons.mp hc with rfl | hc
          · exact List.mem_cons_self
          · exact List.mem_cons_of_mem d (ih (by simp [hcut]) hc)
        · exact List.mem_cons_of_mem d (ih (by simp [hcut, hpart]) hc)

theorem commas_singleton (part : Text) : commas [part] = part := List.intercalate_singleton

theorem commas_cons_cons (part next : Text) (parts : List Text) :
    commas (part :: next :: parts) = part ++ ',' :: commas (next :: parts) := by
  rw [commas, List.intercalate_cons_cons, List.append_assoc]
  rfl

theorem exists_commas_cons (part : Text) (parts : List Text) :
    ∃ t, commas (part :: parts) = part ++ t := by
  cases parts with
  | nil => exact ⟨[], by rw [commas_singleton, List.append_nil]⟩
  | cons next parts => exact ⟨_, commas_cons_cons part next parts⟩

theorem length_le_length_commas {part : Text} {parts : List Text} (h : part ∈ parts) :
    part.length ≤ (commas parts).length := by
  induction parts with
  | nil => cases h
  | cons first parts ih =>
    cases parts with
    | nil =>
      obtain rfl := List.mem_singleton.mp h
      exact Nat.le_of_eq (congrArg List.length (commas_singleton part).symm)
    | cons next parts =>
      rw [commas_cons_cons, List.length_append, List.length_cons]
      rcases List.mem_cons.mp h with rfl | hrest
      · exact Nat.le_add_right _ _
      · have := ih hrest
        omega

theorem length_le_commas (parts : List Text) : parts.length ≤ (commas parts).length + 1 := by
  induction parts with
  | nil => exact Nat.zero_le _
  | cons part parts ih =>
    cases parts with
    | nil => exact Nat.le_add_left 1 _
    | cons next parts =>
      simp only [commas_cons_cons, List.length_cons, List.length_append] at ih ⊢
      omega

/-- Reads items, at most so many, up to a closing sign. -/
def itemsUntil? {α : Type} (close : Char) (item? : Text → Option (α × Text)) :
    Nat → Text → Option (List α × Text)
  | 0, _ => none
  | n + 1, t =>
    match item? t with
    | some (a, c :: rest) =>
      if c = ',' then (itemsUntil? close item? n rest).map fun r => (a :: r.1, r.2)
      else if c = close then some ([a], rest)
      else none
    | _ => none

variable {α β : Type} {close : Char} {item? : Text → Option (α × Text)} {value : β → α}
  {text : β → Text}

/-- What is written item by item is read item by item. -/
theorem itemsUntil?_commas (hclose : close ≠ ',') {parts : List β} (hne : parts ≠ [])
    (hitem : ∀ p ∈ parts, ∀ c rest, c = ',' ∨ c = close →
      item? (text p ++ c :: rest) = some (value p, c :: rest))
    {n : Nat} (hn : parts.length ≤ n) (rest : Text) :
    itemsUntil? close item? n (commas (parts.map text) ++ close :: rest) =
      some (parts.map value, rest) := by
  induction parts generalizing n with
  | nil => exact absurd rfl hne
  | cons p parts ih =>
    cases n with
    | zero => cases hn
    | succ n =>
      have hfirst := hitem p List.mem_cons_self
      cases parts with
      | nil =>
        rw [List.map_singleton, commas_singleton, itemsUntil?, hfirst close rest (.inr rfl)]
        simp [hclose]
      | cons q parts =>
        have hrest := ih (List.cons_ne_nil q parts)
          (fun r hr => hitem r (List.mem_cons_of_mem p hr)) (Nat.le_of_succ_le_succ hn)
        rw [List.map_cons] at hrest
        rw [List.map_cons, List.map_cons, commas_cons_cons, List.append_assoc, List.cons_append,
          itemsUntil?, hfirst ',' _ (.inl rfl)]
        simp only [hrest, if_pos, Option.map_some, List.map_cons]

end MismatchLog.Text
