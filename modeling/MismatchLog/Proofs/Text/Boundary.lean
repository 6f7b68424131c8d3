import MismatchLog.Text.Blank

/-!
# Cuts between characters

A place in a text is counted in bytes, and a cut there gives something only if it goes between two
characters:

* `Boundary`: a place between two characters, or at an end;
* `Boundary.dropBytes?`, `slice?_of_boundary`: cuts at such places give something;
* `Aligned`: the places between the characters of a text without its blanks are such places in the
  text itself. So it is when no blank stands in front, and when all characters take one byte.
-/

namespace MismatchLog.Text

/-- The bytes that a text takes. -/
def size : Text → Nat
  | [] => 0
  | c :: t => c.utf8Size + size t

theorem size_append (t u : Text) : size (t ++ u) = size t + size u := by
  induction t with
  | nil => exact (Nat.zero_add _).symm
  | cons c t ih => rw [List.cons_append, size, size, ih, Nat.add_assoc]

theorem dropBytes?_size (t u : Text) : dropBytes? (size t) (t ++ u) = some u := by
  induction t with
  | nil => rw [dropBytes?.eq_def]; rfl
  | cons c t ih =>
    obtain ⟨n, hn⟩ := Nat.exists_eq_add_one.mpr c.utf8Size_pos
    have hsize : size (c :: t) = n + size t + 1 := by rw [size]; omega
    have hrest : n + size t + 1 - c.utf8Size = size t := by omega
    rw [hsize, List.cons_append, dropBytes?, if_pos (by omega), hrest, ih]

theorem takeBytes?_size (t u : Text) : takeBytes? (size t) (t ++ u) = some t := by
  induction t with
  | nil => rw [takeBytes?.eq_def]; rfl
  | cons c t ih =>
    obtain ⟨n, hn⟩ := Nat.exists_eq_add_one.mpr c.utf8Size_pos
    have hsize : size (c :: t) = n + size t + 1 := by rw [size]; omega
    have hrest : n + size t + 1 - c.utf8Size = size t := by omega
    rw [hsize, List.cons_append, takeBytes?, if_pos (by omega), hrest, ih]
    rfl

/-- A place between two characters, or at an end. -/
def Boundary (t : Text) (i : Nat) : Prop := ∃ before after, before ++ after = t ∧ size before = i

theorem boundary_zero (t : Text) : Boundary t 0 := ⟨[], t, rfl, rfl⟩

theorem Boundary.dropBytes? {t : Text} {i : Nat} (h : Boundary t i) :
    ∃ u, Text.dropBytes? i t = some u := by
  obtain ⟨before, after, rfl, rfl⟩ := h
  exact ⟨after, dropBytes?_size before after⟩

/-- Of two beginnings of a text the one that takes fewer bytes is a beginning of the other. -/
theorem exists_between {a b u v : Text} (h : a ++ u = b ++ v) (hle : size a ≤ size b) :
    ∃ w, b = a ++ w := by
  rcases List.append_eq_append_iff.mp h with ⟨w, hb, -⟩ | ⟨w, ha, -⟩
  · exact ⟨w, hb⟩
  · cases w with
    | nil => exact ⟨[], by simpa using ha.symm⟩
    | cons c w =>
      have hc := c.utf8Size_pos
      rw [ha, size_append, size] at hle
      omega

theorem slice?_of_boundary {t : Text} {i j : Nat} (hi : Boundary t i) (hj : Boundary t j)
    (hle : i ≤ j) : ∃ u, slice? i j t = some u := by
  obtain ⟨a, u, rfl, rfl⟩ := hi
  obtain ⟨b, v, heq, rfl⟩ := hj
  obtain ⟨w, rfl⟩ := exists_between heq.symm hle
  have hu : w ++ v = u := by simpa using heq
  have hsize : size (a ++ w) - size a = size w := by rw [size_append]; omega
  refine ⟨w, ?_⟩
  rw [slice?, dropBytes?_size, hsize, ← hu]
  exact takeBytes?_size w v

/-! ## Places in a text without its blanks -/

/-- What is a place between characters once the blanks are gone is one in the text with them. -/
def Aligned (t : Text) : Prop := ∀ i, Boundary (trim t) i → Boundary t i

theorem aligned_of_no_blank_in_front {t : Text} (h : ∀ c ∈ t.head?, isBlank c = false) :
    Aligned t := by
  have hskip : skipBlanks t = t := by
    cases t with
    | nil => rfl
    | cons c t => exact List.dropWhile_cons_of_neg (by simp [h c rfl])
  have hprefix : trim t <+: t := by
    have hsuffix := List.dropWhile_suffix isBlank (l := t.reverse)
    rw [trim, hskip]
    exact List.reverse_suffix.mp (by simpa [skipBlanks] using hsuffix)
  obtain ⟨rest, hrest⟩ := hprefix
  rintro i ⟨before, after, heq, hsize⟩
  refine ⟨before, after ++ rest, ?_, hsize⟩
  rw [← List.append_assoc, heq, hrest]

theorem size_eq_length {t : Text} (h : ∀ c ∈ t, c.utf8Size = 1) : size t = t.length := by
  induction t with
  | nil => rfl
  | cons c t ih =>
    have hfirst := h c List.mem_cons_self
    have hrest := ih fun d hd => h d (List.mem_cons_of_mem c hd)
    rw [size, hfirst, hrest, List.length_cons, Nat.add_comm]

theorem trim_sublist (t : Text) : (trim t).Sublist t := by
  have hback := List.dropWhile_sublist isBlank (l := (skipBlanks t).reverse)
  have hfront := List.dropWhile_sublist isBlank (l := t)
  have htrim : (trim t).Sublist (skipBlanks t) := by
    rw [trim]
    exact List.reverse_sublist.mp (by simpa [skipBlanks] using hback)
  exact htrim.trans hfront

theorem aligned_of_one_byte_each {t : Text} (h : ∀ c ∈ t, c.utf8Size = 1) : Aligned t := by
  rintro i ⟨before, after, heq, rfl⟩
  have hbefore : before.Sublist t := by
    have hprefix : before <+: trim t := ⟨after, heq⟩
    exact hprefix.sublist.trans (trim_sublist t)
  refine ⟨t.take before.length, t.drop before.length, List.take_append_drop _ t, ?_⟩
  rw [size_eq_length fun c hc => h c (hbefore.subset hc),
    size_eq_length fun c hc => h c (List.mem_of_mem_take hc), List.length_take]
  exact Nat.min_eq_left hbefore.length_le

end MismatchLog.Text
