import MismatchLog.Event.Filter
import MismatchLog.Proofs.Text.Boundary

/-!
# Filters that tear a character

A text is no filter only if one of its directives would be cut inside a character:

* `step_sound`: reading a directive keeps its place sound: its part starts between two characters,
  not behind the character that is read next;
* `readFrom_ne_torn`, `ofText_ne_torn`: so an aligned directive is not torn;
* `ofText_ne_torn_of_plain`: nor is one without a blank in front, or with characters of one byte;
* `ofText?_eq_none_iff`: a text is no filter exactly if it has a torn directive.
-/

namespace MismatchLog.Event

open Text (Boundary size)

namespace Directive

/-- Where the part that is being read starts. -/
def Place.start? : Place → Option Nat
  | .name => some 0
  | .span i => some i
  | .field i => some i
  | .level i => some i
  | .start | .fieldEnd | .spanEnd => none

/-- The part that is being read can be cut out of the text up to the next character. -/
def Draft.Sound (t : Text) (d : Draft) (i : Nat) : Prop :=
  ∀ start ∈ d.place.start?, Boundary t start ∧ start ≤ i

theorem Draft.sound_empty (t : Text) (i : Nat) : Draft.empty.Sound t i := nofun

theorem Draft.Sound.later {t : Text} {d : Draft} {i j : Nat} (h : d.Sound t i) (hij : i ≤ j) :
    d.Sound t j := by
  intro start hstart
  obtain ⟨hboundary, hle⟩ := h start hstart
  exact ⟨hboundary, Nat.le_trans hle hij⟩

/-- A part that starts behind a sign of one byte. -/
theorem Draft.sound_behind {t : Text} {d : Draft} {i : Nat} {c : Char}
    (hplace : d.place.start? = some (i + 1)) (hc : c.utf8Size = 1)
    (hnext : Boundary t (i + c.utf8Size)) : d.Sound t (i + c.utf8Size) := by
  intro start hstart
  obtain rfl : i + 1 = start := by simpa [hplace] using hstart
  rw [hc] at hnext ⊢
  exact ⟨hnext, Nat.le_refl _⟩

theorem cut_of_sound {t : Text} {d : Draft} {i start : Nat} (hd : d.Sound t i) (hi : Boundary t i)
    (hstart : d.place.start? = some start) :
    ∃ part, orFault .torn (Text.slice? start i t) = .ok part := by
  obtain ⟨hboundary, hle⟩ := hd start hstart
  obtain ⟨part, hpart⟩ := Text.slice?_of_boundary hboundary hi hle
  exact ⟨part, by rw [hpart]; rfl⟩

/-- A step goes on with a sound draft, or stops without a torn character. -/
def Kept (t : Text) (i : Nat) : Except Fault Draft → Prop
  | .ok d => d.Sound t i
  | .error fault => fault ≠ .torn

theorem step_sound {t : Text} {d : Draft} {i : Nat} {c : Char} (hd : d.Sound t i)
    (hi : Boundary t i) (hnext : Boundary t (i + c.utf8Size)) :
    Kept t (i + c.utf8Size) (step t d i c) := by
  have hstay : d.Sound t (i + c.utf8Size) := hd.later (Nat.le_add_right _ _)
  obtain ⟨place, target, span, field⟩ := d
  cases place with
  | start =>
    simp only [step]
    split
    · rename_i hc
      exact Draft.sound_behind rfl (by rw [hc]; rfl) hnext
    · split
      · intro start hstart
        obtain rfl : 0 = start := by simpa [Place.start?] using hstart
        exact ⟨Text.boundary_zero t, Nat.zero_le _⟩
      · exact nofun
  | name =>
    obtain ⟨part, hpart⟩ := cut_of_sound hd hi rfl
    simp only [step, hpart]
    split
    · rename_i hc
      exact Draft.sound_behind rfl (by rw [hc]; rfl) hnext
    · split
      · rename_i hc
        exact Draft.sound_behind rfl (by rw [hc]; rfl) hnext
      · exact hstay
  | span start =>
    obtain ⟨part, hpart⟩ := cut_of_sound hd hi rfl
    simp only [step, hpart]
    split
    · exact nofun
    · split
      · rename_i hc
        exact Draft.sound_behind rfl (by rw [hc]; rfl) hnext
      · exact hstay
  | field start =>
    obtain ⟨part, hpart⟩ := cut_of_sound hd hi rfl
    simp only [step, hpart]
    split
    · show Kept t _ (if part = [] then _ else _)
      split
      · exact Fault.noConfusion
      · cases Field.ofText? part with
        | none => exact Fault.noConfusion
        | some f => exact nofun
    · exact hstay
  | fieldEnd =>
    simp only [step]
    split
    · exact nofun
    · exact nofun
  | spanEnd =>
    simp only [step]
    split
    · rename_i hc
      exact Draft.sound_behind rfl (by rw [hc]; rfl) hnext
    · exact nofun
  | level start => exact hstay

theorem finish_ne_torn {t : Text} {d : Draft} {i : Nat} (hd : d.Sound t i) :
    finish t d ≠ .error .torn := by
  obtain ⟨place, target, span, field⟩ := d
  cases place with
  | name =>
    simp only [finish]
    split <;> exact nofun
  | level start =>
    obtain ⟨hboundary, -⟩ := hd start rfl
    obtain ⟨name, hname⟩ := hboundary.dropBytes?
    simp only [finish, hname]
    show (if name = [] then _ else _) ≠ _
    split
    · exact nofun
    · cases Threshold.ofName? name <;> exact nofun
  | spanEnd => exact nofun
  | start | span start | field start | fieldEnd => exact nofun

/-- By induction on what is still to be read: `read` takes the bytes before it. -/
theorem readFrom_ne_torn {t read rest : Text} {d : Draft} (hd : d.Sound t (size read))
    (h : ∀ before after, before ++ after = read ++ rest → Boundary t (size before)) :
    readFrom t d (size read) rest ≠ .error .torn := by
  induction rest generalizing read d with
  | nil => exact finish_ne_torn hd
  | cons c rest ih =>
    have hnext : size read + c.utf8Size = size (read ++ [c]) := by
      rw [Text.size_append]
      rfl
    have hlater := h (read ++ [c]) rest (by simp)
    rw [← hnext] at hlater
    have hstep := step_sound hd (h read (c :: rest) rfl) hlater
    rw [readFrom]
    cases hr : step t d (size read) c with
    | error fault =>
      rw [hr] at hstep
      intro htorn
      exact hstep (Except.error.inj htorn)
    | ok d' =>
      rw [hr, hnext] at hstep
      have hrest := ih hstep (by simpa using h)
      rw [← hnext] at hrest
      exact hrest

theorem ofText_ne_torn {t : Text} (h : Text.Aligned t) : ofText t ≠ .error .torn := by
  have hempty : Draft.empty.Sound t (size []) := Draft.sound_empty t _
  exact readFrom_ne_torn hempty fun before after heq => h _ ⟨before, after, heq, rfl⟩

/-- It takes a blank in front and a character of several bytes to tear a directive. -/
theorem ofText_ne_torn_of_plain {t : Text}
    (h : (∀ c ∈ t.head?, Text.isBlank c = false) ∨ ∀ c ∈ t, c.utf8Size = 1) :
    ofText t ≠ .error .torn := by
  apply ofText_ne_torn
  rcases h with hfront | hone
  · exact Text.aligned_of_no_blank_in_front hfront
  · exact Text.aligned_of_one_byte_each hone

end Directive

/-! ## All directives of a filter -/

namespace Filter

theorem add?_eq_none_iff {f : Filter} {t : Text} :
    f.add? t = none ↔ Directive.ofText t = .error .torn := by
  unfold add?
  split <;> simp [*]

theorem foldlM_add?_eq_none_iff {f : Filter} {ts : List Text} :
    ts.foldlM add? f = none ↔ ∃ t ∈ ts, Directive.ofText t = .error .torn := by
  induction ts generalizing f with
  | nil => simp
  | cons t ts ih =>
    have hfirst := add?_eq_none_iff (f := f) (t := t)
    rw [List.foldlM_cons]
    cases hadd : f.add? t with
    | none => simp [hfirst.mp hadd]
    | some f' =>
      have hwhole : Directive.ofText t ≠ .error .torn := fun h => by simp [hfirst.mpr h] at hadd
      simpa [hwhole] using ih

theorem ofText?_eq_none_iff {t : Text} :
    ofText? t = none ↔ ∃ d ∈ Text.cut ',' t, Directive.ofText d = .error .torn := by
  rw [← foldlM_add?_eq_none_iff (f := []), ofText?]
  cases (Text.cut ',' t).foldlM add? [] with
  | none => simp
  | some f => cases f <;> simp

end Filter
end MismatchLog.Event
