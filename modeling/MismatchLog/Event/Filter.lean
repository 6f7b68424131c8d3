import MismatchLog.Event
import MismatchLog.Event.Directive

/-!
Which events are told. A filter is a list of directives; of those that fit an event the closest
decides about it.
-/

namespace MismatchLog.Event

abbrev Filter := List Directive

namespace Filter

/-- Lets through what is at a level or graver. -/
def atLevel (l : Level) : Filter := [⟨none, none, none, some l⟩]

/-- Adds a directive; one that cannot be read does not count. -/
def add? (f : Filter) (t : Text) : Option Filter :=
  match Directive.ofText t with
  | .ok d => some (f ++ [d])
  | .error .unreadable => some f
  | .error .torn => none

/-- Reads a filter. Without any directive errors are let through. A directive that would be cut
inside a character makes the whole text no filter. -/
def ofText? (t : Text) : Option Filter := do
  match ← (Text.cut ',' t).foldlM add? [] with
  | [] => return atLevel .error
  | f => return f

/-- A directive fits an event whose target starts with its own and that has its field. -/
def fits (e : Event) (d : Directive) : Bool :=
  d.concernsEvents &&
    (match d.target with
      | none => true
      | some name => name.isPrefixOf e.target) &&
    match d.field with
    | none => true
    | some f => e.fields.contains f.name

/-- The closest directive that fits an event; of several that are equally close the last. -/
def closest? (f : Filter) (e : Event) : Option Directive :=
  (f.filter (fits e)).foldl (fun best d =>
    match best with
    | none => some d
    | some b => if b.yieldsTo d then some d else best) none

def admits (f : Filter) (e : Event) : Bool :=
  match f.closest? e with
  | none => false
  | some d => d.threshold.admits e.level

end Filter
end MismatchLog.Event
