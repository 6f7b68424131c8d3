import MismatchLog.Key
import Std.Data.HashMap

/-!
The tally of a log: one entry per key, in the order in which the keys were first seen, each with
the first line that had it and the number of lines that did. An index from keys to positions keeps
recording fast; it holds exactly the keys of the entries.
-/

namespace MismatchLog

structure Entry where
  count : Nat
  line : Text
  key : Key
  deriving DecidableEq, Repr

structure Tally where
  entries : Array Entry
  /-- The position of each key's entry. -/
  index : Std.HashMap Key Nat
  /-- All lines, marked or not. -/
  linesScanned : Nat
  markerLines : Nat

namespace Tally

def empty : Tally := ⟨#[], ∅, 0, 0⟩

/-- One more line with this key. -/
def bump (e : Entry) : Entry := { e with count := e.count + 1 }

/-- Counts a marked line. The first line of a key stays the one that stands for it. -/
def record (t : Tally) (key : Key) (line : Text) : Tally :=
  match t.index[key]? with
  | some pos =>
    { t with entries := t.entries.modify pos bump, markerLines := t.markerLines + 1 }
  | none =>
    { t with
      entries := t.entries.push ⟨1, line, key⟩
      index := t.index.insert key t.entries.size
      markerLines := t.markerLines + 1 }

def get? (t : Tally) (key : Key) : Option Entry :=
  t.index[key]?.bind fun pos => t.entries[pos]?

def size (t : Tally) : Nat := t.entries.size

def isEmpty (t : Tally) : Bool := t.entries.isEmpty

/-- The entries whose lines had no pair of literals. -/
def rawLineEntries (t : Tally) : Nat := t.entries.countP fun e => !e.key.isHexPair

end Tally
end MismatchLog
