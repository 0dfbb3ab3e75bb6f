import UsageLedger.Event

/-!
# Handlers of events

A dispatcher passes every event on to its handlers, in the order in which they registered.  A
handler counts the event in an aggregate, writes it to a store, or merely remembers it.

Records are written in the background.  Only so many writes may be unfinished at a time; a
record that comes when the backlog is full is dropped, and counted.

## Main definitions

* `Backlog`: the writes that are not finished, and the number of records dropped.
* `Backlog.offer`: one more record, accepted or dropped.
* `Backlog.finish?`: one of the writes finished.
* `Bridge`: what a handler that writes to a store works with.
* `Handler`, `Dispatcher`: handlers by what they do, and rows of them.
* `Dispatcher.describe`: a dispatcher as shown to a reader.
-/

namespace UsageLedger

/-! ### The backlog of writes -/

/-- Writes that are not finished, and records that were dropped. -/
structure Backlog where
  /-- How many writes may be unfinished; at least one. -/
  limit : Nat
  /-- The records whose writes are not finished, in the order in which they came. -/
  waiting : List Record := []
  /-- How many records were dropped. -/
  dropped : Nat := 0
  deriving DecidableEq

namespace Backlog

/-- How many writes may be unfinished when nothing else is said. -/
def usualLimit : Nat := 1024

/-- No write is unfinished; a limit of zero counts as one. -/
def ofLimit (limit : Nat) : Backlog :=
  { limit := max 1 limit }

/-- The number of writes that are not finished. -/
def pending (b : Backlog) : Nat :=
  b.waiting.length

/-- One more record: it is accepted if there is room, and else dropped; the answer tells which. -/
def offer (b : Backlog) (r : Record) : Bool × Backlog :=
  if b.pending < b.limit then (true, { b with waiting := b.waiting ++ [r] })
  else (false, { b with dropped := b.dropped + 1 })

/-- The write with a number is finished, in whatever way it ends. -/
def finish? (b : Backlog) (i : Nat) : Option (Record × Backlog) :=
  match b.waiting[i]? with
  | some r => some (r, { b with waiting := b.waiting.eraseIdx i })
  | none => none

end Backlog

/-! ### Handlers -/

/-- What a handler that writes to a store works with; stores, aggregates and toggles go by
number. -/
structure Bridge where
  /-- The store that it writes to. -/
  store : Option Nat
  /-- The aggregate that it restores. -/
  aggregate : Option Nat
  /-- The toggle that it heeds. -/
  toggle : Nat
  /-- Its writes. -/
  backlog : Backlog
  deriving DecidableEq

/-- A handler of events. -/
inductive Handler where
  /-- It writes events to the store of a bridge. -/
  | persistence (bridge : Nat)
  /-- It counts events in an aggregate while a toggle is on. -/
  | recorder (aggregate toggle : Nat)
  /-- It remembers what it is called with. -/
  | probe (number : Nat)
  deriving DecidableEq

/-- Handlers in the order in which they registered. -/
abbrev Dispatcher := List Handler

/-- A dispatcher as shown to a reader. -/
def Dispatcher.describe (d : Dispatcher) : String :=
  "UsageDispatcher \x7b handlers: " ++ Text.ofNat d.length ++ " \x7d"

end UsageLedger
