import UsageLedger.Bridge
import UsageLedger.Config.Reader
import UsageLedger.Database.Foreign
import UsageLedger.Error
import UsageLedger.Snapshot.Totals
import UsageLedger.Store.Opening

/-!
# The host

The proxy that embeds the ledger: its stores, toggles, aggregates, bridges and dispatchers, each
by number, with the disk beneath and the log beside them.  Whatever happens to one of them is
carried out on the whole.

Writes of a bridge are started as soon as they are accepted.  They are finished at once, unless
somebody else holds the right to write: then they wait until it is given back or their time runs
out.

## Main definitions

* `Held`: a store with the place of its database.
* `Host`: all of it.
* `Host.onStore`, `Host.load`: an operation of one store.
* `Host.publish`, `Host.handle`, `Host.deliver`: an event on its way.
* `Host.finishWriteAt`: a write finished.
* `Host.settle`, `Host.drain`: writes finished when they can be, and in any case.
* `Host.loadAndMerge`: an aggregate restored from a store.
-/

namespace UsageLedger

/-- A store with the place of its database. -/
structure Held where
  /-- The store. -/
  store : Store
  /-- Where the file of its database is, if it is in one. -/
  place : Option Location := none
  /-- Its database, if that is in no file. -/
  own : Database := .blank

/-- The proxy that embeds the ledger. -/
structure Host where
  /-- The disk. -/
  disk : Disk := {}
  /-- The home directory. -/
  home : String := "home"
  /-- The stores. -/
  stores : List Held := []
  /-- The toggles; the first one is that of the process. -/
  toggles : List Bool := [true]
  /-- The aggregates. -/
  aggregates : List Snapshot := []
  /-- The bridges. -/
  bridges : List Bridge := []
  /-- What each probe remembers. -/
  probes : List (List (Event × Context)) := []
  /-- The dispatchers. -/
  dispatchers : List Dispatcher := []
  /-- The log. -/
  log : List LogEntry := []

namespace Host

/-- The host with an event logged. -/
def note (h : Host) (e : LogEntry) : Host :=
  { h with log := h.log ++ [e] }

/-! ### Stores -/

/-- The database of a store. -/
def databaseOf (h : Host) (s : Held) : Database :=
  match s.place with
  | some l => (h.disk.database? l).getD .blank
  | none => s.own

/-- An operation carried out on a store and its database. -/
def onStore {α : Type} (h : Host) (id : Nat) (op : Store → Database → Outcome α) :
    Except Error α × Host :=
  match h.stores[id]? with
  | none => (.error .notInitialized, h)
  | some held =>
    let o := op held.store (h.databaseOf held)
    match held.place with
    | some l =>
      (o.answer,
        { h with
          stores := h.stores.set id { held with store := o.store }
          disk :=
            match h.disk.database? l with
            | some _ => h.disk.put l (.database o.database)
            | none => h.disk })
    | none =>
      (o.answer,
        { h with stores := h.stores.set id { held with store := o.store, own := o.database } })

/-- A store opened at a path; its number is that of the stores before it. -/
def openStore (h : Host) (path : String) (busyTimeout : Nat) : Opening × Host :=
  match Store.openAt h.disk h.home path busyTimeout with
  | (disk, .opened s l) =>
    (.opened s l, { h with disk, stores := h.stores ++ [{ store := s, place := some l }] })
  | (disk, other) => (other, { h with disk })

/-- A store added. -/
def addStore (h : Host) (s : Store) : Host :=
  { h with stores := h.stores ++ [{ store := s }] }

/-- The connection of a store is given up. -/
def closeStore (h : Host) (id : Nat) : Host :=
  { h with stores := h.stores.modify id fun held => { held with store := held.store.close } }

/-- All records of a store; rows passed over are logged. -/
def load (h : Host) (id : Nat) (i : Interruption) : Except Error Snapshot × Host :=
  match h.onStore id fun s db => s.load db i with
  | (.ok loaded, h) =>
    (.ok loaded.snapshot, if loaded.skipped = 0 then h else h.note (.rowsSkipped loaded.skipped))
  | (.error e, h) => (.error e, h)

/-! ### Other users of a database file -/

/-- What another user does to the database file at the end of a path, which is made if it is
missing. -/
def foreign {α : Type} (h : Host) (path : String)
    (op : Database → Except Fault (α × Database)) : Option α × Host :=
  match h.disk.openDatabase path with
  | some (disk, .database l db) =>
    match op db with
    | .ok (a, db) => (some a, { h with disk := disk.put l (.database db) })
    | .error _ => (none, { h with disk })
  | _ => (none, h)

/-! ### Toggles and aggregates -/

/-- The toggle is on. -/
def isOn (h : Host) (toggle : Nat) : Bool :=
  h.toggles.getD toggle true

/-- The host with a toggle set. -/
def setToggle (h : Host) (toggle : Nat) (enabled : Bool) : Host :=
  { h with toggles := h.toggles.set toggle enabled }

/-- What an aggregate holds. -/
def aggregate (h : Host) (id : Nat) : Snapshot :=
  h.aggregates.getD id .empty

/-- The host with an aggregate replaced. -/
def setAggregate (h : Host) (id : Nat) (s : Snapshot) : Host :=
  { h with aggregates := h.aggregates.set id s }

/-! ### Writes -/

/-- The write of a bridge with a number is finished. -/
def finishWriteAt (h : Host) (id i : Nat) : Host :=
  match h.bridges[id]? with
  | none => h
  | some b =>
    match b.backlog.finish? i, b.store with
    | some (r, backlog), some store =>
      let h := { h with bridges := h.bridges.set id { b with backlog } }
      match h.onStore store fun s db => s.insert db r with
      | (.ok _, h) => h
      | (.error e, h) => h.note (.writeFailed r.apiKey r.model e)
    | _, _ => h

/-- A number of writes of a bridge are finished, oldest first. -/
def finishWrites (h : Host) (id : Nat) : Nat → Host
  | 0 => h
  | n + 1 => (h.finishWriteAt id 0).finishWrites id n

/-- All writes of a bridge are finished. -/
def flush (h : Host) (id : Nat) : Host :=
  match h.bridges[id]? with
  | none => h
  | some b => h.finishWrites id b.backlog.pending

/-- All writes are finished. -/
def drain (h : Host) : Host :=
  (List.range h.bridges.length).foldl flush h

/-- The writes of a bridge have to wait, because somebody else holds the right to write. -/
def waits (h : Host) (b : Bridge) : Bool :=
  match b.store.bind (h.stores[·]?) with
  | some held => held.store.ready?.isSome && (h.databaseOf held).locked
  | none => false

/-- All writes that need not wait are finished. -/
def settle (h : Host) : Host :=
  (List.range h.bridges.length).foldl
    (fun h id =>
      match h.bridges[id]? with
      | some b => if h.waits b then h else h.flush id
      | none => h)
    h

/-! ### Events -/

/-- A bridge is given an event: while its toggle is on the record is offered to the backlog. -/
def bridgeEvent (h : Host) (id : Nat) (e : Event) (c : Context) (now : Instant) : Host :=
  match h.bridges[id]? with
  | none => h
  | some b =>
    if b.store.isNone || !h.isOn b.toggle then h
    else
      let r := e.normalize c now
      let (accepted, backlog) := b.backlog.offer r
      let h := { h with bridges := h.bridges.set id { b with backlog } }
      if accepted then h
      else h.note (.backlogFull r.apiKey r.model backlog.limit backlog.dropped)

/-- What a handler that is given an event does before it returns. -/
def deliver (h : Host) (handler : Handler) (e : Event) (c : Context) (now : Instant) : Host :=
  match handler with
  | .persistence bridge => h.bridgeEvent bridge e c now
  | .recorder aggregate toggle =>
    if h.isOn toggle then
      h.setAggregate aggregate ((h.aggregate aggregate).push (e.normalize c now))
    else h
  | .probe number => { h with probes := h.probes.modify number (· ++ [(e, c)]) }

/-- A handler is given an event, and the writes that it leads to are finished if they need not
wait. -/
def handle (h : Host) (handler : Handler) (e : Event) (c : Context) (now : Instant) : Host :=
  match handler with
  | .persistence _ => (h.deliver handler e c now).settle
  | _ => h.deliver handler e c now

/-- A dispatcher is given an event: one without a time gets one, the same for all handlers. -/
def publish (h : Host) (id : Nat) (e : Event) (c : Context) (now : Instant) : Host :=
  (h.dispatchers.getD id []).foldl (fun h handler => h.handle handler (e.stamp now) c now) h

/-! ### Restoring -/

/-- The aggregate of a bridge takes over what its store holds; nothing happens where one of the
two is missing. -/
def loadAndMerge (h : Host) (id : Nat) : Except Error (Option Tally) × Host :=
  match h.bridges[id]? with
  | some { store := some store, aggregate := some aggregate, .. } =>
    match h.load store .never with
    | (.error e, h) => (.error e, h)
    | (.ok snapshot, h) =>
      let (merged, tally) := (h.aggregate aggregate).merge snapshot
      (.ok (some tally), h.setAggregate aggregate merged)
  | _ => (.ok none, h)

end Host

end UsageLedger
