import UsageLedger.Proofs.Accounting
import UsageLedger.Proofs.Gathering
import UsageLedger.Proofs.Traffic

/-!
# What is delivered

What goes on between a dispatcher and its store is made of pulses: an event is counted, its
record is handed to the bridge, or a write is finished.  As long as the toggle is on and nothing
is lost, the aggregate holds the records counted, in their order, and the records handed over
are either waiting or in the table, where a record is left out whose key was met before.

## Main definitions

* `Host.Ready` — a store is ready to write to a table with its unique index.
* `LogEntry.isLoss`, `Host.Lossless` — nothing was dropped and no write failed from one host to
  another.
* `Pulse`, `Host.pulse`, `Host.pulses` — what goes on, in its smallest parts.
* `Host.Delivered` — what became of the records counted and of those handed over.

## Main results

* `Host.Ready.insert` — what inserting a record leads to.
* `Host.Delivered.pulse`, `Host.Delivered.pulses` — **what a pulse keeps, and a row of pulses.**
-/

namespace UsageLedger

namespace Host

variable {h h' : Host} {k : Circuit}

/-! ### A store that is ready -/

/-- The store with a number is ready to write to a table with its unique index. -/
structure Ready (h : Host) (id : Nat) : Prop where
  /-- The store is ready, and nothing is left that would call off a statement. -/
  store : ∃ held c, h.stores[id]? = some held ∧ held.store.Quiet ∧ held.store.ready? = some c
  /-- The table is there. -/
  guarded : (h.databaseAt id).Guarded

theorem log_onStore {α : Type} (h : Host) (id : Nat) (op : Store → Database → Outcome α) :
    (h.onStore id op).2.log = h.log := by
  rw [Host.onStore]
  split
  · rfl
  · dsimp only
    split <;> rfl

/-- **An operation of a ready store** is done on its database, and kept. -/
theorem Ready.onStore {α : Type} {id : Nat} (hr : h.Ready id) {held : Held}
    (hget : h.stores[id]? = some held) (op : Store → Database → Outcome α) :
    (h.onStore id op).2.databaseAt id = (op held.store (h.databaseAt id)).database ∧
      ∃ held', (h.onStore id op).2.stores[id]? = some held' ∧
        held'.store = (op held.store (h.databaseAt id)).store := by
  have hlt := (List.getElem?_eq_some_iff.mp hget).1
  have hguard := hr.guarded
  have hat := databaseAt_of_get hget
  rw [hat] at hguard ⊢
  cases hplace : held.place with
  | none =>
    simp only [Host.onStore, hget, hplace]
    exact ⟨by simp [databaseAt, hlt, databaseOf, hplace], _, List.getElem?_set_self hlt, rfl⟩
  | some l =>
    cases hdb : h.disk.database? l with
    | none =>
      -- where there is no file there is no table
      obtain ⟨t, ht, -⟩ := hguard
      rw [databaseOf, hplace] at ht
      simp only [hdb, Option.getD_none] at ht
      cases ht
    | some db =>
      have hdisk : (h.onStore id op).2.disk =
          h.disk.put l (.database (op held.store (h.databaseOf held)).database) := by
        simp only [Host.onStore, hget, hplace, hdb]
      have hstores : (h.onStore id op).2.stores[id]? =
          some ⟨(op held.store (h.databaseOf held)).store, held.place, held.own⟩ := by
        simp only [Host.onStore, hget, hplace, List.getElem?_set_self hlt]
      refine ⟨?_, _, hstores, rfl⟩
      rw [databaseAt, hstores]
      exact (databaseOf_put hdb hdisk _).trans (if_pos hplace)

/-- **A store that is ready is ready after** an operation that carries out a request to it. -/
theorem Ready.kept {α : Type} {id : Nat} (hr : h.Ready id) {op : Store → Database → Outcome α}
    (call : Call) (hc : call.usesTable = true) {f : α → Reply}
    (hop : ∀ s db, Store.serve s db call = (op s db).map f) : (h.onStore id op).2.Ready id := by
  obtain ⟨held, c, hget, hquiet, hready⟩ := hr.store
  obtain ⟨hdb, held', hget', hstore⟩ := hr.onStore hget op
  have hserve := hop held.store (h.databaseAt id)
  have hstore' : held'.store = (held.store.serve (h.databaseAt id) call).store := by
    rw [hstore, hserve]
    rfl
  have hguard := @Store.guarded_serve _ _ hquiet hr.guarded call
  rw [hserve, Outcome.map_database, ← hdb] at hguard
  -- the store is the one from before, but for what its connection remembers
  have hbare : held'.store.bare = held.store.bare :=
    hstore' ▸ @Store.bare_serve _ hquiet (h.databaseAt id) call hc
  have hmap := Store.ready?_map_bare hbare
  rw [hready, Option.map_some, Option.map_eq_some_iff] at hmap
  obtain ⟨c', hc', -⟩ := hmap
  exact ⟨⟨held', c', hget', hstore' ▸ hquiet.serve _ call, hc'⟩, hguard⟩

/-- **What inserting a record leads to**: the store is ready as before, and if the record was
not refused its row is added unless the key is known. -/
theorem Ready.insert {id : Nat} (hr : h.Ready id) (r : Record) :
    (h.onStore id fun s db => s.insert db r).2.Ready id ∧
      ∀ added, (h.onStore id fun s db => s.insert db r).1 = .ok added →
        ((h.onStore id fun s db => s.insert db r).2.databaseAt id).rows = (h.databaseAt id).rows ++
          (fresh Record.cellKey (h.databaseAt id).keys [r]).map Row.ofRecord := by
  refine ⟨hr.kept (.insert r) rfl fun _ _ => rfl, fun added hok => ?_⟩
  obtain ⟨held, c, hget, hquiet, -⟩ := hr.store
  obtain ⟨hdb, -⟩ := hr.onStore hget fun s db => s.insert db r
  have hrows := Store.rows_serve hquiet (fun _ => hr.guarded) (.insert r)
  rw [answer_onStore hget] at hok
  have hanswer : (held.store.serve (h.databaseAt id) (.insert r)).answer = .ok (.inserted added) :=
    Outcome.map_answer_eq_ok.mpr ⟨added, hok, rfl⟩
  rw [hanswer] at hrows
  rw [hdb]
  exact hrows

end Host

/-! ### Losses -/

/-- A record is lost to the store: it was dropped, or could not be written. -/
def LogEntry.isLoss : LogEntry → Bool
  | backlogFull .. | writeFailed .. => true
  | rowsSkipped _ => false

namespace Host

variable {h h' h'' : Host} {k : Circuit}

/-- Nothing was lost on the way from one host to another one that came from it. -/
def Lossless (h h' : Host) : Prop :=
  ∃ new, h'.log = h.log ++ new ∧ ∀ e ∈ new, e.isLoss = false

theorem Lossless.split (hl : Lossless h h'') (hfirst : h.log <+: h'.log)
    (hrest : h'.log <+: h''.log) :
    Lossless h h' ∧ Lossless h' h'' := by
  obtain ⟨new, hnew, hall⟩ := hl
  obtain ⟨a, ha⟩ := hfirst
  obtain ⟨b, hb⟩ := hrest
  have hab : a ++ b = new := by
    rw [← ha, hnew, List.append_assoc] at hb
    exact List.append_cancel_left hb
  rw [← hab] at hall
  exact ⟨⟨a, ha.symm, fun e he => hall e (List.mem_append_left b he)⟩,
    b, hb.symm, fun e he => hall e (List.mem_append_right a he)⟩

theorem Lossless.isLoss_eq {e : LogEntry} (hl : Lossless h h') (hlog : h'.log = h.log ++ [e]) :
    e.isLoss = false := by
  obtain ⟨new, hnew, hall⟩ := hl
  rw [hlog] at hnew
  exact hall e (List.append_cancel_left hnew ▸ List.mem_singleton_self e)

/-! ### Pulses -/

end Host

/-- The smallest part of what goes on: an event is counted, its record is handed to the bridge,
or a write of the bridge is finished. -/
inductive Pulse where
  /-- The event is counted in the aggregate. -/
  | count (e : Event) (c : Context) (now : Instant)
  /-- The record of the event is handed to the bridge. -/
  | hand (e : Event) (c : Context) (now : Instant)
  /-- The write with a number is finished. -/
  | finish (i : Nat)

namespace Pulse

/-- The record that is counted. -/
def counted : Pulse → List Record
  | count e c now => [e.normalize c now]
  | hand .. | finish _ => []

/-- The record that is handed over. -/
def handed : Pulse → List Record
  | hand e c now => [e.normalize c now]
  | count .. | finish _ => []

end Pulse

namespace Host

/-- What a pulse makes of a host. -/
def pulse (k : Circuit) (h : Host) : Pulse → Host
  | .count e c now => h.deliver k.recorder e c now
  | .hand e c now => h.deliver k.persistence e c now
  | .finish i => h.finishWriteAt k.bridge i

/-- What pulses make of a host, one after the other. -/
def pulses (k : Circuit) (h : Host) (ps : List Pulse) : Host :=
  ps.foldl (pulse k) h

variable {h h' h₀ : Host} {k : Circuit}

/-- **What became of the records counted and of those handed over** since there was another host. -/
structure Delivered (k : Circuit) (h₀ : Host) (counted handed : List Record) (h : Host) : Prop where
  /-- The parts are there. -/
  wired : h.Wired k
  /-- The toggle is on. -/
  isOn : h.isOn k.toggle = true
  /-- The store is ready. -/
  ready : h.Ready k.store
  /-- The records counted are in the aggregate, in their order. -/
  aggregate : h.aggregate k.aggregate = counted.foldl Snapshot.push (h₀.aggregate k.aggregate)
  /-- The records handed over are waiting or written; of those written the table has the ones
  with new keys. -/
  rows : ∃ written, (written ++ h.waiting k.bridge).Perm handed ∧
    (h.databaseAt k.store).rows = (h₀.databaseAt k.store).rows ++
      (fresh Record.cellKey (h₀.databaseAt k.store).keys written).map Row.ofRecord

variable {counted handed : List Record}

theorem delivered_start (hw : h.Wired k) (hon : h.isOn k.toggle = true) (hr : h.Ready k.store)
    (hidle : h.waiting k.bridge = []) : Delivered k h [] [] h :=
  ⟨hw, hon, hr, rfl, [], by rw [hidle]; exact .refl _, by simp⟩

theorem Delivered.count (hd : Delivered k h₀ counted handed h) (e : Event) (c : Context)
    (now : Instant) :
    Delivered k h₀ (counted ++ [e.normalize c now]) handed (h.deliver k.recorder e c now) := by
  rw [Circuit.recorder, deliver, if_pos hd.isOn]
  refine ⟨hd.wired.setAggregate _ _, hd.isOn, ⟨hd.ready.store, hd.ready.guarded⟩, ?_, hd.rows⟩
  rw [aggregate_setAggregate hd.wired.aggregate, hd.aggregate, List.foldl_append]
  rfl

/-- The writes of the bridge of a circuit changed. -/
theorem Delivered.setBacklog (hd : Delivered k h₀ counted handed h) {b : Bridge}
    (hb : h.bridges[k.bridge]? = some b) {backlog : Backlog} {handed' : List Record}
    (hmore : ∀ written, (written ++ b.backlog.waiting).Perm handed →
      (written ++ backlog.waiting).Perm handed') :
    Delivered k h₀ counted handed'
      { h with bridges := h.bridges.set k.bridge { b with backlog } } := by
  obtain ⟨hwired, hwaiting⟩ := hd.wired.setBacklog hb backlog
  obtain ⟨written, hperm, hrows⟩ := hd.rows
  rw [waiting_of_bridge hb] at hperm
  exact ⟨hwired, hd.isOn, ⟨hd.ready.store, hd.ready.guarded⟩, hd.aggregate, written,
    by rw [hwaiting]; exact hmore written hperm, hrows⟩

theorem Delivered.hand (hd : Delivered k h₀ counted handed h) (e : Event) (c : Context)
    (now : Instant) :
    (∃ loss : LogEntry, loss.isLoss = true ∧
        (h.deliver k.persistence e c now).log = h.log ++ [loss]) ∨
      Delivered k h₀ counted (handed ++ [e.normalize c now]) (h.deliver k.persistence e c now) := by
  obtain ⟨backlog, hbridge⟩ := hd.wired.bridge
  rw [Circuit.persistence, deliver, bridgeEvent, hbridge]
  have hskip : ((some k.store).isNone || !h.isOn k.toggle) = false := by simp [hd.isOn]
  dsimp only
  rw [hskip, if_neg (by simp), Backlog.offer]
  by_cases hroom : backlog.pending < backlog.limit
  · rw [if_pos hroom, if_pos rfl]
    refine .inr (hd.setBacklog hbridge fun written hperm => ?_)
    rw [← List.append_assoc]
    exact hperm.append_right _
  · rw [if_neg hroom]
    exact .inl ⟨_, rfl, rfl⟩

/-- Of a write that was waiting, and the table before it: what the table has after it. -/
theorem fresh_written {db : Database} {rows : List Row} {written : List Record} (r : Record)
    (hrows : db.rows = rows ++
      (fresh Record.cellKey (rows.map (·.dedupKey)) written).map Row.ofRecord) :
    fresh Record.cellKey (rows.map (·.dedupKey)) written ++ fresh Record.cellKey db.keys [r] =
      fresh Record.cellKey (rows.map (·.dedupKey)) (written ++ [r]) := by
  rw [fresh_append]
  refine congrArg (_ ++ ·) (fresh_congr [r] fun key => ?_)
  rw [← mem_append_map_fresh, Database.keys_append hrows]

theorem finishWriteAt_of_none {b : Bridge} {id i : Nat} (hb : h.bridges[id]? = some b)
    (hget : b.backlog.waiting[i]? = none) : h.finishWriteAt id i = h := by
  have hnone : b.backlog.finish? i = none := by rw [Backlog.finish?, hget]
  rw [finishWriteAt, hb]
  dsimp only
  rw [hnone]

/-- A write is finished: it waits no more, and its record is inserted, or the failure logged. -/
theorem finishWriteAt_eq {b : Bridge} {id i store : Nat} {r : Record}
    (hb : h.bridges[id]? = some b) (hstore : b.store = some store)
    (hget : b.backlog.waiting[i]? = some r) :
    h.finishWriteAt id i =
      match Host.onStore
          { h with
            bridges :=
              h.bridges.set id
                { b with backlog := { b.backlog with waiting := b.backlog.waiting.eraseIdx i } } }
          store fun s db => s.insert db r with
      | (.ok _, after) => after
      | (.error e, after) => after.note (.writeFailed r.apiKey r.model e) := by
  obtain ⟨store?, aggregate, toggle, backlog⟩ := b
  obtain rfl : store? = some store := hstore
  have hfinish : backlog.finish? i =
      some (r, { backlog with waiting := backlog.waiting.eraseIdx i }) := by
    rw [Backlog.finish?, hget]
  unfold finishWriteAt
  rw [hb]
  dsimp only
  exact hfinish ▸ rfl

theorem finishWriteAt_of_some {b : Bridge} {id i store : Nat} {r : Record}
    (hb : h.bridges[id]? = some b) (hstore : b.store = some store)
    (hget : b.backlog.waiting[i]? = some r) :
    ∃ (rest : Backlog) (before : Host), rest.waiting = b.backlog.waiting.eraseIdx i ∧
      before = { h with bridges := h.bridges.set id { b with backlog := rest } } ∧
      h.finishWriteAt id i =
        match before.onStore store fun s db => s.insert db r with
        | (.ok _, after) => after
        | (.error e, after) => after.note (.writeFailed r.apiKey r.model e) :=
  ⟨_, _, rfl, rfl, finishWriteAt_eq hb hstore hget⟩

/-- What finishing a write makes of the bridge: the write waits no more, and all else stays. -/
theorem bridge_finishWriteAt {b : Bridge} {id store : Nat} (hb : h.bridges[id]? = some b)
    (hstore : b.store = some store) (i : Nat) :
    (h.finishWriteAt id i).bridges[id]? =
      some { b with backlog := { b.backlog with waiting := b.backlog.waiting.eraseIdx i } } := by
  cases hget : b.backlog.waiting[i]? with
  | none =>
    rw [finishWriteAt_of_none hb hget, hb,
      List.eraseIdx_of_length_le (List.getElem?_eq_none_iff.mp hget)]
  | some r =>
    have hset := List.getElem?_set_self (List.getElem?_eq_some_iff.mp hb).1
      (a := { b with backlog := { b.backlog with waiting := b.backlog.waiting.eraseIdx i } })
    rw [finishWriteAt_eq hb hstore hget]
    -- the insert runs on the host in which the record waits no more
    generalize hbefore : ({ h with bridges := h.bridges.set id { b with
      backlog := { b.backlog with waiting := b.backlog.waiting.eraseIdx i } } } : Host) = before
    have hparts := sameParts_onStore before store fun s db => s.insert db r
    have hbridges : before.bridges = h.bridges.set id { b with
        backlog := { b.backlog with waiting := b.backlog.waiting.eraseIdx i } } := hbefore ▸ rfl
    rw [← hbridges, ← hparts.bridges] at hset
    generalize (before.onStore store fun s db => s.insert db r) = p at *
    obtain ⟨answer, after⟩ := p
    cases answer with
    | ok added => exact hset
    | error e => exact hset

/-- Finishing a write puts its row into the table unless the key is known, or is logged as a
loss. -/
theorem Delivered.finish (hd : Delivered k h₀ counted handed h) (i : Nat) :
    (∃ loss : LogEntry, loss.isLoss = true ∧ (h.finishWriteAt k.bridge i).log = h.log ++ [loss]) ∨
      Delivered k h₀ counted handed (h.finishWriteAt k.bridge i) := by
  obtain ⟨backlog, hbridge⟩ := hd.wired.bridge
  cases hget : backlog.waiting[i]? with
  | none =>
    rw [finishWriteAt_of_none hbridge hget]
    exact .inr hd
  | some r =>
    obtain ⟨rest, before, hrest, hbefore, hfinish⟩ := finishWriteAt_of_some hbridge rfl hget
    have hmoved : (r :: rest.waiting).Perm backlog.waiting := by
      obtain ⟨hi, rfl⟩ := List.getElem?_eq_some_iff.mp hget
      rw [hrest]
      exact List.getElem_cons_eraseIdx_perm hi
    obtain ⟨written, hperm, hrows⟩ := hd.rows
    rw [waiting_of_bridge hbridge] at hperm
    obtain ⟨hwired, hwaiting⟩ := hd.wired.setBacklog hbridge rest
    rw [← hbefore] at hwired hwaiting
    have hready : before.Ready k.store := hbefore ▸ ⟨hd.ready.store, hd.ready.guarded⟩
    have hdb : before.databaseAt k.store = h.databaseAt k.store := hbefore ▸ rfl
    have hlog : before.log = h.log := hbefore ▸ rfl
    have haggregate : before.aggregate k.aggregate = h.aggregate k.aggregate := hbefore ▸ rfl
    have hon : before.isOn k.toggle = true := hbefore ▸ hd.isOn
    have hparts := sameParts_onStore before k.store fun s db => s.insert db r
    have hlog' := log_onStore before k.store fun s db => s.insert db r
    obtain ⟨hready', hadded⟩ := hready.insert r
    rw [hfinish]
    generalize (before.onStore k.store fun s db => s.insert db r) = p at *
    obtain ⟨answer, after⟩ := p
    cases answer with
    | error e => exact .inl ⟨.writeFailed r.apiKey r.model e, rfl, by rw [← hlog, ← hlog']; rfl⟩
    | ok added =>
      refine .inr ⟨hparts.wired hwired, hparts.isOn _ ▸ hon, hready', ?_, written ++ [r], ?_, ?_⟩
      · rw [hparts.aggregate, haggregate, hd.aggregate]
      · -- the write has gone from those that wait to those that are written
        rw [hparts.waiting, hwaiting, List.append_assoc]
        exact (hmoved.append_left written).trans hperm
      · rw [hadded added rfl, hdb, hrows, List.append_assoc, ← List.map_append]
        exact congrArg (fun rs => _ ++ List.map Row.ofRecord rs) (fresh_written r hrows)

/-- The log only grows. -/
theorem log_pulse (k : Circuit) (h : Host) (p : Pulse) : h.log <+: (h.pulse k p).log := by
  cases p with
  | count e c now =>
    rw [pulse, Circuit.recorder, deliver]
    split <;> exact List.prefix_rfl
  | hand e c now =>
    rw [pulse, Circuit.persistence, deliver, bridgeEvent]
    split
    · exact List.prefix_rfl
    · split
      · exact List.prefix_rfl
      · dsimp only
        split
        · exact List.prefix_rfl
        · exact List.prefix_append _ _
  | finish i =>
    rw [pulse, finishWriteAt]
    cases h.bridges[k.bridge]? with
    | none => exact List.prefix_rfl
    | some b =>
      dsimp only
      split
      · next r backlog store _ _ =>
        have hlog := log_onStore { h with bridges := h.bridges.set k.bridge { b with backlog } }
          store fun s db => s.insert db r
        dsimp only at hlog ⊢
        split
        · -- only a write that fails adds a line
          next hok => rw [hok] at hlog; exact hlog ▸ List.prefix_rfl
        · next herror => rw [herror] at hlog; exact hlog ▸ List.prefix_append _ _
      · exact List.prefix_rfl

theorem log_pulses (k : Circuit) (h : Host) (ps : List Pulse) : h.log <+: (h.pulses k ps).log := by
  induction ps generalizing h with
  | nil => exact List.prefix_rfl
  | cons p ps ih => exact (log_pulse k h p).trans (ih (h.pulse k p))

/-- **What a pulse keeps**, unless it loses something. -/
theorem Delivered.pulse (hd : Delivered k h₀ counted handed h) (p : Pulse)
    (hl : Lossless h (h.pulse k p)) :
    Delivered k h₀ (counted ++ p.counted) (handed ++ p.handed) (h.pulse k p) := by
  -- a line about a loss would have been added to the log, and none was
  have hlost : ∀ loss : LogEntry, loss.isLoss = true → (h.pulse k p).log ≠ h.log ++ [loss] := by
    intro loss hloss hlog
    rw [hl.isLoss_eq hlog] at hloss
    cases hloss
  cases p with
  | count e c now =>
    rw [Pulse.handed, List.append_nil]
    exact hd.count e c now
  | hand e c now =>
    rw [Pulse.counted, List.append_nil]
    rcases hd.hand e c now with ⟨loss, hloss, hlog⟩ | hdelivered
    · exact absurd hlog (hlost loss hloss)
    · exact hdelivered
  | finish i =>
    rw [Pulse.counted, Pulse.handed, List.append_nil, List.append_nil]
    rcases hd.finish i with ⟨loss, hloss, hlog⟩ | hdelivered
    · exact absurd hlog (hlost loss hloss)
    · exact hdelivered

/-- **What a row of pulses keeps**, unless something is lost. -/
theorem Delivered.pulses (hd : Delivered k h₀ counted handed h) (ps : List Pulse)
    (hl : Lossless h (h.pulses k ps)) :
    Delivered k h₀ (counted ++ ps.flatMap Pulse.counted) (handed ++ ps.flatMap Pulse.handed)
      (h.pulses k ps) := by
  induction ps generalizing h counted handed with
  | nil => rwa [List.flatMap_nil, List.flatMap_nil, List.append_nil, List.append_nil]
  | cons p ps ih =>
    obtain ⟨hfirst, hrest⟩ := hl.split (log_pulse k h p) (log_pulses k (h.pulse k p) ps)
    rw [List.flatMap_cons, List.flatMap_cons, ← List.append_assoc, ← List.append_assoc]
    exact ih (hd.pulse p hfirst) hrest

end Host

end UsageLedger
