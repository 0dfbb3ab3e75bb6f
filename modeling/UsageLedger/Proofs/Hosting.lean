import UsageLedger.Host
import UsageLedger.Proofs.Serving

/-!
# The parts of a host

What an operation of one store does to the other parts of the host: it touches the database of that
store and of the stores that share it, and no bridge, aggregate, toggle or dispatcher.

## Main definitions

* `Host.databaseAt` — the database of the store with a number.
* `Host.SameParts` — two hosts that differ in stores, disk and log at most.
* `Host.waiting` — the records that a bridge has yet to write.

## Main results

* `Disk.database?_put` — what stands on a disk after a database was replaced.
* `Host.databaseAt_onStore` — an operation of a store reaches the database of a store only by
  replacing it.
* `Host.load_cases`, `Host.finishWriteAt_cases`, `Host.bridgeEvent_cases` — what reading,
  finishing a write and giving a bridge an event lead to.
* `Host.loadAndMerge_eq` — what restoring an aggregate comes to.
-/

namespace UsageLedger

namespace Disk

/-- What is found in a list of entries after the one at a location was replaced. -/
theorem lookup_map_replace (l : Location) (e : Entry) (entries : List (Location × Entry))
    (l' : Location) :
    (entries.map fun (k, old) => if k = l then (k, e) else (k, old)).lookup l' =
      if l' = l then (entries.lookup l).map fun _ => e else entries.lookup l' := by
  induction entries with
  | nil => by_cases hl : l' = l <;> simp [hl]
  | cons first rest ih =>
    obtain ⟨k, old⟩ := first
    rw [List.map_cons]
    -- the first entry of a location decides, and is itself replaced or not
    by_cases hk : k = l
    · subst hk
      by_cases hl : l' = k
      · simp [hl]
      · rw [if_neg hl] at ih
        simp [List.lookup_cons, hl, beq_eq_false_iff_ne.mpr hl, ih]
    · by_cases hl : l' = l
      · subst hl
        rw [if_pos rfl] at ih
        simp [List.lookup_cons, hk, beq_eq_false_iff_ne.mpr (Ne.symm hk), ih]
      · rw [if_neg hl] at ih
        simp [List.lookup_cons, hk, hl, ih]

/-- What stands at a location after an entry was put there. -/
theorem entry?_put (d : Disk) {l : Location} (hl : l ≠ []) (e : Entry) (l' : Location) :
    Disk.entry? (d.put l e) l' = if l' = l then some e else d.entry? l' := by
  have hroot : l.isEmpty = false := by simpa using hl
  unfold entry? put
  by_cases hempty : l' = []
  · subst hempty
    simp [Ne.symm hl]
  · have hempty' : l'.isEmpty = false := by simpa using hempty
    rw [hempty']
    by_cases hany : d.entries.any (fun (k, _) => k == l) = true
    · -- the entry is there, and is found where it stood
      have hfound : ∃ old, d.entries.lookup l = some old := by
        rw [← Option.isSome_iff_exists, Option.isSome_iff_ne_none, ne_eq, List.lookup_eq_none_iff]
        intro hnone
        obtain ⟨⟨k, old⟩, hmem, hk⟩ := List.any_eq_true.mp hany
        have hne := hnone _ hmem
        simp_all
      obtain ⟨old, hold⟩ := hfound
      rw [if_pos hany]
      simp [lookup_map_replace, hold]
    · have hnone : d.entries.lookup l = none := by
        rw [List.lookup_eq_none_iff]
        rintro ⟨k, old⟩ hp
        have hall : ∀ x, (l, x) ∉ d.entries := by simpa using hany
        rw [bne_iff_ne]
        rintro rfl
        exact hall old hp
      rw [if_neg hany]
      by_cases hl' : l' = l
      · subst hl'
        simp [List.lookup_append, hnone]
      · simp [List.lookup_append, hl', List.lookup_cons, beq_eq_false_iff_ne.mpr hl']

theorem ne_nil_of_database? {d : Disk} {l : Location} {db : Database}
    (h : d.database? l = some db) : l ≠ [] := by
  rintro rfl
  simp [database?, entry?] at h

/-- The databases on a disk after one of them was replaced. -/
theorem database?_put {d : Disk} {l : Location} {db : Database} (h : d.database? l = some db)
    (db' : Database) (l' : Location) :
    (d.put l (.database db')).database? l' = if l' = l then some db' else d.database? l' := by
  rw [database?, entry?_put d (ne_nil_of_database? h), database?]
  by_cases hl : l' = l <;> simp [hl]

end Disk

namespace Host

/-- The database of the store with a number. -/
def databaseAt (h : Host) (id : Nat) : Database :=
  match h.stores[id]? with
  | some held => h.databaseOf held
  | none => .blank

/-- Two hosts that differ in stores, disk and log at most. -/
structure SameParts (h h' : Host) : Prop where
  /-- The toggles are the same. -/
  toggles : h'.toggles = h.toggles
  /-- The aggregates are the same. -/
  aggregates : h'.aggregates = h.aggregates
  /-- The bridges are the same. -/
  bridges : h'.bridges = h.bridges
  /-- The dispatchers are the same. -/
  dispatchers : h'.dispatchers = h.dispatchers

theorem SameParts.trans {h h' h'' : Host} (hp : h.SameParts h') (hp' : h'.SameParts h'') :
    h.SameParts h'' :=
  ⟨hp'.toggles.trans hp.toggles, hp'.aggregates.trans hp.aggregates, hp'.bridges.trans hp.bridges,
    hp'.dispatchers.trans hp.dispatchers⟩

theorem SameParts.isOn {h h' : Host} (hp : h.SameParts h') (toggle : Nat) :
    h'.isOn toggle = h.isOn toggle := by
  rw [Host.isOn, Host.isOn, hp.toggles]

theorem SameParts.aggregate {h h' : Host} (hp : h.SameParts h') (id : Nat) :
    h'.aggregate id = h.aggregate id := by
  rw [Host.aggregate, Host.aggregate, hp.aggregates]

theorem sameParts_note (h : Host) (e : LogEntry) : h.SameParts (h.note e) :=
  ⟨rfl, rfl, rfl, rfl⟩

variable {α : Type}

theorem sameParts_onStore (h : Host) (id : Nat) (op : Store → Database → Outcome α) :
    h.SameParts (h.onStore id op).2 := by
  rw [onStore]
  split
  · exact ⟨rfl, rfl, rfl, rfl⟩
  · dsimp only
    split <;> exact ⟨rfl, rfl, rfl, rfl⟩

/-- The database of a store after one of the databases on the disk was replaced. -/
theorem databaseOf_put {h h' : Host} {l : Location} {db db' : Database}
    (hdb : h.disk.database? l = some db) (hdisk : h'.disk = h.disk.put l (.database db'))
    (held : Held) :
    h'.databaseOf held = if held.place = some l then db' else h.databaseOf held := by
  rw [databaseOf, databaseOf]
  cases held.place with
  | none => simp
  | some l' =>
    dsimp only
    rw [hdisk, Disk.database?_put hdb]
    by_cases hl : l' = l <;> simp [hl]

section OnStore

variable {h : Host} {id : Nat} {held : Held} {l : Location}

theorem databaseAt_of_get (hget : h.stores[id]? = some held) :
    h.databaseAt id = h.databaseOf held := by
  rw [databaseAt, hget]

/-- A store that has its database to itself. -/
theorem databaseAt_onStore_of_own (hget : h.stores[id]? = some held)
    (hplace : held.place = none) (op : Store → Database → Outcome α) (id' : Nat) :
    (h.onStore id op).2.databaseAt id' =
      if id = id' then (op held.store (h.databaseAt id)).database else h.databaseAt id' := by
  have hlt := (List.getElem?_eq_some_iff.mp hget).1
  simp only [onStore, hget, hplace]
  split
  · next hid =>
    subst hid
    rw [databaseAt_of_get hget]
    simp [databaseAt, hlt, databaseOf, hplace]
  · next hid => simp [databaseAt, hid, databaseOf]

/-- A store over a file that is gone. -/
theorem databaseAt_onStore_of_gone (hget : h.stores[id]? = some held)
    (hplace : held.place = some l) (hdb : h.disk.database? l = none)
    (op : Store → Database → Outcome α) (id' : Nat) :
    (h.onStore id op).2.databaseAt id' = h.databaseAt id' := by
  have hlt := (List.getElem?_eq_some_iff.mp hget).1
  simp only [onStore, hget, hplace, hdb]
  by_cases hid : id = id'
  · subst hid
    rw [databaseAt_of_get hget]
    simp [databaseAt, hlt, databaseOf, hplace]
  · simp [databaseAt, hid, databaseOf]

/-- A store over a file, which may be that of other stores as well. -/
theorem databaseAt_onStore_of_file (hget : h.stores[id]? = some held)
    (hplace : held.place = some l) {db : Database} (hdb : h.disk.database? l = some db)
    (op : Store → Database → Outcome α) (id' : Nat) :
    (h.onStore id op).2.databaseAt id' = h.databaseAt id' ∨
      h.databaseAt id' = h.databaseAt id ∧
        (h.onStore id op).2.databaseAt id' = (op held.store (h.databaseAt id)).database := by
  have hat := databaseAt_of_get hget
  have hlt := (List.getElem?_eq_some_iff.mp hget).1
  have hput : ∀ held', (h.onStore id op).2.databaseOf held' =
      if held'.place = some l then (op held.store (h.databaseOf held)).database
      else h.databaseOf held' :=
    databaseOf_put hdb (by simp only [onStore, hget, hplace, hdb])
  have hstores : (h.onStore id op).2.stores =
      h.stores.set id { held with store := (op held.store (h.databaseOf held)).store } := by
    simp only [onStore, hget, hplace]
  rw [hat, databaseAt, hstores]
  by_cases hid : id = id'
  · subst hid
    right
    refine ⟨hat, ?_⟩
    simp [hlt, hput, hplace]
  · rw [List.getElem?_set_ne hid, databaseAt]
    cases hget' : h.stores[id']? with
    | none =>
      left
      rfl
    | some held' =>
      dsimp only
      rw [hput held']
      split
      · next hsame =>
        right
        refine ⟨?_, rfl⟩
        rw [databaseOf, databaseOf, hsame, hplace]
      · left
        rfl

end OnStore

/-- **An operation of a store** reaches the database of a store only by replacing it. -/
theorem databaseAt_onStore (h : Host) (id : Nat) (op : Store → Database → Outcome α) (id' : Nat) :
    (h.onStore id op).2.databaseAt id' = h.databaseAt id' ∨
      ∃ st, h.databaseAt id' = h.databaseAt id ∧
        (h.onStore id op).2.databaseAt id' = (op st (h.databaseAt id)).database := by
  cases hget : h.stores[id]? with
  | none =>
    left
    rw [onStore, hget]
  | some held =>
    cases hplace : held.place with
    | none =>
      rw [databaseAt_onStore_of_own hget hplace]
      split
      · next hid => exact .inr ⟨held.store, hid ▸ rfl, rfl⟩
      · exact .inl rfl
    | some l =>
      cases hdb : h.disk.database? l with
      | none => exact .inl (databaseAt_onStore_of_gone hget hplace hdb op id')
      | some db =>
        rcases databaseAt_onStore_of_file hget hplace hdb op id' with hsame | hreplaced
        · exact .inl hsame
        · exact .inr ⟨held.store, hreplaced⟩

theorem answer_onStore {h : Host} {id : Nat} {held : Held} (hget : h.stores[id]? = some held)
    (op : Store → Database → Outcome α) :
    (h.onStore id op).1 = (op held.store (h.databaseAt id)).answer := by
  rw [onStore, databaseAt, hget]
  dsimp only
  split <;> rfl

theorem rows_onStore_of_not_writes (h : Host) (id : Nat) {call : Call} (hc : call.writes = false)
    (id' : Nat) :
    ((h.onStore id fun s db => s.serve db call).2.databaseAt id').rows =
      (h.databaseAt id').rows := by
  rcases databaseAt_onStore h id (fun s db => s.serve db call) id' with heq | ⟨st, hsame, heq⟩
  · rw [heq]
  · rw [heq, hsame]
    exact Store.rows_serve_of_not_writes st _ hc

/-! ### Reading from a store -/

/-- **What reading from a store leads to**: nothing but stores and log can change, and what is
found is what the rows hold. -/
theorem load_cases (h : Host) (id : Nat) (i : Interruption) :
    ∃ h', h.SameParts h' ∧ (∀ id', (h'.databaseAt id').rows = (h.databaseAt id').rows) ∧
      ((∃ e, h.load id i = (.error e, h')) ∨
        ∃ found, Store.readRows i (h.databaseAt id) = .ok found ∧
          h.load id i = (.ok found.snapshot, h')) := by
  have hparts := sameParts_onStore h id fun s db => s.load db i
  have hrows : ∀ id', ((h.onStore id fun s db => s.load db i).2.databaseAt id').rows =
      (h.databaseAt id').rows := by
    intro id'
    rcases databaseAt_onStore h id (fun s db => s.load db i) id' with heq | ⟨st, hsame, heq⟩
    · rw [heq]
    · rw [heq, hsame, Store.database_load]
  have hanswer : ∀ found, (h.onStore id fun s db => s.load db i).1 = .ok found →
      Store.readRows i (h.databaseAt id) = .ok found := by
    intro found hok
    cases hget : h.stores[id]? with
    | none => simp [onStore, hget] at hok
    | some held =>
      rw [answer_onStore hget] at hok
      exact Store.readRows_of_load hok
  rw [load]
  generalize (h.onStore id fun s db => s.load db i) = p at *
  obtain ⟨answer, h'⟩ := p
  cases answer with
  | error e => exact ⟨h', hparts, hrows, .inl ⟨e, rfl⟩⟩
  | ok found =>
    have hread := hanswer found rfl
    -- rows that were skipped leave a line in the log, which changes no part that matters here
    by_cases hskipped : found.skipped = 0
    · exact ⟨h', hparts, hrows, .inr ⟨found, hread, by simp [hskipped]⟩⟩
    · exact ⟨h'.note (.rowsSkipped found.skipped), hparts.trans (sameParts_note _ _), hrows,
        .inr ⟨found, hread, by simp [hskipped]⟩⟩

theorem answer_load (h : Host) (id : Nat) (i : Interruption) :
    (h.load id i).1 = (h.onStore id fun s db => s.load db i).1.map (·.snapshot) := by
  rw [load]
  generalize (h.onStore id fun s db => s.load db i) = read
  obtain ⟨answer, h'⟩ := read
  cases answer <;> rfl

theorem load_ok {h : Host} {id : Nat} {held : Held} {c : Connection}
    (hget : h.stores[id]? = some held) (hr : held.store.ready? = some c)
    (hs : (h.databaseAt id).shape = .ledger) {found : Store.Loaded}
    (hread : Store.readRows .never (h.databaseAt id) = .ok found) :
    ∃ h', h.load id .never = (.ok found.snapshot, h') := by
  have hanswer := answer_onStore hget fun s db => s.load db .never
  rw [Store.load_of_readRows hr hs hread] at hanswer
  refine ⟨(h.load id .never).2, Prod.ext ?_ rfl⟩
  rw [answer_load, hanswer]
  rfl

theorem sameParts_load (h : Host) (id : Nat) (i : Interruption) : h.SameParts (h.load id i).2 := by
  obtain ⟨h', hparts, -, ⟨e, hload⟩ | ⟨found, -, hload⟩⟩ := load_cases h id i <;>
  · rw [hload]
    exact hparts

theorem readRows_of_load {h : Host} {id : Nat} {i : Interruption} {snapshot : Snapshot}
    (hload : (h.load id i).1 = .ok snapshot) :
    ∃ found, Store.readRows i (h.databaseAt id) = .ok found ∧ snapshot = found.snapshot := by
  obtain ⟨h', -, -, ⟨e, herror⟩ | ⟨found, hread, hok⟩⟩ := load_cases h id i
  · rw [herror] at hload
    cases hload
  · rw [hok] at hload
    exact ⟨found, hread, (Except.ok.inj hload).symm⟩

/-! ### Restoring an aggregate -/

theorem loadAndMerge_eq_or (h : Host) (id : Nat) :
    h.loadAndMerge id = (.ok none, h) ∨
      ∃ b store aggregate, h.bridges[id]? = some b ∧ b.store = some store ∧
        b.aggregate = some aggregate := by
  rw [loadAndMerge]
  split
  · next hb => exact .inr ⟨_, _, _, hb, rfl, rfl⟩
  · exact .inl rfl

/-- **Restoring the aggregate of a bridge**: the store is loaded, and if that succeeds the
aggregate takes in what was found. -/
theorem loadAndMerge_eq {h : Host} {id : Nat} {b : Bridge} {store aggregate : Nat}
    (hb : h.bridges[id]? = some b) (hstore : b.store = some store)
    (haggregate : b.aggregate = some aggregate) :
    h.loadAndMerge id =
      match (h.load store .never).1 with
      | .error e => (.error e, (h.load store .never).2)
      | .ok snapshot =>
        (.ok (some ((h.aggregate aggregate).merge snapshot).2),
          (h.load store .never).2.setAggregate aggregate
            ((h.aggregate aggregate).merge snapshot).1) := by
  obtain ⟨store?, aggregate?, toggle, backlog⟩ := b
  obtain rfl : store? = some store := hstore
  obtain rfl : aggregate? = some aggregate := haggregate
  have hparts := h.sameParts_load store .never
  rw [loadAndMerge, hb]
  dsimp only
  generalize h.load store .never = found at hparts
  obtain ⟨answer, h'⟩ := found
  cases answer with
  | error e => rfl
  | ok snapshot => simp only [hparts.aggregate]

/-! ### The writes of a bridge -/

/-- The records whose writes are not finished. -/
def waiting (h : Host) (bridge : Nat) : List Record :=
  match h.bridges[bridge]? with
  | some b => b.backlog.waiting
  | none => []

/-- **What finishing a write leads to**: the write is one of those that were waiting, and if it
adds a row it is that of its record. -/
theorem finishWriteAt_cases (h : Host) (id i : Nat) :
    h.finishWriteAt id i = h ∨
      ∃ b r backlog, h.bridges[id]? = some b ∧ b.backlog.finish? i = some (r, backlog) ∧
        SameParts { h with bridges := h.bridges.set id { b with backlog } } (h.finishWriteAt id i) ∧
        ∀ id' row, row ∈ ((h.finishWriteAt id i).databaseAt id').rows →
          row ∈ (h.databaseAt id').rows ∨ row = Row.ofRecord r := by
  rw [finishWriteAt]
  cases hb : h.bridges[id]? with
  | none => exact .inl rfl
  | some b =>
    obtain ⟨store?, aggregate, toggle, backlog₀⟩ := b
    dsimp only
    cases hfinish : backlog₀.finish? i with
    | none => exact .inl rfl
    | some p =>
      obtain ⟨r, backlog⟩ := p
      cases store? with
      | none => exact .inl rfl
      | some store =>
        refine .inr ⟨_, r, backlog, rfl, hfinish, ?_⟩
        dsimp only
        generalize hh₀ : ({ h with
          bridges := h.bridges.set id ⟨some store, aggregate, toggle, backlog⟩ } : Host) = h₀
        have hparts := sameParts_onStore h₀ store fun s db => s.insert db r
        have hrows : ∀ id' row,
            row ∈ ((h₀.onStore store fun s db => s.insert db r).2.databaseAt id').rows →
            row ∈ (h.databaseAt id').rows ∨ row = Row.ofRecord r := by
          intro id' row hrow
          -- taking the record out of the backlog does not touch a database
          have hbefore : h₀.databaseAt id' = h.databaseAt id' := by rw [← hh₀]; rfl
          rw [← hbefore]
          rcases databaseAt_onStore h₀ store (fun s db => s.insert db r) id' with
            heq | ⟨st, hsame, heq⟩
          · rw [heq] at hrow
            exact .inl hrow
          · rw [heq] at hrow
            rw [hsame]
            exact Store.mem_rows_insert hrow
        generalize (h₀.onStore store fun s db => s.insert db r) = p at *
        obtain ⟨answer, h'⟩ := p
        cases answer with
        | ok added => exact ⟨hparts, hrows⟩
        | error e => exact ⟨hparts.trans (sameParts_note _ _), hrows⟩

/-- **What giving a bridge an event leads to**: its record may have to be written, if the toggle
is on. -/
theorem bridgeEvent_cases (h : Host) (id : Nat) (e : Event) (c : Context) (now : Instant) :
    h.bridgeEvent id e c now = h ∨
      ∃ b backlog, h.bridges[id]? = some b ∧ h.isOn b.toggle = true ∧
        (∀ r ∈ backlog.waiting, r ∈ b.backlog.waiting ∨ r = e.normalize c now) ∧
        SameParts { h with bridges := h.bridges.set id { b with backlog } }
          (h.bridgeEvent id e c now) ∧
        ∀ id', (h.bridgeEvent id e c now).databaseAt id' = h.databaseAt id' := by
  rw [bridgeEvent]
  cases hb : h.bridges[id]? with
  | none => exact .inl rfl
  | some b =>
    dsimp only
    by_cases hskip : (b.store.isNone || !h.isOn b.toggle) = true
    · exact .inl (by rw [if_pos hskip])
    · have hon : h.isOn b.toggle = true := by simp_all
      rw [if_neg hskip]
      refine .inr ⟨b, (b.backlog.offer (e.normalize c now)).2, rfl, hon, ?_, ?_⟩
      · -- there is room and the record waits with the others, or there is none and it is
        -- dropped
        rw [Backlog.offer]
        split <;> simp_all
      · split
        · exact ⟨⟨rfl, rfl, rfl, rfl⟩, fun _ => rfl⟩
        · exact ⟨⟨rfl, rfl, rfl, rfl⟩, fun _ => rfl⟩

end Host

end UsageLedger
