import UsageLedger.Proofs.BridgeMoves
import UsageLedger.Proofs.Lifecycle
import UsageLedger.Proofs.MergeOrder

/-!
# Runs of a host

On a host anything may happen in any order: events are published to any dispatcher or given to a
single handler, writes are finished, aggregates are restored, count records and take over
snapshots, toggles are turned, stores are opened and asked for things, and other users are at
work on files.

What happens is seen from two sides.  Aggregates and bridges see that aggregates take in one
thing after the other and that backlogs change, and nothing else.  Stores and files see
operations of stores and the acts of other users: a write that is finished is a request to
insert, and a restore is a request to load.  What events do is known from their parts, because
publishing goes on by giving an event to a handler and by finishing writes.

## Main definitions

* `Activity`, `Host.act`, `Host.actAll` — what happens on a host, and what it makes of it.
* `Host.Later` — aggregates took in something, and bridges have other backlogs, at most.
* `Host.Reads` — a store can be read from and written to.

## Main results

* `Host.publish_induction` — what giving events to handlers and finishing writes keep,
  publishing keeps.
* `Host.later_act`, `Host.later_actAll` — **aggregates only take in, and bridges keep their parts.**
* `Host.sameStorage_finishWriteAt`, `Host.sameStorage_loadAndMerge` — what they are to stores
  and files.
* `Host.Reads.actAll` — **a store that can be read from stays so**, unless it is closed.
-/

namespace UsageLedger

/-- Something that happens on a host. -/
inductive Activity where
  /-- An event is published to a dispatcher. -/
  | publish (dispatcher : Nat) (e : Event) (c : Context) (now : Instant)
  /-- A handler is given an event. -/
  | deliver (handler : Handler) (e : Event) (c : Context) (now : Instant)
  /-- The write of a bridge with a number is finished. -/
  | finish (bridge i : Nat)
  /-- An aggregate is restored from the store of its bridge. -/
  | restore (bridge : Nat)
  /-- An aggregate takes in a record or a snapshot. -/
  | take (aggregate : Nat) (intake : Intake)
  /-- A toggle is turned. -/
  | toggle (number : Nat) (enabled : Bool)
  /-- Something is done with stores. -/
  | operate (op : Operation)
  /-- Another user of a file does something to it. -/
  | disturb (l : Location) (act : Outside)

namespace Host

/-- What an activity makes of a host. -/
def act (h : Host) : Activity → Host
  | .publish dispatcher e c now => h.publish dispatcher e c now
  | .deliver handler e c now => h.deliver handler e c now
  | .finish bridge i => h.finishWriteAt bridge i
  | .restore bridge => (h.loadAndMerge bridge).2
  | .take aggregate intake => h.setAggregate aggregate ((h.aggregate aggregate).take intake)
  | .toggle number enabled => h.setToggle number enabled
  | .operate op => h.operate op
  | .disturb l act => h.disturb l act

/-- What activities make of a host, one after the other. -/
def actAll (h : Host) (xs : List Activity) : Host :=
  xs.foldl act h

variable {h h' h'' : Host} {id : Nat}

/-! ### Publishing in its parts -/

section

variable {P : Host → Prop}

/-- What finishing a write keeps, finishing all writes that need not wait keeps. -/
theorem settle_induction (hfinish : ∀ h id i, P h → P (h.finishWriteAt id i)) (hP : P h) :
    P h.settle := by
  have hwrites : ∀ (n : Nat) (id : Nat) (h : Host), P h → P (h.finishWrites id n) := by
    intro n id
    induction n with
    | zero => exact fun h hP => hP
    | succ n ih => exact fun h hP => ih _ (hfinish h id 0 hP)
  rw [settle]
  -- the bridges are taken in turn, whichever they are
  generalize List.range h.bridges.length = ids
  induction ids generalizing h with
  | nil => exact hP
  | cons id ids ih =>
    refine ih ?_
    dsimp only
    split
    · split
      · exact hP
      · rw [flush]
        split
        · exact hP
        · exact hwrites _ id h hP
    · exact hP

/-- **What giving an event to a handler keeps, and finishing a write, publishing the event
keeps.** -/
theorem publish_induction {e : Event} {c : Context} {now : Instant}
    (hdeliver : ∀ h handler, P h → P (h.deliver handler (e.stamp now) c now))
    (hfinish : ∀ h id i, P h → P (h.finishWriteAt id i)) (id : Nat) (hP : P h) :
    P (h.publish id e c now) := by
  rw [publish]
  generalize h.dispatchers.getD id [] = handlers
  induction handlers generalizing h with
  | nil => exact hP
  | cons handler handlers ih =>
    refine ih ?_
    have hgiven := hdeliver h handler hP
    cases handler with
    | persistence bridge => exact settle_induction hfinish hgiven
    | recorder aggregate toggle => exact hgiven
    | probe number => exact hgiven

end

/-! ### Aggregates and bridges -/

/-- A host that comes from another one: its aggregates took in something, and its bridges have
other backlogs, at most. -/
structure Later (h h' : Host) : Prop where
  /-- The aggregates are there. -/
  length : h'.aggregates.length = h.aggregates.length
  /-- What they hold is what they held and what they took in. -/
  took : ∀ id, ∃ intakes, h'.aggregate id = (h.aggregate id).takeAll intakes
  /-- The bridges are there, and work with what they worked with. -/
  bridges : ∀ (id : Nat) (b : Bridge), h.bridges[id]? = some b →
    ∃ backlog, h'.bridges[id]? = some { b with backlog }

theorem SameParts.later (hp : h.SameParts h') : h.Later h' where
  length := congrArg List.length hp.aggregates
  took := fun id => ⟨[], hp.aggregate id⟩
  bridges := fun _ b hb => ⟨b.backlog, hp.bridges ▸ hb⟩

theorem Later.refl (h : Host) : h.Later h :=
  SameParts.later ⟨rfl, rfl, rfl, rfl⟩

theorem Later.trans (hl : h.Later h') (hl' : h'.Later h'') : h.Later h'' where
  length := hl'.length.trans hl.length
  took := by
    intro id
    obtain ⟨first, hfirst⟩ := hl.took id
    obtain ⟨second, hsecond⟩ := hl'.took id
    refine ⟨first ++ second, ?_⟩
    rw [hsecond, hfirst, Snapshot.takeAll, Snapshot.takeAll, Snapshot.takeAll, List.foldl_append]
  bridges := by
    intro id b hb
    obtain ⟨backlog, hb'⟩ := hl.bridges id b hb
    obtain ⟨backlog', hb''⟩ := hl'.bridges id _ hb'
    exact ⟨backlog', hb''⟩

/-- **Aggregates forget nothing.** -/
theorem Later.knows (hl : h.Later h') {r : Record} (hr : (h.aggregate id).Knows r) :
    (h'.aggregate id).Knows r := by
  obtain ⟨intakes, htook⟩ := hl.took id
  rw [htook]
  exact hr.takeAll intakes

theorem aggregate_setAggregate_eq (h : Host) (id : Nat) (s : Snapshot) (id' : Nat) :
    (h.setAggregate id s).aggregate id' =
      if id = id' ∧ id < h.aggregates.length then s else h.aggregate id' := by
  rw [aggregate, setAggregate, aggregate, List.getD_eq_getElem?_getD, List.getD_eq_getElem?_getD,
    List.getElem?_set]
  by_cases hid : id = id'
  · subst hid
    by_cases hlt : id < h.aggregates.length <;> simp [hlt]
  · simp [hid]

theorem later_take (h : Host) (id : Nat) (intake : Intake) :
    h.Later (h.setAggregate id ((h.aggregate id).take intake)) where
  length := List.length_set
  took := by
    intro id'
    rw [aggregate_setAggregate_eq]
    split
    · next hid =>
      obtain ⟨rfl, -⟩ := hid
      exact ⟨[intake], rfl⟩
    · exact ⟨[], rfl⟩
  bridges := fun id b hb => ⟨b.backlog, hb⟩

theorem later_setBacklog {b : Bridge} (hb : h.bridges[id]? = some b) (backlog : Backlog) :
    h.Later { h with bridges := h.bridges.set id { b with backlog } } where
  length := rfl
  took := fun _ => ⟨[], rfl⟩
  bridges := by
    intro id' b' hb'
    dsimp only
    rw [List.getElem?_set]
    by_cases hid : id = id'
    · subst hid
      obtain rfl : b = b' := Option.some.inj (hb.symm.trans hb')
      exact ⟨backlog, by rw [if_pos rfl, if_pos (List.getElem?_eq_some_iff.mp hb).1]⟩
    · exact ⟨b'.backlog, by rw [if_neg hid, hb']⟩

theorem later_deliver (h : Host) (handler : Handler) (e : Event) (c : Context) (now : Instant) :
    h.Later (h.deliver handler e c now) := by
  cases handler with
  | persistence bridge =>
    rw [deliver]
    rcases bridgeEvent_cases h bridge e c now with heq | ⟨b, backlog, hb, -, -, hparts, -⟩
    · rw [heq]
      exact .refl h
    · exact (later_setBacklog hb backlog).trans hparts.later
  | recorder aggregate toggle =>
    rw [deliver]
    split
    · exact h.later_take aggregate (.record (e.normalize c now))
    · exact .refl h
  | probe number => exact SameParts.later ⟨rfl, rfl, rfl, rfl⟩

theorem later_finishWriteAt (h : Host) (id i : Nat) : h.Later (h.finishWriteAt id i) := by
  rcases finishWriteAt_cases h id i with heq | ⟨b, r, backlog, hb, -, hparts, -⟩
  · rw [heq]
    exact .refl h
  · exact (later_setBacklog hb backlog).trans hparts.later

/-! ### Restoring -/

theorem later_loadAndMerge (h : Host) (id : Nat) : h.Later (h.loadAndMerge id).2 := by
  rcases h.loadAndMerge_eq_or id with heq | ⟨b, store, aggregate, hb, hstore, haggregate⟩
  · rw [heq]
    exact .refl h
  · have hload := h.sameParts_load store .never
    rw [loadAndMerge_eq hb hstore haggregate]
    cases (h.load store .never).1 with
    | error e => exact hload.later
    | ok snapshot =>
      have htaken := later_take (h.load store .never).2 aggregate (.merge snapshot)
      rw [hload.aggregate] at htaken
      exact hload.later.trans htaken

/-! ### Any activity -/

/-- What is done with stores changes no other part. -/
theorem sameParts_operate (h : Host) (op : Operation) : h.SameParts (h.operate op) := by
  cases op with
  | openFile path busyTimeout =>
    rw [operate, openStore]
    split <;> exact ⟨rfl, rfl, rfl, rfl⟩
  | openPrivate => exact ⟨rfl, rfl, rfl, rfl⟩
  | unconnected => exact ⟨rfl, rfl, rfl, rfl⟩
  | ask id call =>
    cases call with
    | load i => exact h.sameParts_load id i
    | close => exact ⟨rfl, rfl, rfl, rfl⟩
    | _ => exact sameParts_onStore h id fun s db => s.serve db _

/-- **Whatever happens, aggregates only take in, and bridges keep their parts.** -/
theorem later_act (h : Host) (x : Activity) : h.Later (h.act x) := by
  cases x with
  | publish dispatcher e c now =>
    exact publish_induction (P := h.Later)
      (fun h' handler hl => hl.trans (h'.later_deliver handler _ c now))
      (fun h' id i hl => hl.trans (h'.later_finishWriteAt id i)) dispatcher (.refl h)
  | deliver handler e c now => exact h.later_deliver handler e c now
  | finish bridge i => exact h.later_finishWriteAt bridge i
  | restore bridge => exact h.later_loadAndMerge bridge
  | take aggregate intake => exact h.later_take aggregate intake
  | toggle number enabled => exact ⟨rfl, fun _ => ⟨[], rfl⟩, fun _ b hb => ⟨b.backlog, hb⟩⟩
  | operate op => exact (h.sameParts_operate op).later
  | disturb l act => exact (sameParts_disturb h l act).later

/-- However much happens, aggregates only take in, and bridges keep their parts. -/
theorem later_actAll (h : Host) (xs : List Activity) : h.Later (h.actAll xs) := by
  induction xs generalizing h with
  | nil => exact .refl h
  | cons x xs ih => exact (h.later_act x).trans (ih (h.act x))

/-! ### Stores and files -/

/-- Giving an event to a handler touches neither stores nor files. -/
theorem sameStorage_deliver (h : Host) (handler : Handler) (e : Event) (c : Context)
    (now : Instant) :
    h.SameStorage (h.deliver handler e c now) := by
  cases handler with
  | persistence bridge =>
    rw [deliver]
    cases hon : h.listens bridge with
    | false =>
      rw [bridgeEvent_of_not_listens hon]
      exact .refl h
    | true =>
      cases hb : h.bridges[bridge]? with
      | none => simp [listens, hb] at hon
      | some b =>
        obtain ⟨log, hevent⟩ := bridgeEvent_of_listens hb hon e c now
        rw [hevent]
        exact ⟨rfl, rfl⟩
  -- aggregates and probes are no part of the storage
  | recorder aggregate toggle =>
    rw [deliver]
    split <;> exact ⟨rfl, rfl⟩
  | probe number => exact ⟨rfl, rfl⟩

/-- **To stores and files a write that is finished is a request to insert its record**, if
anything. -/
theorem sameStorage_finishWriteAt (h : Host) (id i : Nat) :
    h.SameStorage (h.finishWriteAt id i) ∨
      ∃ store, ∃ r ∈ h.waiting id, (h.operate (.ask store (.insert r))).SameStorage
        (h.finishWriteAt id i) := by
  cases hb : h.bridges[id]? with
  | none =>
    rw [finishWriteAt, hb]
    exact .inl (.refl h)
  | some b =>
    cases hstore : b.store with
    | none =>
      obtain ⟨store?, aggregate, toggle, backlog⟩ := b
      obtain rfl : store? = none := hstore
      left
      rw [finishWriteAt, hb]
      dsimp only
      cases backlog.finish? i <;> exact .refl h
    | some store =>
      -- with a store, finishing is an insert of the record that waits at the index, if there is
      -- one
      have hworld := HasBridge.sameStorage_bridgeStep ⟨b, hb, hstore, rfl⟩ (.finish i)
      rw [bridgeStep] at hworld
      cases hget : (h.waiting id)[i]? with
      | none =>
        have hnone : BridgeStep.storageMoves id store ⟨h, .finish i⟩ = [] := by
          simp [BridgeStep.storageMoves, BridgeStep.written, hget]
        rw [hnone] at hworld
        exact .inl hworld
      | some r =>
        have hone : BridgeStep.storageMoves id store ⟨h, .finish i⟩ = [.ask store (.insert r)] := by
          simp [BridgeStep.storageMoves, BridgeStep.written, hget]
        rw [hone] at hworld
        exact .inr ⟨store, r, List.mem_of_getElem? hget, hworld⟩

/-- **To stores and files a restore is a request to load**, if anything. -/
theorem sameStorage_loadAndMerge (h : Host) (id : Nat) :
    h.SameStorage (h.loadAndMerge id).2 ∨
      ∃ store, (h.operate (.ask store (.load .never))).SameStorage (h.loadAndMerge id).2 := by
  rcases h.loadAndMerge_eq_or id with heq | ⟨b, store, aggregate, hb, hstore, haggregate⟩
  · rw [heq]
    exact .inl (.refl h)
  · refine .inr ⟨store, ?_⟩
    rw [loadAndMerge_eq hb hstore haggregate]
    cases (h.load store .never).1 with
    | error e => exact .refl _
    | ok snapshot => exact ⟨rfl, rfl⟩

/-! ### Rows on shelves -/

variable {shelf : Shelf} {row : Row}

theorem SameStorage.rowsOn (hw : h.SameStorage h') (shelf : Shelf) :
    h'.rowsOn shelf = h.rowsOn shelf := by
  cases shelf with
  | file l => rw [Host.rowsOn, Host.rowsOn, hw.disk]
  | own id => rw [Host.rowsOn, Host.rowsOn, hw.stores]

theorem SameStorage.databaseAt (hw : h.SameStorage h') (id : Nat) :
    h'.databaseAt id = h.databaseAt id := by
  rw [Host.databaseAt, Host.databaseAt, hw.stores]
  cases h.stores[id]? with
  | none => rfl
  | some held =>
    dsimp only
    rw [databaseOf, databaseOf, hw.disk]

/-- Rows of a store that was replaced with its database are those of the new one, or were there. -/
theorem Replaced.mem_rowsOn {held : Held} {s : Store} {db : Database}
    (hr : Replaced h id held s db h') (hget : h.stores[id]? = some held)
    (hrow : row ∈ h'.rowsOn shelf) :
    row ∈ h.rowsOn shelf ∨ held.shelf id = shelf ∧ row ∈ db.rows := by
  by_cases hshelf : held.shelf id = shelf
  · subst hshelf
    cases hplace : held.place with
    | none =>
      have hown : held.shelf id = .own id := shelf_eq_own.mpr ⟨hplace, rfl⟩
      rw [hown, Host.rowsOn, hr.stores,
        List.getElem?_set_self (List.getElem?_eq_some_iff.mp hget).1] at hrow
      dsimp only at hrow
      rw [if_pos hplace] at hrow
      exact .inr ⟨rfl, hrow⟩
    | some l =>
      have hfile : held.shelf id = .file l := shelf_eq_file.mpr hplace
      rw [hfile, Host.rowsOn, Disk.rowsAt, hr.entries] at hrow
      split at hrow
      · -- the file is there, and holds what the request has left
        next hentry =>
        split at hentry
        · cases hentry
          exact .inr ⟨rfl, hrow⟩
        · rw [hfile, Host.rowsOn, Disk.rowsAt, hentry]
          exact .inl hrow
      · cases hrow
  · exact .inl (hr.rowsOn_other hget hshelf ▸ hrow)

/-- **What a request to insert puts on a shelf** is the row of its record, if anything. -/
theorem mem_rowsOn_insert {r : Record}
    (hrow : row ∈ (h.operate (.ask id (.insert r))).rowsOn shelf) :
    row ∈ h.rowsOn shelf ∨ row = Row.ofRecord r := by
  cases hget : h.stores[id]? with
  | none =>
    obtain ⟨hstores, hdisk⟩ := request_of_missing hget (.insert r)
    exact .inl (SameStorage.rowsOn ⟨hstores, hdisk⟩ shelf ▸ hrow)
  | some held =>
    rcases (replaced_request hget (.insert r)).2.mem_rowsOn hget hrow with hold | ⟨rfl, hnew⟩
    · exact .inl hold
    · rw [← rows_databaseOf hget]
      rw [Store.serve] at hnew
      exact Store.mem_rows_insert hnew

/-- What is done with stores puts no row on a shelf, unless a store is asked to write. -/
theorem mem_rowsOn_operate {op : Operation}
    (hop : ∀ id call, op = .ask id call → call.writes = false)
    (hrow : row ∈ (h.operate op).rowsOn shelf) : row ∈ h.rowsOn shelf := by
  by_cases hask : ∀ id call, op ≠ .ask id call
  · -- stores may be opened, none of them with rows that were not on its shelf
    obtain ⟨hdisk, added, hstores, -, hadded⟩ := operate_cases h hask
    exact rowsOn_of_added hdisk hstores (fun held hheld => (hadded held hheld).1) shelf ▸ hrow
  · obtain ⟨id, call, rfl⟩ : ∃ id call, op = .ask id call := by simpa using hask
    have hwrites := hop id call rfl
    cases hget : h.stores[id]? with
    | none =>
      obtain ⟨hstores, hdisk⟩ := request_of_missing hget call
      exact SameStorage.rowsOn ⟨hstores, hdisk⟩ shelf ▸ hrow
    | some held =>
      rcases (replaced_request hget call).2.mem_rowsOn hget hrow with hold | ⟨rfl, hnew⟩
      · exact hold
      · rw [Store.rows_serve_of_not_writes _ _ hwrites, rows_databaseOf hget] at hnew
        exact hnew

/-- What another user does to a file without putting a row in puts none on a shelf. -/
theorem mem_rowsOn_disturb {l : Location} {act : Outside} (ha : act.addsNoRow = true)
    (hrow : row ∈ (h.disturb l act).rowsOn shelf) : row ∈ h.rowsOn shelf := by
  rw [disturb] at hrow
  cases hdb : h.disk.database? l with
  | none =>
    rw [hdb] at hrow
    exact hrow
  | some db =>
    rw [hdb] at hrow
    cases shelf with
    -- what is done to a file does not reach a database in memory
    | own id => exact hrow
    | file l' =>
      rw [Host.rowsOn, Disk.rowsAt, Disk.entry?_put _ (Disk.ne_nil_of_database? hdb)] at hrow
      by_cases hl : l' = l
      · subst hl
        rw [if_pos rfl] at hrow
        have hentry : h.disk.entry? l' = some (.database db) := by
          rw [Disk.database?] at hdb
          split at hdb
          · next hentry =>
            cases hdb
            exact hentry
          · cases hdb
        rw [Host.rowsOn, Disk.rowsAt, hentry]
        exact Database.mem_rows_afterOutside ha hrow
      · rw [if_neg hl] at hrow
        exact hrow

end Host

/-! ### Stores that can be read from -/

namespace Store

variable {s : Store} {c : Connection}

theorem ready?_withConnection (hphase : s.phase = .ready) (c : Connection) :
    (s.withConnection c).ready? = some c :=
  if_pos hphase

theorem ready?_heeding {α : Type} {work : Connection → Outcome α} (hr : s.ready? = some c)
    (db : Database) (i : Interruption) (hwork : ∀ c, ∃ d, (work c).store = s.withConnection d) :
    ∃ c', (s.heeding db c i work).store.ready? = some c' := by
  have hphase := (ready?_eq_some_iff.mp hr).1
  rw [heeding]
  split
  · exact ⟨c, hr⟩
  · obtain ⟨d, hd⟩ := hwork { c with heeds := i }
    dsimp only
    rw [hd]
    exact ⟨_, if_pos hphase⟩

/-- **A store that is ready stays so**, whatever it is asked for, unless it is closed. -/
theorem ready?_serve (hr : s.ready? = some c) (db : Database) {call : Call}
    (hcall : call ≠ .close) :
    ∃ c', (s.serve db call).store.ready? = some c' := by
  have hphase := (ready?_eq_some_iff.mp hr).1
  cases call with
  | close => exact absurd rfl hcall
  | ensureSchema i =>
    -- a ready store is not asked to become so again
    rw [serve, ensureSchema_of_ready hphase]
    exact ⟨c, hr⟩
  | insert r =>
    rw [serve, insert, hr]
    dsimp only
    split
    · exact ⟨_, ready?_withConnection hphase _⟩
    · split
      · exact ⟨_, ready?_withConnection hphase _⟩
      · split <;> exact ⟨_, ready?_withConnection hphase _⟩
  | persist snapshot i =>
    rw [serve, persist, hr]
    refine ready?_heeding hr db i fun c => ?_
    split
    · exact ⟨_, rfl⟩
    · dsimp only
      split <;> exact ⟨_, rfl⟩
  | load i =>
    rw [serve, load, hr]
    refine ready?_heeding hr db i fun c => ?_
    split <;> exact ⟨_, rfl⟩
  | count =>
    rw [serve, count, hr]
    dsimp only
    split
    · exact ⟨_, ready?_withConnection hphase _⟩
    · split <;> exact ⟨_, ready?_withConnection hphase _⟩

end Store

namespace Host

variable {h h' : Host} {id : Nat}

/-- The store with a number can be read from and written to. -/
def Reads (h : Host) (id : Nat) : Prop :=
  ∃ held c, h.stores[id]? = some held ∧ held.store.ready? = some c

theorem SameStorage.reads (hw : h.SameStorage h') (hr : h.Reads id) : h'.Reads id := by
  rw [Reads, hw.stores]
  exact hr

/-- What is done with stores leaves one ready that is not closed. -/
theorem Reads.operate (hr : h.Reads id) {op : Operation} (hop : op ≠ .ask id .close) :
    (h.operate op).Reads id := by
  obtain ⟨held, c, hget, hready⟩ := hr
  by_cases hask : ∀ id call, op ≠ .ask id call
  · -- stores are only opened behind those that are there
    obtain ⟨-, added, hstores, -, -⟩ := operate_cases h hask
    refine ⟨held, c, ?_, hready⟩
    rw [hstores, List.getElem?_append_left (List.getElem?_eq_some_iff.mp hget).1, hget]
  · obtain ⟨asked, call, rfl⟩ : ∃ asked call, op = .ask asked call := by simpa using hask
    cases hasked : h.stores[asked]? with
    | none =>
      exact ⟨held, c, by rw [Host.operate, (request_of_missing hasked call).1, hget], hready⟩
    | some heldAsked =>
      have hstores := (replaced_request hasked call).2.stores
      rw [Reads, Host.operate, hstores]
      by_cases hid : asked = id
      · subst hid
        obtain rfl : heldAsked = held := Option.some.inj (hasked.symm.trans hget)
        -- of what the store itself can be asked, only closing it would end its readiness
        have hcall : call ≠ .close := fun hclose => hop (by rw [hclose])
        obtain ⟨c', hready'⟩ := Store.ready?_serve hready (h.databaseOf heldAsked) hcall
        exact ⟨_, c', List.getElem?_set_self (List.getElem?_eq_some_iff.mp hget).1, hready'⟩
      · exact ⟨held, c, by rw [List.getElem?_set_ne hid, hget], hready⟩

/-- **A store that can be read from stays so**, whatever happens, unless it is closed. -/
theorem Reads.act (hr : h.Reads id) {x : Activity} (hx : x ≠ .operate (.ask id .close)) :
    (h.act x).Reads id := by
  -- handlers and writes leave the phases of all stores
  have hdeliver : ∀ (h : Host) handler e c now, h.Reads id → (h.deliver handler e c now).Reads id :=
    fun h handler e c now hr => (h.sameStorage_deliver handler e c now).reads hr
  have hfinish : ∀ (h : Host) bridge i, h.Reads id → (h.finishWriteAt bridge i).Reads id := by
    intro h bridge i hr
    rcases h.sameStorage_finishWriteAt bridge i with hw | ⟨store, r, -, hw⟩
    · exact hw.reads hr
    · exact hw.reads (hr.operate (by simp))
  cases x with
  | publish dispatcher e c now =>
    exact publish_induction (P := fun h => h.Reads id)
      (fun h handler hr => hdeliver h handler _ c now hr) hfinish dispatcher hr
  | deliver handler e c now => exact hdeliver h handler e c now hr
  | finish bridge i => exact hfinish h bridge i hr
  | restore bridge =>
    rcases h.sameStorage_loadAndMerge bridge with hw | ⟨store, hw⟩
    · exact hw.reads hr
    · exact hw.reads (hr.operate (by simp))
  | take aggregate intake => exact hr
  | toggle number enabled => exact hr
  | operate op => exact hr.operate fun hclose => hx (by rw [hclose])
  | disturb l act =>
    rw [Host.act, disturb]
    split <;> exact hr

theorem Reads.actAll (hr : h.Reads id) {xs : List Activity}
    (hxs : ∀ x ∈ xs, x ≠ .operate (.ask id .close)) :
    (h.actAll xs).Reads id := by
  induction xs generalizing h with
  | nil => exact hr
  | cons x xs ih =>
    exact ih (hr.act (hxs x List.mem_cons_self)) fun y hy => hxs y (List.mem_cons_of_mem _ hy)

end Host

end UsageLedger
