import UsageLedger.Proofs.Opening
import UsageLedger.Proofs.Phases

/-!
# The lifecycle of stores

Stores are opened on files, opened with a database of their own, or made without a connection,
and then they are asked for things, in any order and any number of them at once.  Rows stand on
shelves: the files, and the databases of stores that are in no file.  An operation takes at most
one store further on its way, and puts rows on at most one shelf, behind those that are there.

What a request does is seen through one lemma, `replaced_request`: it replaces the store that
was asked and the database of that store, and nothing else.

## Main definitions

* `Operation`, `Host.operate`, `Host.operateAll` — what is done with stores, and a run of it.
* `Shelf`, `Host.rowsOn` — where rows are kept, and which.
* `Host.Tidy` — what holds of the stores of a host at every moment.
* `Operation.Lawful`, `Host.Onward` — what an operation may do, and what a run may.

## Main results

* `Host.replaced_request`, `Host.Tidy.rowsOn_request` — what a request does.
* `Host.Tidy.lawful`, `Host.Tidy.onward` — **the law of an operation**, and that a run only goes on.
* `lifecycle_of_run` — **the lifecycle of stores**, over all runs.
-/

namespace UsageLedger

/-- What is done with stores. -/
inductive Operation where
  /-- A store is opened on a file. -/
  | openFile (path : String) (busyTimeout : Nat)
  /-- A store is opened with a database of its own. -/
  | openPrivate
  /-- A store is made that has no connection. -/
  | unconnected
  /-- The store with a number is asked for something. -/
  | ask (id : Nat) (call : Call)

/-- Where rows are kept. -/
inductive Shelf where
  /-- In the file at a location. -/
  | file (l : Location)
  /-- By the store with a number, outside of any file. -/
  | own (id : Nat)
  deriving DecidableEq

/-- Where the rows are kept that a store with a number works on. -/
def Held.shelf (held : Held) (id : Nat) : Shelf :=
  match held.place with
  | some l => .file l
  | none => .own id

namespace Host

/-- How far the stores have come. -/
def phases (h : Host) : List Phase :=
  h.stores.map (·.store.phase)

/-- Where the rows are kept that the store with a number works on. -/
def shelf? (h : Host) (id : Nat) : Option Shelf :=
  h.stores[id]?.map (·.shelf id)

/-- The rows that are kept somewhere, in their order. -/
def rowsOn (h : Host) : Shelf → List Row
  | .file l => h.disk.rowsAt l
  | .own id =>
    match h.stores[id]? with
    | some held => held.own.rows
    | none => []

/-- A store is asked for something; the answer is how many records it reports as added. -/
def request (h : Host) (id : Nat) : Call → Except Error Nat × Host
  | .load i => ((h.load id i).1.map fun _ => 0, (h.load id i).2)
  | .close => (.ok 0, h.closeStore id)
  | call =>
    let (answer, h) := h.onStore id fun s db => s.serve db call
    (answer.map Reply.reported, h)

/-- The host after an operation. -/
def operate (h : Host) : Operation → Host
  | .openFile path busyTimeout => (h.openStore path busyTimeout).2
  | .openPrivate => h.addStore .openPrivate
  | .unconnected => h.addStore {}
  | .ask id call => (h.request id call).2

/-- The host after operations, one after the other. -/
def operateAll (h : Host) (ops : List Operation) : Host :=
  ops.foldl operate h

/-- What holds of the stores at every moment: no interruption is left on a connection, and a
store holds a connection exactly when it is opened or ready. -/
def Tidy (h : Host) : Prop :=
  ∀ held ∈ h.stores, held.store.Quiet ∧ held.store.Linked

end Host

namespace Operation

/-- The operation succeeds. -/
def succeeds (h : Host) : Operation → Bool
  | openFile path busyTimeout =>
    match (h.openStore path busyTimeout).1 with
    | .opened .. => true
    | .refused _ | .aborted => false
  | openPrivate | unconnected => true
  | ask id call => (h.request id call).1.isOk

/-- How far stores have come after an operation, given whether it succeeded. -/
def phases (op : Operation) (succeeded : Bool) (ps : List Phase) : List Phase :=
  match op with
  | openFile .. => if succeeded then ps ++ [.opened] else ps
  | openPrivate => ps ++ [.opened]
  | unconnected => ps ++ [.uninitialized]
  | ask id call => ps.modify id (·.after call succeeded)

/-- What an operation may do to a host. -/
structure Lawful (h : Host) (op : Operation) : Prop where
  /-- It takes a store from opened to ready when it makes sure of the table, from opened or
  ready to closed when it closes it, and no store anywhere else. -/
  phases_eq : (h.operate op).phases = op.phases (op.succeeds h) h.phases
  /-- A store refuses to write and to read exactly when it is not ready, called off or not. -/
  refused_iff : ∀ id call p, op = .ask id call → call.usesTable = true → h.phases[id]? = some p →
    ((h.request id call).1 = .error .notInitialized ↔ p ≠ .ready)
  /-- A store refuses to make sure of the table exactly when it is neither opened nor ready,
  called off or not, and when it is ready it has nothing to do. -/
  prepared_iff : ∀ id i p, op = .ask id (.ensureSchema i) → h.phases[id]? = some p →
    ((h.request id (.ensureSchema i)).1 = .error .notInitialized ↔
      p = .uninitialized ∨ p = .closed) ∧
      (p = .ready → (h.request id (.ensureSchema i)).1 = .ok 0)
  /-- A store that refuses to write or to read touches nothing. -/
  untouched : ∀ id call, op = .ask id call → call.usesTable = true →
    (h.request id call).1 = .error .notInitialized →
      (h.operate op).stores = h.stores ∧ ∀ l, Disk.entry? (h.operate op).disk l = h.disk.entry? l
  /-- Rows are never changed, removed or put in another order. -/
  rows_stay : ∀ shelf, h.rowsOn shelf <+: (h.operate op).rowsOn shelf
  /-- A request that succeeds adds as many rows as it reports to what the store works on. -/
  rows_reported : ∀ id call n shelf, op = .ask id call → (h.request id call).1 = .ok n →
    h.shelf? id = some shelf → ((h.operate op).rowsOn shelf).length = (h.rowsOn shelf).length + n
  /-- Only a request to write that succeeds adds rows, and only to what the store works on. -/
  rows_grow : ∀ shelf, (h.operate op).rowsOn shelf ≠ h.rowsOn shelf →
    ∃ id call n, op = .ask id call ∧ call.writes = true ∧ (h.request id call).1 = .ok n ∧
      h.shelf? id = some shelf

end Operation

namespace Host

/-- One host came from another: stores only went further on their way, and rows were only added
behind those that were there. -/
structure Onward (h h' : Host) : Prop where
  /-- Stores go from opened to ready and from either to closed. -/
  phases : ∀ (id : Nat) (p : Phase), h.phases[id]? = some p →
    ∃ p', h'.phases[id]? = some p' ∧ p.Leads p'
  /-- The rows that were there come first. -/
  rows : ∀ shelf, h.rowsOn shelf <+: h'.rowsOn shelf

variable {h h' h'' : Host} {id : Nat} {held : Held}

theorem Onward.refl (h : Host) : h.Onward h where
  phases := fun _ p hp => ⟨p, hp, .stay p⟩
  rows := fun _ => List.prefix_refl _

theorem Onward.trans (ho : h.Onward h') (ho' : h'.Onward h'') : h.Onward h'' where
  phases := by
    intro id p hp
    obtain ⟨p', hp', hleads⟩ := ho.phases id p hp
    obtain ⟨p'', hp'', hleads'⟩ := ho'.phases id p' hp'
    exact ⟨p'', hp'', hleads.trans hleads'⟩
  rows := fun shelf => (ho.rows shelf).trans (ho'.rows shelf)

/-! ### What a request replaces -/

/-- The store with a number was replaced, with the database it works on, and nothing else. -/
structure Replaced (h : Host) (id : Nat) (held : Held) (s : Store) (db : Database) (h' : Host) :
    Prop where
  /-- The stores. -/
  stores : h'.stores =
    h.stores.set id { held with store := s, own := if held.place = none then db else held.own }
  /-- The disk. -/
  entries : ∀ l, h'.disk.entry? l =
    if held.place = some l ∧ h.disk.database? l ≠ none then some (.database db) else h.disk.entry? l

theorem replaced_onStore {α : Type} (hget : h.stores[id]? = some held)
    (op : Store → Database → Outcome α) :
    Replaced h id held (op held.store (h.databaseOf held)).store
      (op held.store (h.databaseOf held)).database (h.onStore id op).2 := by
  cases hplace : held.place with
  | none => constructor <;> simp [onStore, hget, hplace]
  | some l =>
    cases hdb : h.disk.database? l with
    | none =>
      constructor
      · simp [onStore, hget, hplace]
      · intro l'
        rw [if_neg]
        · simp only [onStore, hget, hplace, hdb]
        · -- the file of the store is gone, so nothing is put anywhere
          rintro ⟨hl, hsome⟩
          cases hplace.symm.trans hl
          exact hsome hdb
    | some db =>
      constructor
      · simp [onStore, hget, hplace]
      · intro l'
        simp only [onStore, hget, hplace, hdb]
        -- the database is put back where the file lies
        rw [Disk.entry?_put _ (Disk.ne_nil_of_database? hdb)]
        by_cases hl : l' = l
        · subst hl
          simp [hdb]
        · simp [hl, Ne.symm hl]

theorem replaced_load (hget : h.stores[id]? = some held) (i : Interruption) :
    Replaced h id held (held.store.load (h.databaseOf held) i).store
      (held.store.load (h.databaseOf held) i).database (h.load id i).2 := by
  obtain ⟨hstores, hentries⟩ := replaced_onStore hget fun s db => s.load db i
  rw [load]
  generalize (h.onStore id fun s db => s.load db i) = found at hstores hentries
  obtain ⟨answer, h'⟩ := found
  cases answer with
  | error e => exact ⟨hstores, hentries⟩
  | ok loaded =>
    dsimp only
    split <;> exact ⟨hstores, hentries⟩

theorem own_databaseOf (h : Host) (held : Held) :
    (if held.place = none then h.databaseOf held else held.own) = held.own := by
  split
  · next hplace => rw [databaseOf, hplace]
  · rfl

/-- A store and its database are replaced by themselves where nothing is done. -/
theorem replaced_self (hget : h.stores[id]? = some held) :
    Replaced h id held held.store (h.databaseOf held) h where
  stores := by
    obtain ⟨hlt, rfl⟩ := List.getElem?_eq_some_iff.mp hget
    rw [own_databaseOf]
    exact (List.set_getElem_self hlt).symm
  entries := by
    intro l
    split
    · next hl =>
      obtain ⟨hplace, hsome⟩ := hl
      rw [databaseOf, hplace]
      unfold Disk.database? at hsome ⊢
      split at hsome
      · next db hentry => simp [hentry]
      · exact absurd rfl hsome
    · rfl

theorem replaced_closeStore (hget : h.stores[id]? = some held) :
    Replaced h id held held.store.close (h.databaseOf held) (h.closeStore id) where
  stores := by
    rw [closeStore, List.modify_eq_set_getElem?, hget]
    cases hplace : held.place with
    | none => simp [databaseOf, hplace]
    | some l => simp [hplace]
  entries := (replaced_self hget).entries

/-- **What a request does**: it replaces the store and its database by what comes of them. -/
theorem replaced_request (hget : h.stores[id]? = some held) (call : Call) :
    (h.request id call).1 = (held.store.serve (h.databaseOf held) call).answer.map Reply.reported ∧
      Replaced h id held (held.store.serve (h.databaseOf held) call).store
        (held.store.serve (h.databaseOf held) call).database (h.request id call).2 := by
  have hat := databaseAt_of_get hget
  have hanswer := answer_onStore hget fun s db => s.serve db call
  rw [hat] at hanswer
  cases call with
  | load i =>
    refine ⟨?_, replaced_load hget i⟩
    -- a load may leave a line in the log besides, which replaces nothing
    have hloaded := answer_onStore hget fun s db => s.load db i
    rw [hat] at hloaded
    rw [Store.serve, Outcome.map_answer, ← hloaded, request, answer_load]
    cases (h.onStore id fun s db => s.load db i).1 <;> rfl
  | close => exact ⟨rfl, replaced_closeStore hget⟩
  | _ =>
    exact ⟨congrArg (Except.map Reply.reported) hanswer,
      replaced_onStore hget fun s db => s.serve db _⟩

theorem request_of_missing (hget : h.stores[id]? = none) (call : Call) :
    (h.request id call).2.stores = h.stores ∧ (h.request id call).2.disk = h.disk := by
  cases call with
  | load i => simp [request, load, onStore, hget]
  | close =>
    have hlt := List.getElem?_eq_none_iff.mp hget
    exact ⟨List.modify_eq_self hlt, rfl⟩
  | _ => simp [request, onStore, hget]

/-! ### Rows -/

theorem shelf_eq_file {l : Location} : held.shelf id = .file l ↔ held.place = some l := by
  rw [Held.shelf]
  cases held.place <;> simp

theorem shelf_eq_own {j : Nat} : held.shelf id = .own j ↔ held.place = none ∧ id = j := by
  rw [Held.shelf]
  cases held.place <;> simp

theorem rows_databaseOf (hget : h.stores[id]? = some held) :
    (h.databaseOf held).rows = h.rowsOn (held.shelf id) := by
  rw [databaseOf, Held.shelf]
  cases held.place with
  | none => rw [rowsOn, hget]
  | some l =>
    show ((h.disk.database? l).getD .blank).rows = h.disk.rowsAt l
    rw [Disk.database?, Disk.rowsAt]
    cases h.disk.entry? l with
    | none => rfl
    | some e => cases e <;> rfl

/-- Where stores without rows are added, and the disk holds the same rows, rows are kept. -/
theorem rowsOn_of_added {added : List Held} (hdisk : ∀ l, h'.disk.rowsAt l = h.disk.rowsAt l)
    (hstores : h'.stores = h.stores ++ added) (hnone : ∀ held ∈ added, held.own.rows = [])
    (shelf : Shelf) :
    h'.rowsOn shelf = h.rowsOn shelf := by
  cases shelf with
  | file l => exact hdisk l
  | own id =>
    rw [rowsOn, rowsOn, hstores]
    rcases Nat.lt_or_ge id h.stores.length with hid | hid
    · rw [List.getElem?_append_left hid]
    · rw [List.getElem?_append_right hid, List.getElem?_eq_none_iff.mpr hid]
      cases hadded : added[id - h.stores.length]? with
      | none => rfl
      | some held => exact hnone held (List.mem_of_getElem? hadded)

section

variable {s : Store} {db : Database} {new : List Row}

/-- On the shelf of a store whose database was replaced are the rows of the new one; where there
was no file there is none now. -/
theorem Replaced.rowsOn_shelf (hr : Replaced h id held s db h') (hget : h.stores[id]? = some held)
    (hrows : db.rows = (h.databaseOf held).rows ++ new)
    (hnone : (h.databaseOf held).shape ≠ .ledger → new = []) :
    h'.rowsOn (held.shelf id) = h.rowsOn (held.shelf id) ++ new := by
  rw [← rows_databaseOf hget]
  cases hplace : held.place with
  | none =>
    have hlt := (List.getElem?_eq_some_iff.mp hget).1
    rw [shelf_eq_own.mpr ⟨hplace, rfl⟩, rowsOn, hr.stores, List.getElem?_set_self hlt]
    dsimp only
    rw [if_pos hplace, hrows]
  | some l =>
    rw [shelf_eq_file.mpr hplace]
    show h'.disk.rowsAt l = _
    rw [Disk.rowsAt, hr.entries]
    cases hdb : h.disk.database? l with
    | some db₀ =>
      rw [if_pos ⟨hplace, by simp⟩, ← hrows]
      rfl
    | none =>
      -- without a file there is no table, and nothing was put into it
      have hblank : h.databaseOf held = .blank := by
        simp only [databaseOf, hplace, hdb, Option.getD_none]
      have hbefore := rows_databaseOf hget
      rw [shelf_eq_file.mpr hplace] at hbefore
      rw [if_neg (by simp), hnone (by rw [hblank]; decide), List.append_nil, hbefore]
      rfl

/-- Other shelves are as they were. -/
theorem Replaced.rowsOn_other (hr : Replaced h id held s db h') (hget : h.stores[id]? = some held)
    {shelf : Shelf} (hshelf : held.shelf id ≠ shelf) : h'.rowsOn shelf = h.rowsOn shelf := by
  cases shelf with
  | file l =>
    have hplace : held.place ≠ some l := fun hplace => hshelf (shelf_eq_file.mpr hplace)
    show h'.disk.rowsAt l = h.disk.rowsAt l
    rw [Disk.rowsAt, hr.entries, if_neg fun hboth => hplace hboth.1]
    rfl
  | own j =>
    rw [rowsOn, rowsOn, hr.stores]
    by_cases hj : id = j
    · subst hj
      -- the store is asked about a file, and keeps what it has beside that
      have hplace : held.place ≠ none := fun hplace => hshelf (shelf_eq_own.mpr ⟨hplace, rfl⟩)
      rw [List.getElem?_set_self (List.getElem?_eq_some_iff.mp hget).1, hget]
      dsimp only
      rw [if_neg hplace]
    · rw [List.getElem?_set_ne hj]

theorem Replaced.rowsAt_eq (hr : Replaced h id held s db h') (hget : h.stores[id]? = some held)
    (hrows : db.rows = (h.databaseOf held).rows) (l : Location) :
    h'.disk.rowsAt l = h.disk.rowsAt l := by
  show h'.rowsOn (.file l) = h.rowsOn (.file l)
  by_cases hl : held.shelf id = .file l
  · have hsame : h'.rowsOn (held.shelf id) = h.rowsOn (held.shelf id) ++ [] :=
      hr.rowsOn_shelf hget (by rw [hrows, List.append_nil]) fun _ => rfl
    rwa [hl, List.append_nil] at hsame
  · exact hr.rowsOn_other hget hl

/-- A store on a file works on the database that the one in the file was replaced by. -/
theorem Replaced.databaseAt_eq (hr : Replaced h id held s db h') (hget : h.stores[id]? = some held)
    {l : Location} (hplace : held.place = some l) (hfile : h.disk.database? l ≠ none) :
    h'.stores[id]? = some { held with store := s } ∧ h'.databaseAt id = db := by
  have hstore : h'.stores[id]? = some { held with store := s } := by
    rw [hr.stores, List.getElem?_set_self (List.getElem?_eq_some_iff.mp hget).1,
      if_neg (by simp [hplace])]
  have hentry : h'.disk.entry? l = some (.database db) := by rw [hr.entries, if_pos ⟨hplace, hfile⟩]
  refine ⟨hstore, ?_⟩
  rw [databaseAt, hstore]
  simp [databaseOf, hplace, Disk.database?, hentry]

end

/-- **What a request does to rows**: those that it reports come behind the others of its store. -/
theorem Tidy.rowsOn_request (hs : h.Tidy) (hget : h.stores[id]? = some held) (call : Call) :
    ∃ new, new.length = (held.store.serve (h.databaseOf held) call).reported ∧
      (h.request id call).2.rowsOn (held.shelf id) = h.rowsOn (held.shelf id) ++ new ∧
      ∀ shelf, held.shelf id ≠ shelf → (h.request id call).2.rowsOn shelf = h.rowsOn shelf := by
  have hquiet := (hs held (List.mem_of_getElem? hget)).1
  have hreplaced := (replaced_request hget call).2
  obtain ⟨new, hrows, hlength, hnone⟩ := Store.rows_serve_append hquiet (h.databaseOf held) call
  exact ⟨new, hlength, hreplaced.rowsOn_shelf hget hrows hnone,
    fun shelf hshelf => hreplaced.rowsOn_other hget hshelf⟩

/-! ### The law of an operation -/

/-- What an operation does that asks no store for anything: it may add a store, which has no
rows. -/
theorem operate_cases (h : Host) {op : Operation} (hop : ∀ id call, op ≠ .ask id call) :
    (∀ l, (h.operate op).disk.rowsAt l = h.disk.rowsAt l) ∧
      ∃ added : List Held, (h.operate op).stores = h.stores ++ added ∧
        op.phases (op.succeeds h) h.phases = h.phases ++ added.map (·.store.phase) ∧
        ∀ held ∈ added, held.own.rows = [] ∧ held.store.Quiet ∧ held.store.Linked := by
  cases op with
  | openFile path busyTimeout =>
    -- opening may make a file, but no rows in one
    obtain ⟨htables, hopened⟩ := Store.openAt_cases h.disk h.home path busyTimeout
    have hrows := fun l => Disk.rowsAt_congr (htables l)
    rw [operate, Operation.succeeds, openStore]
    generalize Store.openAt h.disk h.home path busyTimeout = made at hrows hopened
    obtain ⟨d, opening⟩ := made
    cases opening with
    | opened s l =>
      obtain ⟨hquiet, hlinked, hphase, -⟩ := hopened s l rfl
      refine ⟨hrows, [{ store := s, place := some l }], rfl, ?_, ?_⟩
      · simp [Operation.phases, hphase]
      · intro held hheld
        obtain rfl := List.mem_singleton.mp hheld
        exact ⟨rfl, hquiet, hlinked⟩
    | refused e => exact ⟨hrows, [], by simp, by simp [Operation.phases], by simp⟩
    | aborted => exact ⟨hrows, [], by simp, by simp [Operation.phases], by simp⟩
  | openPrivate =>
    refine ⟨fun _ => rfl, [{ store := .openPrivate }], rfl, rfl, ?_⟩
    intro held hheld
    obtain rfl := List.mem_singleton.mp hheld
    exact ⟨rfl, Store.quiet_linked_openPrivate⟩
  | unconnected =>
    refine ⟨fun _ => rfl, [{ store := {} }], rfl, rfl, ?_⟩
    intro held hheld
    obtain rfl := List.mem_singleton.mp hheld
    refine ⟨rfl, ?_, by simp [Store.Linked]⟩
    intro c hc
    cases hc
  | ask id call => exact absurd rfl (hop id call)

/-- What an operation does to rows: it may put some behind those of a store that was asked to
write. -/
theorem Tidy.rowsOn_operate (hs : h.Tidy) (op : Operation) (shelf : Shelf) :
    ∃ new, (h.operate op).rowsOn shelf = h.rowsOn shelf ++ new ∧
      (new = [] ∨ ∃ id call, op = .ask id call ∧ call.writes = true ∧
        (h.request id call).1 = .ok new.length ∧ h.shelf? id = some shelf) := by
  by_cases hop : ∀ id call, op ≠ .ask id call
  · obtain ⟨hdisk, added, hstores, -, hadded⟩ := operate_cases h hop
    have hsame := rowsOn_of_added hdisk hstores (fun held hheld => (hadded held hheld).1) shelf
    exact ⟨[], by rw [hsame, List.append_nil], .inl rfl⟩
  · obtain ⟨id, call, rfl⟩ : ∃ id call, op = .ask id call := by simpa using hop
    cases hget : h.stores[id]? with
    | none =>
      obtain ⟨hstores, hdisk⟩ := request_of_missing hget call
      have hsame := rowsOn_of_added (fun l => by rw [hdisk])
        (hstores.trans (List.append_nil _).symm) (by simp) shelf
      exact ⟨[], hsame.trans (List.append_nil _).symm, .inl rfl⟩
    | some held =>
      obtain ⟨new, hlength, hrows, hothers⟩ := hs.rowsOn_request hget call
      by_cases hshelf : held.shelf id = shelf
      · subst hshelf
        refine ⟨new, hrows, ?_⟩
        -- rows that were added were reported, so the request was one that writes
        rcases Nat.eq_zero_or_pos new.length with hnone | hpos
        · exact .inl (List.eq_nil_of_length_eq_zero hnone)
        · rw [hlength] at hpos ⊢
          refine .inr ⟨id, call, rfl, ?_, ?_, ?_⟩
          · exact Store.reported_serve_pos (hs held (List.mem_of_getElem? hget)).1 hpos
          · rw [(replaced_request hget call).1, Outcome.answer_of_reported hpos]
          · rw [shelf?, hget, Option.map_some]
      · exact ⟨[], (hothers shelf hshelf).trans (List.append_nil _).symm, .inl rfl⟩

/-- What holds of the stores holds of them after an operation. -/
theorem Tidy.operate (hs : h.Tidy) (op : Operation) : (h.operate op).Tidy := by
  by_cases hop : ∀ id call, op ≠ .ask id call
  · obtain ⟨-, added, hstores, -, hadded⟩ := operate_cases h hop
    intro held hheld
    rw [hstores] at hheld
    rcases List.mem_append.mp hheld with hheld | hheld
    · exact hs held hheld
    · exact (hadded held hheld).2
  · obtain ⟨id, call, rfl⟩ : ∃ id call, op = .ask id call := by simpa using hop
    intro held hheld
    cases hget : h.stores[id]? with
    | none =>
      rw [Host.operate, (request_of_missing hget call).1] at hheld
      exact hs held hheld
    | some asked =>
      rw [Host.operate, (replaced_request hget call).2.stores] at hheld
      obtain ⟨hquiet, hlinked⟩ := hs asked (List.mem_of_getElem? hget)
      -- the store that was asked, or one beside it
      rcases List.mem_or_eq_of_mem_set hheld with hheld | rfl
      · exact hs held hheld
      · exact ⟨hquiet.serve _ call, hlinked.serve hquiet _ call⟩

theorem Tidy.operateAll (hs : h.Tidy) (ops : List Operation) : (h.operateAll ops).Tidy := by
  induction ops generalizing h with
  | nil => exact hs
  | cons op ops ih => exact ih (hs.operate op)

/-- How far stores have come after a request. -/
theorem Tidy.phases_request (hs : h.Tidy) (id : Nat) (call : Call) :
    (h.request id call).2.phases =
      h.phases.modify id (·.after call (h.request id call).1.isOk) := by
  rw [List.modify_eq_set_getElem?, phases, phases, List.getElem?_map]
  cases hget : h.stores[id]? with
  | none =>
    rw [(request_of_missing hget call).1]
    rfl
  | some held =>
    obtain ⟨hanswer, hstores, -⟩ := replaced_request hget call
    obtain ⟨hquiet, hlinked⟩ := hs held (List.mem_of_getElem? hget)
    have hok : (h.request id call).1.isOk =
        (held.store.serve (h.databaseOf held) call).answer.isOk := by
      rw [hanswer]
      cases (held.store.serve (h.databaseOf held) call).answer <;> rfl
    rw [hstores, List.map_set, Store.phase_serve_eq hquiet hlinked, hok]
    rfl

theorem exists_held_of_phases {p : Phase} (hp : h.phases[id]? = some p) :
    ∃ held, h.stores[id]? = some held ∧ held.store.phase = p := by
  rw [phases, List.getElem?_map, Option.map_eq_some_iff] at hp
  exact hp

theorem Tidy.refused_iff (hs : h.Tidy) {call : Call} (hc : call.usesTable = true)
    (hget : h.stores[id]? = some held) :
    (h.request id call).1 = .error .notInitialized ↔ held.store.phase ≠ .ready := by
  obtain ⟨hquiet, hlinked⟩ := hs held (List.mem_of_getElem? hget)
  rw [(replaced_request hget call).1,
    ← Store.serve_eq_notInitialized_iff hquiet hlinked (h.databaseOf held) hc]
  exact Outcome.map_answer_eq_error

theorem Tidy.untouched (hs : h.Tidy) {call : Call} (hc : call.usesTable = true)
    (hrefused : (h.request id call).1 = .error .notInitialized) :
    (h.request id call).2.stores = h.stores ∧
      ∀ l, Disk.entry? (h.request id call).2.disk l = h.disk.entry? l := by
  cases hget : h.stores[id]? with
  | none =>
    obtain ⟨hstores, hdisk⟩ := request_of_missing hget call
    exact ⟨hstores, fun l => by rw [hdisk]⟩
  | some held =>
    have hphase := (hs.refused_iff hc hget).mp hrefused
    have hreplaced := (replaced_request hget call).2
    rw [Store.serve_of_not_ready hphase _ hc] at hreplaced
    -- the store and its database were replaced by themselves
    have hself := replaced_self hget
    exact ⟨hreplaced.stores.trans hself.stores.symm,
      fun l => (hreplaced.entries l).trans (hself.entries l).symm⟩

/-- What a store answers that is asked to make sure of the table. -/
theorem Tidy.prepared_iff (hs : h.Tidy) (hget : h.stores[id]? = some held) (i : Interruption) :
    ((h.request id (.ensureSchema i)).1 = .error .notInitialized ↔
        held.store.phase = .uninitialized ∨ held.store.phase = .closed) ∧
      (held.store.phase = .ready → (h.request id (.ensureSchema i)).1 = .ok 0) := by
  obtain ⟨hquiet, hlinked⟩ := hs held (List.mem_of_getElem? hget)
  rw [(replaced_request hget (.ensureSchema i)).1]
  constructor
  · rw [← Store.ensureSchema_eq_notInitialized_iff hquiet hlinked (h.databaseOf held) i]
    exact Outcome.map_answer_eq_error.trans Outcome.map_answer_eq_error
  · intro hready
    rw [Store.serve, Store.ensureSchema_of_ready hready]
    rfl

/-- **The law of an operation.** -/
theorem Tidy.lawful (hs : h.Tidy) (op : Operation) : op.Lawful h where
  phases_eq := by
    by_cases hop : ∀ id call, op ≠ .ask id call
    · obtain ⟨-, added, hstores, hphases, -⟩ := operate_cases h hop
      rw [hphases, phases, hstores, List.map_append]
      rfl
    · obtain ⟨id, call, rfl⟩ : ∃ id call, op = .ask id call := by simpa using hop
      exact hs.phases_request id call
  refused_iff := by
    rintro id call p rfl hc hp
    obtain ⟨held, hget, rfl⟩ := exists_held_of_phases hp
    exact hs.refused_iff hc hget
  prepared_iff := by
    rintro id i p rfl hp
    obtain ⟨held, hget, rfl⟩ := exists_held_of_phases hp
    exact hs.prepared_iff hget i
  untouched := by
    rintro id call rfl hc hrefused
    exact hs.untouched hc hrefused
  rows_stay := by
    intro shelf
    obtain ⟨new, hrows, -⟩ := hs.rowsOn_operate op shelf
    rw [hrows]
    exact List.prefix_append _ _
  rows_reported := by
    rintro id call n shelf rfl hok hshelf
    obtain ⟨held, hget, rfl⟩ := Option.map_eq_some_iff.mp hshelf
    obtain ⟨new, hlength, hrows, -⟩ := hs.rowsOn_request hget call
    rw [(replaced_request hget call).1] at hok
    rw [Host.operate, hrows, List.length_append, hlength, Outcome.reported_eq hok]
  rows_grow := by
    intro shelf hchanged
    obtain ⟨new, hrows, rfl | ⟨id, call, rfl, hwrites, hok, hshelf⟩⟩ := hs.rowsOn_operate op shelf
    · exact absurd (hrows.trans (List.append_nil _)) hchanged
    · exact ⟨id, call, new.length, rfl, hwrites, hok, hshelf⟩

/-! ### Runs -/

/-- An operation takes a store only where it can come to be. -/
theorem leads_phases (op : Operation) (succeeded : Bool) {ps : List Phase} {p : Phase}
    (hp : ps[id]? = some p) : ∃ p', (op.phases succeeded ps)[id]? = some p' ∧ p.Leads p' := by
  obtain ⟨hlt, -⟩ := List.getElem?_eq_some_iff.mp hp
  have hadded : ∀ q : Phase, (ps ++ [q])[id]? = some p :=
    fun q => by rw [List.getElem?_append_left hlt, hp]
  cases op with
  | openFile path busyTimeout =>
    refine ⟨p, ?_, .stay p⟩
    rw [Operation.phases]
    split
    · exact hadded _
    · exact hp
  | openPrivate => exact ⟨p, hadded _, .stay p⟩
  | unconnected => exact ⟨p, hadded _, .stay p⟩
  | ask asked call =>
    rw [Operation.phases, List.getElem?_modify, hp]
    -- a request moves the phase of the one store that it asks
    by_cases hid : asked = id
    · exact ⟨_, congrArg some (if_pos hid), p.leads_after call succeeded⟩
    · exact ⟨p, congrArg some (if_neg hid), .stay p⟩

theorem Tidy.onward_operate (hs : h.Tidy) (op : Operation) : h.Onward (h.operate op) where
  phases := by
    intro id p hp
    rw [(hs.lawful op).phases_eq]
    exact leads_phases op _ hp
  rows := (hs.lawful op).rows_stay

/-- **A run only goes on.** -/
theorem Tidy.onward (hs : h.Tidy) (ops : List Operation) : h.Onward (h.operateAll ops) := by
  induction ops generalizing h with
  | nil => exact .refl h
  | cons op ops ih => exact (hs.onward_operate op).trans (ih (hs.operate op))

end Host

/-- **The lifecycle of stores.**  Over any disk, stores are opened and asked for things in any
order, called off or not.  After every run a store holds a connection exactly when it is opened
or ready, the next operation keeps the law whatever it is, and however the run goes on, stores
only go from opened to ready and from either to closed, and the rows that there are stay the
first ones, in a file as well as with a store. -/
theorem lifecycle_of_run (disk : Disk) (home : String) (ops : List Operation) :
    let h := Host.operateAll { disk, home } ops
    (∀ held ∈ h.stores, held.store.connection.isSome = true ↔
        held.store.phase = .opened ∨ held.store.phase = .ready) ∧
      (∀ op, Operation.Lawful h op) ∧ ∀ later, h.Onward (h.operateAll later) := by
  intro h
  have hstart : Host.Tidy { disk, home } := by
    intro held hheld
    cases hheld
  have htidy : h.Tidy := hstart.operateAll ops
  exact ⟨fun held hheld => (htidy held hheld).2, htidy.lawful, htidy.onward⟩

/-- Whether a store is ready is looked at before whether it was called off. -/
example :
    let h := Host.operateAll {} [.openPrivate]
    (h.request 0 (.load .before)).1 = .error .notInitialized ∧
      ((h.operate (.ask 0 (.ensureSchema .never))).request 0 (.load .before)).1 =
        .error .cancelled :=
  ⟨rfl, rfl⟩

end UsageLedger
