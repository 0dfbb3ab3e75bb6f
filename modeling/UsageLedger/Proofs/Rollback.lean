import UsageLedger.Proofs.Serving

/-!
# Failed requests leave no trace

A request of a ready store that fails, for whatever reason, leaves the database and the stores
as they were, and whatever is done later leads to the same as if the request had not been made.
The one thing that it may change is what its connection remembers of the layout, and that can
only be noticed while the usage table is missing.  And since no interruption stays behind, no
request is called off that nobody calls off.

The proof compares two sessions move by move: `Session.Same` holds of two sessions that are
equal but for what connections remember, every move keeps it, and a failed request leads from a
session to one that is the same.

## Main definitions

* `Session.Reached` — a session that comes about by moves, over a file with any content.
* `Session.Same` — two sessions that are equal but for what connections remember.
* `Session.Indistinct` — two sessions that nothing done later tells apart while the table is there.

## Main results

* `Session.Same.step` — the same moves lead from two such sessions to two such sessions.
* `failed_ask_indistinct` — **a failed request leaves no trace.**
* `missing_table_tells` — while the table is missing it may leave one.
-/

namespace UsageLedger

/-! ### Requests that nobody calls off -/

namespace Store

theorem insertAll_ne_cancelled (rs : List Record) (step : Nat) (tally : Tally) (db : Database) :
    insertAll .never step rs tally db ≠ .error .cancelled := by
  induction rs generalizing step tally db with
  | nil => simp [insertAll]
  | cons r rs ih =>
    rw [insertAll, if_neg (by simp [Interruption.stops])]
    split
    · simp
    · exact ih _ _ _

theorem scanAll_ne_cancelled (rs : List Row) (step : Nat) :
    scanAll .never step rs ≠ .error .cancelled := by
  induction rs generalizing step with
  | nil => simp [scanAll]
  | cons r rs ih =>
    have hrest := ih (step + 1)
    rw [scanAll, if_neg (by simp [Interruption.stops])]
    split
    · simp
    · split
      · next e he => simpa [he] using hrest
      · split <;> simp

theorem migrate_ne_cancelled (ms : List Database.Migration) (step : Nat) (db : Database) :
    (migrate .never step ms db).1 ≠ .error .cancelled := by
  induction ms generalizing step db with
  | nil => simp [migrate]
  | cons m ms ih =>
    rw [migrate, if_neg (by simp [Interruption.stops])]
    split
    · exact ih _ _
    · simp

theorem readRows_ne_cancelled (db : Database) : readRows .never db ≠ .error .cancelled := by
  rw [readRows]
  split
  · next l _ =>
    have h := scanAll_ne_cancelled l.byTimestamp 0
    split
    · simp
    · next e he => simpa [he] using h
  · split <;> simp

theorem onTable_ne_cancelled {call : Call} (h : call.interruption = .never) (db : Database) :
    call.onTable db ≠ .error .cancelled := by
  cases call with
  | insert r =>
    rw [Call.onTable]
    split <;> simp
  | persist snapshot i =>
    obtain rfl : i = .never := h
    have hall := insertAll_ne_cancelled snapshot.records 0 {} db
    rw [Call.onTable, if_neg (by simp [Interruption.atStart])]
    split
    · simp
    · next e he => simpa [he] using hall
  | load i =>
    obtain rfl : i = .never := h
    have hread := readRows_ne_cancelled db
    rw [Call.onTable, if_neg (by simp [Interruption.atStart])]
    split
    · simp
    · next e he => simpa [he] using hread
  | _ => simp [Call.onTable]

variable {s : Store}

/-- **A request that nobody calls off is not answered as if somebody had.** -/
theorem serve_ne_cancelled (hq : s.Quiet) {call : Call} (h : call.interruption = .never)
    (db : Database) : (s.serve db call).answer ≠ .error .cancelled := by
  cases hc : call.usesTable with
  | true =>
    obtain ⟨s', -, hserved⟩ := serve_cases hq db hc
    generalize s.serve db call = o at *
    cases hserved with
    | refused => simp
    | tableless _ _ hne => simpa using hne
    | failed _ hon =>
      have hne := onTable_ne_cancelled h db
      rw [hon] at hne
      simpa using hne
    | done => simp
  | false =>
    cases call with
    | ensureSchema i =>
      obtain rfl : i = .never := h
      have hne : (s.ensureSchema db .never).answer ≠ .error .cancelled := by
        have hmig := migrate_ne_cancelled Database.migrations 0 db
        -- nothing stops at the start or between the statements
        rcases ensureSchema_cases hq db .never with ⟨-, ho⟩ | ⟨-, ho, -⟩ | ⟨-, -, ho⟩
        · simp [ho]
        · simp [ho]
        · rcases ho with ⟨hst, -⟩ | ⟨s', answer, db', -, -, hm, ⟨-, ho⟩ | ⟨e, he, ho⟩⟩
          · cases hst
          · simp [ho]
          · rw [hm, he] at hmig
            simpa [ho] using hmig
      exact fun hcancelled => hne (Outcome.map_answer_eq_error.mp hcancelled)
    | close => simp [serve]
    | _ => cases hc

end Store

namespace Session

/-! ### Sessions that come about -/

/-- A session that comes about by moves, over a file with any content or over a store with a
database of its own. -/
inductive Reached : Session → Prop where
  /-- Nobody has opened a store on the file. -/
  | file (db : Database) : Reached ⟨db, []⟩
  /-- There is one store, with a database of its own. -/
  | own : Reached ⟨.blank, [.openPrivate]⟩
  /-- A move was made. -/
  | step {s : Session} (m : Move) : Reached s → Reached (s.step m).2

theorem Reached.quiet_linked {s : Session} (h : s.Reached) :
    ∀ st ∈ s.stores, st.Quiet ∧ st.Linked := by
  induction h with
  | file db => simp
  | own =>
    intro st hst
    obtain rfl := List.mem_singleton.mp hst
    exact Store.quiet_linked_openPrivate
  | step m _ ih => exact quiet_linked_step ih m

/-- **No interruption stays behind**, whatever was called off. -/
theorem Reached.quiet {s : Session} (h : s.Reached) : ∀ st ∈ s.stores, st.Quiet :=
  fun st hst => (h.quiet_linked st hst).1

/-- **The stores with a connection are those that are opened or ready.** -/
theorem Reached.linked {s : Session} (h : s.Reached) : ∀ st ∈ s.stores, st.Linked :=
  fun st hst => (h.quiet_linked st hst).2

/-- **A store that is ready does on the table what it is asked for**, or fails as it does there. -/
theorem Reached.ask_cases {s : Session} (hs : s.Reached) {id : Nat} {st : Store}
    (hget : s.stores[id]? = some st) (hready : st.phase = .ready)
    (hshape : s.database.shape = .ledger) (call : Call) (hc : call.usesTable = true) :
    (∃ reply db, call.onTable s.database = .ok (reply, db) ∧ (s.step (.ask id call)).1 = .ok reply ∧
        (s.step (.ask id call)).2.database = db) ∨
      ∃ e, call.onTable s.database = .error e ∧ (s.step (.ask id call)).1 = .error e ∧
        (s.step (.ask id call)).2.database = s.database := by
  have hmem := List.mem_of_getElem? hget
  obtain ⟨c, hr⟩ := (hs.linked st hmem).ready? hready
  simp only [Session.step, hget]
  rcases Store.serve_onTable (hs.quiet st hmem) hr hc hshape with ⟨reply, hon, hanswer⟩ | herror
  · exact .inl ⟨reply, _, hon, hanswer, rfl⟩
  · exact .inr herror

/-! ### Sessions that are the same -/

/-- Two sessions that are equal but for what connections remember. -/
structure Same (s t : Session) : Prop where
  /-- The database is the same. -/
  database : s.database = t.database
  /-- The stores are the same but for what their connections remember. -/
  stores : s.stores.map Store.bare = t.stores.map Store.bare

namespace Same

variable {s t : Session}

theorem phases (h : s.Same t) : s.stores.map (·.phase) = t.stores.map (·.phase) := by
  simpa [List.map_map, Function.comp_def] using congrArg (List.map (·.phase)) h.stores

theorem getElem? (h : s.Same t) (id : Nat) :
    s.stores[id]?.map Store.bare = t.stores[id]?.map Store.bare := by
  simpa using congrArg (·[id]?) h.stores

/-- **The same moves lead to the same**, and while the table is there they are answered the same. -/
theorem step (h : s.Same t) (hq : ∀ st ∈ s.stores, st.Quiet) (m : Move) :
    (s.step m).2.Same (t.step m).2 ∧
      (s.database.shape = .ledger → (s.step m).1 = (t.step m).1) := by
  obtain ⟨hdb, hstores⟩ := h
  cases m with
  | openStore path busyTimeout =>
    simp only [Session.step, hdb]
    cases Store.attach t.database path busyTimeout with
    | error f => exact ⟨⟨hdb, hstores⟩, fun _ => by trivial⟩
    | ok p =>
      refine ⟨⟨rfl, ?_⟩, fun _ => by trivial⟩
      rw [List.map_append, List.map_append, hstores]
  | ask id call =>
    have hget := Same.getElem? ⟨hdb, hstores⟩ id
    simp only [Session.step, hdb]
    cases hs : s.stores[id]? with
    | none =>
      rw [hs, Option.map_none, eq_comm, Option.map_eq_none_iff] at hget
      rw [hget]
      exact ⟨⟨hdb, hstores⟩, fun _ => rfl⟩
    | some st =>
      rw [hs, Option.map_some, eq_comm, Option.map_eq_some_iff] at hget
      obtain ⟨st', ht, hbare⟩ := hget
      rw [ht]
      -- the stores differ in what they have looked at, which no answer shows on the table
      obtain ⟨hanswer, hafter, hbare'⟩ := Store.serve_congr
        (hq st (List.mem_of_getElem? hs)) hbare.symm t.database call
      refine ⟨⟨hafter, ?_⟩, hanswer⟩
      simp only [List.map_set, hstores, hbare']
  | outside act =>
    exact ⟨⟨by simp only [Session.step, hdb], hstores⟩, fun _ => rfl⟩

end Same

end Session

/-! ### What is done later -/

/-- Two sessions that nothing done later tells apart as long as the usage table is there. -/
structure Session.Indistinct (s t : Session) : Prop where
  /-- The database is the same. -/
  database : s.database = t.database
  /-- The stores are as far as they were. -/
  phases : s.stores.map (·.phase) = t.stores.map (·.phase)
  /-- The same moves lead to the same database. -/
  database_run : ∀ later, (s.run later).database = (t.run later).database
  /-- They take the stores as far. -/
  phases_run : ∀ later, (s.run later).stores.map (·.phase) = (t.run later).stores.map (·.phase)
  /-- What is done while the table is there is answered the same. -/
  answers : ∀ later, List.Forall₂
    (fun e e' => e.move = e'.move ∧ e.before.database = e'.before.database ∧
      (e.before.database.shape = .ledger → e.answer = e'.answer)) (s.log later) (t.log later)

namespace Session

/-- Two reached sessions that are equal but for what connections remember cannot be told apart. -/
theorem Same.indistinct {s t : Session} (hs : s.Reached) (h : s.Same t) : s.Indistinct t := by
  -- the two sessions go on side by side
  have hrun : ∀ later, (s.run later).Same (t.run later) := by
    intro later
    induction later generalizing s t with
    | nil => exact h
    | cons m ms ih => exact ih (.step m hs) (h.step hs.quiet m).1
  refine ⟨h.database, h.phases, fun later => (hrun later).database,
    fun later => (hrun later).phases, fun later => ?_⟩
  induction later generalizing s t with
  | nil => exact .nil
  | cons m ms ih =>
    obtain ⟨hsame, hanswer⟩ := h.step hs.quiet m
    refine .cons ⟨rfl, h.database, hanswer⟩ (ih (.step m hs) hsame fun later => hrun (m :: later))

/-- A request of a ready store that fails leads to a session that is the same but for what
connections remember. -/
theorem same_of_failed {s : Session} (hs : s.Reached) {id : Nat} {st : Store} {call : Call}
    {e : Error} (hget : s.stores[id]? = some st) (hready : st.phase = .ready)
    (hfail : (s.step (.ask id call)).1 = .error e) : (s.step (.ask id call)).2.Same s := by
  have hquiet := hs.quiet st (List.mem_of_getElem? hget)
  simp only [Session.step, hget] at hfail ⊢
  obtain ⟨hbare, hdb⟩ := Store.serve_error hquiet hready hfail
  refine ⟨hdb, ?_⟩
  -- the store that was asked is replaced by one that is as good as it
  rw [List.map_set, hbare]
  refine List.ext_getElem? fun i => ?_
  rw [List.getElem?_set]
  split
  · next h =>
    subst h
    obtain ⟨hlt, hst⟩ := List.getElem?_eq_some_iff.mp hget
    simp [hlt, hst]
  · rfl

end Session

/-- **A failed request leaves no trace**: whatever made a request of a ready store fail, nothing
done later tells the session from the one before it while the usage table is there; and whatever
was called off before, no request is answered as if it had been that nobody calls off. -/
theorem failed_ask_indistinct {s : Session} (hs : s.Reached) :
    (∀ id st call e, s.stores[id]? = some st → st.phase = .ready →
      (s.step (.ask id call)).1 = .error e → (s.step (.ask id call)).2.Indistinct s) ∧
    ∀ id call, call.interruption = .never → (s.step (.ask id call)).1 ≠ .error .cancelled := by
  constructor
  · intro id st call e hget hready hfail
    exact (Session.same_of_failed hs hget hready hfail).indistinct (.step _ hs)
  · intro id call hnever
    simp only [Session.step]
    cases hget : s.stores[id]? with
    | none => simp
    | some st =>
      exact Store.serve_ne_cancelled (hs.quiet st (List.mem_of_getElem? hget)) hnever s.database

/-- A store whose table does not take in records of one model. -/
def refusingSession : Session :=
  Session.blank.run [.openStore "u.db" 0, .ask 0 (.ensureSchema .never),
    .outside (.rejectModel "refused")]

theorem reached_refusingSession : refusingSession.Reached :=
  .step _ (.step _ (.step _ (.file .blank)))

/-- Two records, of which the table takes in only the first. -/
def refusedSnapshot : Snapshot :=
  Snapshot.ofRecords
    [⟨"key", "accepted", { timestamp := .epoch }⟩, ⟨"key", "refused", { timestamp := .epoch }⟩]

/-- A snapshot of which the second record is refused leaves no trace. -/
theorem refusedSnapshot_indistinct :
    refusingSession.Reached ∧
      (refusingSession.step (.ask 0 (.persist refusedSnapshot .never))).1 =
        .error (.write .insert .rejected) ∧
      (refusingSession.step (.ask 0 (.persist refusedSnapshot .never))).2.Indistinct
        refusingSession ∧
      (refusingSession.step (.ask 0 .count)).1 ≠ .error .cancelled := by
  have hfail : (refusingSession.step (.ask 0 (.persist refusedSnapshot .never))).1 =
      .error (.write .insert .rejected) := by rfl
  obtain ⟨st, hget, hready⟩ : ∃ st, refusingSession.stores[0]? = some st ∧ st.phase = .ready :=
    ⟨_, rfl, rfl⟩
  have h := failed_ask_indistinct reached_refusingSession
  exact ⟨reached_refusingSession, hfail, h.1 0 st _ _ hget hready hfail, h.2 0 .count rfl⟩

/-! ### Where the table is missing -/

/-- A store that is ready, and whose table somebody else removed. -/
def tablelessSession : Session :=
  Session.blank.run [.openStore "u.db" 0, .ask 0 (.ensureSchema .never), .outside .dropTable]

/-- **While the table is missing a failed request leaves a trace**: a count that fails lets the
connection notice the missing table, and the next load fails at an earlier stage than it would
have. -/
theorem missing_table_tells :
    tablelessSession.Reached ∧
      (∃ st, tablelessSession.stores[0]? = some st ∧ st.phase = .ready) ∧
      (tablelessSession.step (.ask 0 .count)).1 = .error (.read .count .noTable) ∧
      ((tablelessSession.step (.ask 0 .count)).2.step (.ask 0 (.load .never))).1 =
        .error (.read .prepare .noTable) ∧
      ((tablelessSession.step (.ask 0 .count)).2.step (.ask 0 (.load .never))).1 ≠
        (tablelessSession.step (.ask 0 (.load .never))).1 := by
  have hafter : ((tablelessSession.step (.ask 0 .count)).2.step (.ask 0 (.load .never))).1 =
      .error (.read .prepare .noTable) := by rfl
  have hinstead : (tablelessSession.step (.ask 0 (.load .never))).1 =
      .error (.read .iterate .noTable) := by rfl
  refine ⟨.step _ (.step _ (.step _ (.file .blank))), ⟨_, rfl, rfl⟩, rfl, hafter, ?_⟩
  rw [hafter, hinstead]
  simp

end UsageLedger
