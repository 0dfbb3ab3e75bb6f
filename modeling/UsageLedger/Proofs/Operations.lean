import UsageLedger.Proofs.Table

/-!
# The operations of a store, case by case

For each operation of a store one lemma says everything that it can do.  What follows later is taken
from these lemmas, and no proof opens an operation again.

A connection remembers the layout it saw and whether its insert statement is prepared.  What it
remembers is set aside here: two stores are as good as the same when they are equal without it.

## Main definitions

* `Store.bare` — a store without what its connection remembers.
* `Store.Quiet` — nothing would call off a statement that runs on the store's connection.

## Main results

* `Store.insert_cases`, `Store.persist_cases`, `Store.load_cases`, `Store.count_cases`,
  `Store.ensureSchema_cases` — everything an operation can do.
-/

namespace UsageLedger

namespace Connection

/-- The connection without what it remembers of the layout and of its statements. -/
def bare (c : Connection) : Connection :=
  { c with seen := .absent, insertPrepared := false }

@[simp] theorem bare_heeds (c : Connection) : c.bare.heeds = c.heeds := rfl

theorem heeds_eq_of_bare_eq {c d : Connection} (h : c.bare = d.bare) : c.heeds = d.heeds := by
  rw [← bare_heeds c, h, bare_heeds]

theorem busyTimeout_eq_of_bare_eq {c d : Connection} (h : c.bare = d.bare) :
    c.busyTimeout = d.busyTimeout := by
  simpa [bare] using congrArg Connection.busyTimeout h

@[simp] theorem bare_prepare (c : Connection) (now : Shape) (check : Shape → Except Fault Unit) :
    (c.prepare now check).2.bare = c.bare := by
  rw [prepare]
  split <;> rfl

@[simp] theorem bare_prepareInsert (c : Connection) (now : Shape) :
    (c.prepareInsert now).2.bare = c.bare := by
  have h := bare_prepare c now Shape.checkInsert
  rw [prepareInsert]
  split
  · rfl
  · split <;> simp_all [bare]

theorem prepare_of_fits {now : Shape} {check : Shape → Except Fault Unit} (c : Connection)
    (h : check now = .ok ()) : (c.prepare now check).1 = .ok () := by
  rw [prepare]
  split
  · rfl
  · exact h

theorem prepareLoad_of_table (c : Connection) : (c.prepare .ledger Shape.checkLoad).1 = .ok () :=
  prepare_of_fits c rfl

theorem prepareInsert_of_table (c : Connection) : (c.prepareInsert .ledger).1 = .ok () := by
  have h : (c.prepare .ledger Shape.checkInsert).1 = .ok () := prepare_of_fits c rfl
  rw [prepareInsert]
  split
  · rfl
  · split <;> simp_all

end Connection

namespace Store

/-- The store without what its connection remembers. -/
def bare (s : Store) : Store :=
  { s with connection := s.connection.map Connection.bare }

@[simp] theorem bare_phase (s : Store) : s.bare.phase = s.phase := rfl

/-- Nothing would call off a statement that runs on the store's connection. -/
def Quiet (s : Store) : Prop :=
  ∀ c, s.connection = some c → c.heeds = .never

theorem phase_eq_of_bare_eq {s t : Store} (h : s.bare = t.bare) : s.phase = t.phase := by
  rw [← bare_phase s, h, bare_phase]

theorem path_eq_of_bare_eq {s t : Store} (h : s.bare = t.bare) : s.path = t.path := by
  simpa [bare] using congrArg Store.path h

theorem connection_eq_of_bare_eq {s t : Store} (h : s.bare = t.bare) :
    s.connection.map Connection.bare = t.connection.map Connection.bare :=
  congrArg Store.connection h

theorem Quiet.congr {s t : Store} (hs : s.Quiet) (h : s.bare = t.bare) : t.Quiet := by
  intro c hc
  have hconn := connection_eq_of_bare_eq h
  rw [hc, Option.map_some, Option.map_eq_some_iff] at hconn
  obtain ⟨d, hd, hbare⟩ := hconn
  rw [← Connection.heeds_eq_of_bare_eq hbare]
  exact hs d hd

theorem ready?_eq_some_iff {s : Store} {c : Connection} :
    s.ready? = some c ↔ s.phase = .ready ∧ s.connection = some c := by
  rw [ready?]
  split <;> simp_all

theorem ready?_map_bare {s t : Store} (h : s.bare = t.bare) :
    s.ready?.map Connection.bare = t.ready?.map Connection.bare := by
  rw [ready?, ready?, phase_eq_of_bare_eq h]
  split
  · exact connection_eq_of_bare_eq h
  · rfl

theorem bare_withConnection {s : Store} {c d : Connection} (hs : s.connection = some c)
    (h : d.bare = c.bare) : (s.withConnection d).bare = s.bare := by
  simp [bare, withConnection, hs, h]

/-! ### Work that heeds an interruption -/

variable {α : Type} {s : Store} {db : Database} {c : Connection} {i : Interruption}
  {work : Connection → Outcome α}

theorem heeding_of_atStart (h : i.atStart = true) :
    s.heeding db c i work = ⟨.error .cancelled, s, db⟩ := by
  rw [heeding, if_pos h]

theorem heeding_of_not_atStart (h : i.atStart = false) :
    s.heeding db c i work =
      ⟨(work { c with heeds := i }).answer, (work { c with heeds := i }).store.unheeding,
        (work { c with heeds := i }).database⟩ := by
  rw [heeding, if_neg (by simp [h])]

/-- When the work is over, the connection heeds nothing: that of a quiet store is as good as
before. -/
theorem bare_unheeding_withConnection {d : Connection} (hq : s.Quiet) (hs : s.connection = some c)
    (h : d.bare = { c with heeds := i }.bare) : ((s.withConnection d).unheeding).bare = s.bare := by
  have hheeds : c.heeds = .never := hq c hs
  have hbusy := Connection.busyTimeout_eq_of_bare_eq h
  obtain ⟨path, phase, connection⟩ := s
  obtain rfl : connection = some c := hs
  simp [bare, unheeding, withConnection, Connection.bare, hbusy, hheeds]

/-! ### Inserting a record -/

/-- Everything that inserting a record can do. -/
theorem insert_cases (s : Store) (db : Database) (r : Record) :
    s.ready? = none ∧ s.insert db r = ⟨.error .notInitialized, s, db⟩ ∨
    ∃ c s', s.ready? = some c ∧ s'.bare = s.bare ∧
      ((∃ f, db.shape ≠ .ledger ∧ s.insert db r = ⟨.error (.write .prepare f), s', db⟩) ∨
       (c.heeds.stops 0 = true ∧ s.insert db r = ⟨.error .cancelled, s', db⟩) ∨
       (∃ f, c.heeds.stops 0 = false ∧ db.offer (Row.ofRecord r) = .error f ∧
         s.insert db r = ⟨.error (.write .insert f), s', db⟩) ∨
       (∃ added db', c.heeds.stops 0 = false ∧ db.offer (Row.ofRecord r) = .ok (added, db') ∧
         s.insert db r = ⟨.ok added, s', db'⟩)) := by
  cases hr : s.ready? with
  | none => exact .inl ⟨rfl, by rw [insert, hr]⟩
  | some c =>
    have hconn : s.connection = some c := (ready?_eq_some_iff.mp hr).2
    have hbare := Connection.bare_prepareInsert c db.shape
    refine .inr ⟨c, ?_⟩
    rw [insert, hr]
    dsimp only
    cases hp : c.prepareInsert db.shape with
    | mk answer d =>
      rw [hp] at hbare
      have hheeds : d.heeds = c.heeds := Connection.heeds_eq_of_bare_eq hbare
      cases answer with
      | error f =>
        refine ⟨s.withConnection d, rfl, bare_withConnection hconn hbare, .inl ⟨f, ?_, rfl⟩⟩
        -- whatever the connection remembers, the statement fits the table
        intro hshape
        have hok := Connection.prepareInsert_of_table c
        rw [← hshape, hp] at hok
        cases hok
      | ok u =>
        cases hstop : c.heeds.stops 0 with
        | true =>
          refine ⟨s.withConnection d, rfl, bare_withConnection hconn hbare, .inr (.inl ⟨rfl, ?_⟩)⟩
          simp [hheeds, hstop]
        | false =>
          cases hoffer : db.offer (Row.ofRecord r) with
          | error f =>
            refine ⟨s.withConnection (d.look db.shape), rfl, bare_withConnection hconn hbare,
              .inr (.inr (.inl ⟨f, rfl, rfl, ?_⟩))⟩
            simp [hheeds, hstop]
          | ok p =>
            obtain ⟨added, db'⟩ := p
            refine ⟨s.withConnection (d.look db'.shape), rfl, bare_withConnection hconn hbare,
              .inr (.inr (.inr ⟨added, db', rfl, rfl, ?_⟩))⟩
            simp [hheeds, hstop]

/-! ### Inserting the records of a snapshot -/

/-- Everything that inserting the records of a snapshot can do. -/
theorem persist_cases (hq : s.Quiet) (db : Database) (snapshot : Snapshot) (i : Interruption) :
    s.ready? = none ∧ s.persist db snapshot i = ⟨.error .notInitialized, s, db⟩ ∨
    ∃ c s', s.ready? = some c ∧ s'.bare = s.bare ∧
      ((i.atStart = true ∧ s.persist db snapshot i = ⟨.error .cancelled, s', db⟩) ∨
       (∃ f, i.atStart = false ∧ db.shape ≠ .ledger ∧
         s.persist db snapshot i = ⟨.error (.write .prepare f), s', db⟩) ∨
       (∃ e, i.atStart = false ∧ insertAll i 0 snapshot.records {} db = .error e ∧
         s.persist db snapshot i = ⟨.error e, s', db⟩) ∨
       (∃ tally db', i.atStart = false ∧
         insertAll i 0 snapshot.records {} db = .ok (tally, db') ∧
         s.persist db snapshot i = ⟨.ok tally, s', db'⟩)) := by
  cases hr : s.ready? with
  | none => exact .inl ⟨rfl, by rw [persist, hr]⟩
  | some c =>
    have hconn : s.connection = some c := (ready?_eq_some_iff.mp hr).2
    refine .inr ⟨c, ?_⟩
    rw [persist, hr]
    dsimp only
    cases hstart : i.atStart with
    | true =>
      exact ⟨s, rfl, rfl, .inl ⟨rfl, heeding_of_atStart hstart⟩⟩
    | false =>
      have hbare := Connection.bare_prepareInsert { c with heeds := i } db.shape
      rw [heeding_of_not_atStart hstart]
      cases hp : Connection.prepareInsert { c with heeds := i } db.shape with
      | mk answer d =>
        rw [hp] at hbare
        have hheeds : d.heeds = i := Connection.heeds_eq_of_bare_eq hbare
        cases answer with
        | error f =>
          refine ⟨(s.withConnection d).unheeding, rfl, bare_unheeding_withConnection hq hconn hbare,
            .inr (.inl ⟨f, rfl, ?_, rfl⟩)⟩
          intro hshape
          have hok := Connection.prepareInsert_of_table { c with heeds := i }
          rw [← hshape, hp] at hok
          cases hok
        | ok u =>
          -- whether the connection looks at the layout depends on there being a record to insert
          obtain ⟨d', hd', hheeds', hd''⟩ : ∃ d', d'.bare = { c with heeds := i }.bare ∧
              d'.heeds = i ∧
              (if snapshot.records.isEmpty then d else d.look db.shape) = d' := by
            refine ⟨_, ?_, ?_, rfl⟩ <;> split
            · exact hbare
            · exact hbare
            · exact hheeds
            · exact hheeds
          dsimp only
          rw [hd'', hheeds']
          refine ⟨(s.withConnection d').unheeding, rfl,
            bare_unheeding_withConnection hq hconn hd', .inr (.inr ?_)⟩
          cases hall : insertAll i 0 snapshot.records {} db with
          | error e => exact .inl ⟨e, rfl, rfl, rfl⟩
          | ok p => exact .inr ⟨p.1, p.2, rfl, rfl, rfl⟩

/-! ### Reading -/

/-- Everything that reading all records can do; the database stays as it is. -/
theorem load_cases (hq : s.Quiet) (db : Database) (i : Interruption) :
    s.ready? = none ∧ s.load db i = ⟨.error .notInitialized, s, db⟩ ∨
    ∃ c s', s.ready? = some c ∧ s'.bare = s.bare ∧
      ((i.atStart = true ∧ s.load db i = ⟨.error .cancelled, s', db⟩) ∨
       (∃ f, i.atStart = false ∧ db.shape ≠ .ledger ∧
         s.load db i = ⟨.error (.read .prepare f), s', db⟩) ∨
       (i.atStart = false ∧ s.load db i = ⟨readRows i db, s', db⟩)) := by
  cases hr : s.ready? with
  | none => exact .inl ⟨rfl, by rw [load, hr]⟩
  | some c =>
    have hconn : s.connection = some c := (ready?_eq_some_iff.mp hr).2
    refine .inr ⟨c, ?_⟩
    rw [load, hr]
    dsimp only
    cases hstart : i.atStart with
    | true =>
      exact ⟨s, rfl, rfl, .inl ⟨rfl, heeding_of_atStart hstart⟩⟩
    | false =>
      have hbare := Connection.bare_prepare { c with heeds := i } db.shape Shape.checkLoad
      rw [heeding_of_not_atStart hstart]
      cases hp : Connection.prepare { c with heeds := i } db.shape Shape.checkLoad with
      | mk answer d =>
        rw [hp] at hbare
        have hheeds : d.heeds = i := Connection.heeds_eq_of_bare_eq hbare
        cases answer with
        | error f =>
          refine ⟨(s.withConnection d).unheeding, rfl, bare_unheeding_withConnection hq hconn hbare,
            .inr (.inl ⟨f, rfl, ?_, rfl⟩)⟩
          -- on the table the statement can be prepared
          intro hshape
          have hok := Connection.prepareLoad_of_table { c with heeds := i }
          rw [← hshape, hp] at hok
          cases hok
        | ok u =>
          refine ⟨(s.withConnection (d.look db.shape)).unheeding, rfl,
            bare_unheeding_withConnection hq hconn hbare, .inr (.inr ⟨rfl, ?_⟩)⟩
          -- preparing does not change what the connection heeds
          simp only [hheeds]

/-- Everything that counting the rows can do; the database stays as it is. -/
theorem count_cases (s : Store) (db : Database) :
    s.ready? = none ∧ s.count db = ⟨.error .notInitialized, s, db⟩ ∨
    ∃ c s', s.ready? = some c ∧ s'.bare = s.bare ∧
      ((db.shape = .absent ∧ s.count db = ⟨.error (.read .count .noTable), s', db⟩) ∨
       (db.shape ≠ .absent ∧ c.heeds.stops 0 = true ∧
         s.count db = ⟨.error .cancelled, s', db⟩) ∨
       (db.shape ≠ .absent ∧ c.heeds.stops 0 = false ∧
         s.count db = ⟨.ok db.rowCount, s', db⟩)) := by
  cases hr : s.ready? with
  | none => exact .inl ⟨rfl, by rw [count, hr]⟩
  | some c =>
    have hconn : s.connection = some c := (ready?_eq_some_iff.mp hr).2
    -- preparing leaves the connection as it was but for what it has looked at
    refine .inr ⟨c, s.withConnection (c.look db.shape), rfl, bare_withConnection hconn rfl, ?_⟩
    rw [count, hr]
    dsimp only
    cases hs : db.shape with
    | absent => exact .inl ⟨rfl, rfl⟩
    | _ =>
      refine .inr ?_
      cases hstop : c.heeds.stops 0 with
      | true => exact .inl ⟨by simp, rfl, by simp [Shape.checkCount]⟩
      | false => exact .inr ⟨by simp, rfl, by simp [Shape.checkCount]⟩

/-! ### Making sure of the table -/

/-- Everything that making sure of the table can do. -/
theorem ensureSchema_cases (hq : s.Quiet) (db : Database) (i : Interruption) :
    s.phase = .ready ∧ s.ensureSchema db i = ⟨.ok (), s, db⟩ ∨
    s.phase ≠ .ready ∧ s.ensureSchema db i = ⟨.error .notInitialized, s, db⟩ ∧
      (s.phase ≠ .opened ∨ s.connection = none) ∨
    s.phase = .opened ∧ s.connection ≠ none ∧
      (i.atStart = true ∧ s.ensureSchema db i = ⟨.error .cancelled, s, db⟩ ∨
       ∃ s' answer db', i.atStart = false ∧ s'.bare = s.bare ∧
         migrate i 0 Database.migrations db = (answer, db') ∧
         (answer = .ok () ∧ s.ensureSchema db i = ⟨.ok (), { s' with phase := .ready }, db'⟩ ∨
          ∃ e, answer = .error e ∧ s.ensureSchema db i = ⟨.error e, s', db'⟩)) := by
  rw [ensureSchema]
  cases hphase : s.phase with
  | ready => exact .inl ⟨rfl, by simp⟩
  | opened =>
    cases hconn : s.connection with
    | none => exact .inr (.inl ⟨by simp, by simp, .inr rfl⟩)
    | some c =>
      refine .inr (.inr ⟨rfl, by simp, ?_⟩)
      cases hstart : i.atStart with
      | true => exact .inl ⟨rfl, by simp [heeding_of_atStart hstart]⟩
      | false =>
        refine .inr ?_
        rw [if_neg (by simp)]
        dsimp only
        rw [heeding_of_not_atStart hstart]
        cases hm : migrate i 0 Database.migrations db with
        | mk answer db' =>
          -- the statements run on the file, the store remembers only what it saw there
          refine ⟨(s.withConnection (Connection.look { c with heeds := i } db'.shape)).unheeding,
            answer, db', rfl, bare_unheeding_withConnection hq hconn rfl, rfl, ?_⟩
          cases answer with
          | ok u => exact .inl ⟨rfl, rfl⟩
          | error e => exact .inr ⟨e, rfl, rfl⟩
  | uninitialized => exact .inr (.inl ⟨by simp, by simp, .inl (by simp)⟩)
  | closed => exact .inr (.inl ⟨by simp, by simp, .inl (by simp)⟩)

/-! ### Closing -/

theorem bare_close {s t : Store} (h : s.bare = t.bare) : s.close.bare = t.close.bare := by
  have hpath := path_eq_of_bare_eq h
  have hphase := phase_eq_of_bare_eq h
  have hconn := connection_eq_of_bare_eq h
  rw [close, close]
  cases hs : s.connection <;> cases ht : t.connection <;> simp_all [bare]

end Store

end UsageLedger
