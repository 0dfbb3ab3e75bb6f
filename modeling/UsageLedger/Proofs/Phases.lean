import UsageLedger.Proofs.Serving

/-!
# How far a store has come

A store goes from opened to ready when it made sure of the table, and from either to closed;
there is no other way, and none back.  Whether it is asked to write or to read while it is ready
decides what it answers before anything else does: a store that is not ready says so and is not
touched, whatever the request and whether or not it was called off, and a store that is ready
never says so.

## Main definitions

* `Phase.after` — how far a store has come after a request.
* `Phase.Leads` — a store that has come so far can come to be so far.
* `Error.isOfWork` — a failure of work that was begun.
* `Outcome.reported` — how many records an outcome reports as added.

## Main results

* `Store.phase_serve_eq` — **how far a request takes a store**, exactly.
* `Store.serve_of_not_ready`, `Store.serve_eq_notInitialized_iff` — which store refuses to write
  and to read.
* `Store.ensureSchema_eq_notInitialized_iff` — which store refuses to make sure of the table.
* `Store.rows_serve_append` — **a request only adds rows**, as many as it reports.
-/

namespace UsageLedger

namespace Phase

/-- How far a store has come after a request, given whether that succeeded. -/
def after (p : Phase) (call : Call) (succeeded : Bool) : Phase :=
  match call, p with
  | .ensureSchema _, .opened => if succeeded then .ready else .opened
  | .close, .opened | .close, .ready => .closed
  | _, p => p

/-- A store that has come so far can come to be so far. -/
inductive Leads : Phase → Phase → Prop where
  /-- It stays where it is. -/
  | stay (p : Phase) : Leads p p
  /-- It makes sure of the table. -/
  | prepare : Leads opened ready
  /-- It is closed, before it made sure of the table or after. -/
  | close {p : Phase} (h : p = opened ∨ p = ready) : Leads p closed

theorem Leads.trans {p q r : Phase} (h : Leads p q) (h' : Leads q r) : Leads p r := by
  cases h with
  | stay => exact h'
  | prepare =>
    cases h' with
    | stay => exact .prepare
    | close => exact .close (.inl rfl)
  | close h =>
    cases h' with
    | stay => exact .close h
    | close h' => rcases h' with h' | h' <;> cases h'

theorem leads_after (p : Phase) (call : Call) (succeeded : Bool) :
    Leads p (p.after call succeeded) := by
  unfold after
  split
  · split
    · exact .prepare
    · exact .stay _
  · exact .close (.inl rfl)
  · exact .close (.inr rfl)
  · exact .stay _

theorem after_of_usesTable {call : Call} (hc : call.usesTable = true) (p : Phase)
    (succeeded : Bool) :
    p.after call succeeded = p := by
  cases call with
  | ensureSchema i => cases hc
  | close => cases hc
  | _ => rfl

end Phase

/-! ### Failures -/

/-- Work that was begun fails in this way. -/
def Error.isOfWork : Error → Bool
  | .schema _ | .write .. | .read .. | .cancelled => true
  | .config _ | .store _ | .notInitialized => false

theorem Error.ne_notInitialized {e : Error} (h : e.isOfWork = true) : e ≠ .notInitialized := by
  rintro rfl
  cases h

namespace Store

theorem isOfWork_migrate {i : Interruption} {ms : List Database.Migration} {step : Nat}
    {db : Database} {e : Error} (h : (migrate i step ms db).1 = .error e) : e.isOfWork = true := by
  induction ms generalizing step db with
  | nil => cases h
  | cons m ms ih =>
    rw [migrate] at h
    split at h
    · cases h
      rfl
    · split at h
      · exact ih h
      · cases h
        rfl

theorem isOfWork_insertAll {i : Interruption} {rs : List Record} {step : Nat} {t : Tally}
    {db : Database} {e : Error} (h : insertAll i step rs t db = .error e) : e.isOfWork = true := by
  induction rs generalizing step t db with
  | nil => cases h
  | cons r rs ih =>
    rw [insertAll] at h
    split at h
    · cases h
      rfl
    · split at h
      · cases h
        rfl
      · exact ih h

theorem isOfWork_scanAll {i : Interruption} {rows : List Row} {step : Nat} {e : Error}
    (h : scanAll i step rows = .error e) : e.isOfWork = true := by
  induction rows generalizing step with
  | nil => cases h
  | cons row rows ih =>
    rw [scanAll] at h
    split at h
    · cases h
      rfl
    · split at h
      · cases h
        rfl
      · split at h
        · next hrest =>
          cases h
          exact ih hrest
        · split at h <;> cases h

theorem isOfWork_readRows {i : Interruption} {db : Database} {e : Error}
    (h : readRows i db = .error e) : e.isOfWork = true := by
  rw [readRows] at h
  split at h
  · split at h
    · cases h
    · next hscan =>
      cases h
      exact isOfWork_scanAll hscan
  · split at h
    · cases h
    · cases h
      rfl

variable {s : Store} {c : Connection}

/-- A ready store that fails to write or to read has begun to. -/
theorem isOfWork_serve (hq : s.Quiet) (hr : s.ready? = some c) {db : Database} {call : Call}
    {e : Error} (hc : call.usesTable = true) (h : (s.serve db call).answer = .error e) :
    e.isOfWork = true := by
  cases call with
  | ensureSchema i => cases hc
  | close => cases hc
  | insert r =>
    replace h := Outcome.map_answer_eq_error.mp h
    rcases insert_cases s db r with ⟨hnone, -⟩ | ⟨c', s', -, -, ho⟩
    · -- the store is ready
      cases hr.symm.trans hnone
    · rcases ho with ⟨f, -, ho⟩ | ⟨-, ho⟩ | ⟨f, -, -, ho⟩ | ⟨added, db', -, -, ho⟩ <;> rw [ho] at h
        <;> cases h
      · rfl
      · rfl
      · rfl
  | persist snapshot i =>
    replace h := Outcome.map_answer_eq_error.mp h
    rcases persist_cases hq db snapshot i with ⟨hnone, -⟩ | ⟨c', s', -, -, ho⟩
    · cases hr.symm.trans hnone
    · rcases ho with ⟨-, ho⟩ | ⟨f, -, -, ho⟩ | ⟨e', -, hall, ho⟩ | ⟨tally, db', -, -, ho⟩ <;>
        rw [ho] at h <;> cases h
      · rfl
      · rfl
      · exact isOfWork_insertAll hall
  | load i =>
    replace h := Outcome.map_answer_eq_error.mp h
    rcases load_cases hq db i with ⟨hnone, -⟩ | ⟨c', s', -, -, ho⟩
    · cases hr.symm.trans hnone
    · rcases ho with ⟨-, ho⟩ | ⟨f, -, -, ho⟩ | ⟨-, ho⟩ <;> rw [ho] at h
      · cases h
        rfl
      · cases h
        rfl
      · exact isOfWork_readRows h
  | count =>
    replace h := Outcome.map_answer_eq_error.mp h
    rcases count_cases s db with ⟨hnone, -⟩ | ⟨c', s', -, -, ho⟩
    · cases hr.symm.trans hnone
    · rcases ho with ⟨-, ho⟩ | ⟨-, -, ho⟩ | ⟨-, -, ho⟩ <;> rw [ho] at h <;> cases h
      · rfl
      · rfl

/-! ### Stores that are not ready -/

theorem ready?_eq_none (h : s.phase ≠ .ready) : s.ready? = none :=
  if_neg h

/-- **A store that is not ready** refuses to write and to read, and is not touched; it does not
matter whether the request was called off. -/
theorem serve_of_not_ready (hphase : s.phase ≠ .ready) (db : Database) {call : Call}
    (hc : call.usesTable = true) : s.serve db call = ⟨.error .notInitialized, s, db⟩ :=
  serve_of_ready?_eq_none (ready?_eq_none hphase) db hc

/-- A store refuses to write and to read exactly when it is not ready. -/
theorem serve_eq_notInitialized_iff (hq : s.Quiet) (hl : s.Linked) (db : Database) {call : Call}
    (hc : call.usesTable = true) :
    (s.serve db call).answer = .error .notInitialized ↔ s.phase ≠ .ready := by
  constructor
  · intro hrefused hready
    obtain ⟨c, hr⟩ := hl.ready? hready
    exact Error.ne_notInitialized (isOfWork_serve hq hr hc hrefused) rfl
  · intro hphase
    rw [serve_of_not_ready hphase db hc]

/-- A store refuses to make sure of the table exactly when it has no connection to do it with. -/
theorem ensureSchema_eq_notInitialized_iff (hq : s.Quiet) (hl : s.Linked) (db : Database)
    (i : Interruption) :
    (s.ensureSchema db i).answer = .error .notInitialized ↔
      s.phase = .uninitialized ∨ s.phase = .closed := by
  rcases ensureSchema_cases hq db i with ⟨hphase, h⟩ | ⟨hphase, h, hnone⟩ | ⟨hphase, -, ho⟩
  · simp [h, hphase]
  · rw [h]
    refine ⟨fun _ => ?_, fun _ => rfl⟩
    have hopened : s.phase ≠ .opened := by
      rcases hnone with hnone | hnone
      · exact hnone
      · -- an opened store has a connection
        intro hopened
        have hsome := hl.mpr (.inl hopened)
        simp [hnone] at hsome
    cases hp : s.phase with
    | uninitialized => exact .inl rfl
    | closed => exact .inr rfl
    | opened => exact absurd hp hopened
    | ready => exact absurd hp hphase
  · refine iff_of_false ?_ (by simp [hphase])
    rcases ho with ⟨-, h⟩ | ⟨s', answer, db', -, -, hm, ⟨-, h⟩ | ⟨e, he, h⟩⟩
    · simp [h]
    · simp [h]
    · have hwork : e.isOfWork = true := isOfWork_migrate ((congrArg Prod.fst hm).trans he)
      rw [h]
      exact fun hrefused => Error.ne_notInitialized hwork (Except.error.inj hrefused)

theorem ensureSchema_of_ready (hphase : s.phase = .ready) (db : Database) (i : Interruption) :
    s.ensureSchema db i = ⟨.ok (), s, db⟩ :=
  if_pos hphase

/-! ### Phases -/

/-- **How far a request takes a store.** -/
theorem phase_serve_eq (hq : s.Quiet) (hl : s.Linked) (db : Database) (call : Call) :
    (s.serve db call).store.phase = s.phase.after call (s.serve db call).answer.isOk := by
  cases hc : call.usesTable with
  | true => rw [phase_eq_of_bare_eq (bare_serve hq db hc), Phase.after_of_usesTable hc]
  | false =>
    cases call with
    | ensureSchema i =>
      show (s.ensureSchema db i).store.phase =
        s.phase.after (.ensureSchema i) ((s.ensureSchema db i).answer.map _).isOk
      rcases ensureSchema_cases hq db i with ⟨hphase, h⟩ | ⟨hphase, h, hnone⟩ | ⟨hphase, -, ho⟩
      · rw [h, hphase]
        rfl
      · have hrefused := (ensureSchema_eq_notInitialized_iff hq hl db i).mp (by rw [h])
        rw [h]
        rcases hrefused with hp | hp <;> rw [hp] <;> rfl
      · rcases ho with ⟨-, h⟩ | ⟨s', answer, db', -, hbare, -, ⟨-, h⟩ | ⟨e, -, h⟩⟩
        · rw [h, hphase]
          rfl
        · rw [h, hphase]
          rfl
        · have hkept : s'.phase = .opened := (phase_eq_of_bare_eq hbare).trans hphase
          rw [h, hphase]
          exact hkept
    | close =>
      show s.close.phase = s.phase.after .close true
      rw [close]
      cases hconn : s.connection with
      | some c =>
        have hheld := hl.mp (by simp [hconn])
        rcases hheld with hp | hp <;> rw [hp] <;> rfl
      | none =>
        -- without a connection a store is neither opened nor ready
        have hnot : ¬(s.phase = .opened ∨ s.phase = .ready) := fun h => by
          have hsome := hl.mpr h
          simp [hconn] at hsome
        cases hp : s.phase with
        | uninitialized => rfl
        | closed => rfl
        | opened => exact absurd (.inl hp) hnot
        | ready => exact absurd (.inr hp) hnot
    | _ => cases hc

end Store

/-! ### Rows -/

/-- The number of records that an outcome reports as added. -/
def Outcome.reported (o : Outcome Reply) : Nat :=
  match o.answer with
  | .ok reply => reply.reported
  | .error _ => 0

theorem Outcome.answer_of_reported {o : Outcome Reply} (h : 0 < o.reported) :
    o.answer.map Reply.reported = .ok o.reported := by
  unfold reported at h ⊢
  cases ho : o.answer with
  | ok reply => rfl
  | error e =>
    rw [ho] at h
    cases h

theorem Outcome.reported_eq {o : Outcome Reply} {n : Nat}
    (h : o.answer.map Reply.reported = .ok n) :
    o.reported = n := by
  unfold reported
  cases ho : o.answer with
  | ok reply =>
    rw [ho] at h
    exact Except.ok.inj h
  | error e =>
    rw [ho] at h
    cases h

/-- Records that were all inserted added as many rows as were noted. -/
theorem Store.insertAll_append {i : Interruption} {rs : List Record} {step : Nat} {t t' : Tally}
    {db db' : Database} (h : insertAll i step rs t db = .ok (t', db')) :
    ∃ new, db'.rows = db.rows ++ new ∧ t'.added = t.added + new.length := by
  induction rs generalizing step t db with
  | nil =>
    cases h
    exact ⟨[], by simp, rfl⟩
  | cons r rs ih =>
    rw [insertAll] at h
    split at h
    · cases h
    · split at h
      · cases h
      · next added db₁ hoffer =>
        -- the rows of the rest stand behind the one that the first record made
        obtain ⟨new, hrows, hadded⟩ := ih h
        refine ⟨(if added then [Row.ofRecord r] else []) ++ new, ?_, ?_⟩
        · rw [hrows, Database.offer_rows hoffer, List.append_assoc]
        · cases added
          · simpa [Tally.note] using hadded
          · simp only [Tally.note, if_true, List.length_append, List.length_singleton] at hadded ⊢
            omega

namespace Call

/-- What a call to write or to read puts into the table is as much as it reports. -/
theorem onTable_append {call : Call} {db db' : Database} {reply : Reply}
    (h : call.onTable db = .ok (reply, db')) :
    ∃ new, db'.rows = db.rows ++ new ∧ new.length = reply.reported := by
  obtain ⟨r, added, rfl, rfl, hoffer⟩ | ⟨snapshot, i, tally, rfl, rfl, hall⟩ | ⟨-, hzero, rfl⟩ :=
    onTable_cases h
  · refine ⟨if added then [Row.ofRecord r] else [], Database.offer_rows hoffer, ?_⟩
    cases added <;> rfl
  · -- the tally of a batch starts at nothing
    obtain ⟨new, hrows, hadded⟩ := Store.insertAll_append hall
    refine ⟨new, hrows, ?_⟩
    simpa [Reply.reported] using hadded.symm
  · exact ⟨[], (List.append_nil _).symm, hzero.symm⟩

end Call

namespace Store

variable {s : Store}

/-- **A request only adds rows**, as many as it reports, and none where there is no table. -/
theorem rows_serve_append (hq : s.Quiet) (db : Database) (call : Call) :
    ∃ new, (s.serve db call).database.rows = db.rows ++ new ∧
      new.length = (s.serve db call).reported ∧
      (db.shape ≠ .ledger → new = []) := by
  cases hc : call.usesTable with
  | true =>
    obtain ⟨s', -, hserved⟩ := serve_cases hq db hc
    generalize s.serve db call = o at *
    cases hserved with
    | refused => exact ⟨[], by simp, rfl, fun _ => rfl⟩
    | tableless => exact ⟨[], by simp, rfl, fun _ => rfl⟩
    | failed => exact ⟨[], by simp, rfl, fun _ => rfl⟩
    | done _ hon =>
      obtain ⟨new, hrows, hlength⟩ := Call.onTable_append hon
      refine ⟨new, hrows, hlength, fun hshape => ?_⟩
      rw [Call.onTable_of_not_table hshape hon] at hrows
      -- beside the table nothing is written, so nothing was added
      exact List.self_eq_append_right.mp hrows
  | false =>
    have hrows : call.writes = false → (s.serve db call).database.rows = db.rows ++ [] :=
      fun hw => (rows_serve_of_not_writes s db hw).trans (List.append_nil _).symm
    cases call with
    | ensureSchema i =>
      refine ⟨[], hrows rfl, ?_, fun _ => rfl⟩
      rw [Outcome.reported, serve, Outcome.map_answer]
      cases (s.ensureSchema db i).answer <;> rfl
    | close => exact ⟨[], hrows rfl, rfl, fun _ => rfl⟩
    | _ => cases hc

theorem reported_serve_pos (hq : s.Quiet) {db : Database} {call : Call}
    (h : 0 < (s.serve db call).reported) : call.writes = true := by
  cases hw : call.writes with
  | true => rfl
  | false =>
    obtain ⟨new, hrows, hlength, -⟩ := rows_serve_append hq db call
    rw [rows_serve_of_not_writes s db hw] at hrows
    rw [← hlength, List.self_eq_append_right.mp hrows] at h
    cases h

end Store

end UsageLedger
