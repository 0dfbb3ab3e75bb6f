import UsageLedger.Proofs.Asking
import UsageLedger.Proofs.Gathering

/-!
# The order of writes

Records reach a table one at a time or in batches, from any number of stores, and some of them
several times.  The table keeps the first record of each key, so the order shows in the order of
the rows, and a load sorts most of that away again: two ways of writing the same records lead to
the same rows and are answered by the same number of additions, and what is loaded differs at
most in the order of details that share a place and an instant.

## Main definitions

* `Exchange.written` — the records that a move put before the database with success.
* `SameButTies` — two lists of details that differ at most in the order of those of one instant.
* `Store.Loaded.Alike` — two loads that find the same but for the order of such details.

## Main results

* `Session.added_log` — what a run adds is, of all that it writes, what has a new key, each key
  once.
* `Store.Loaded.alike_ofRecords` — the order of rows shows in a load only where instants tie.
* `write_order_irrelevant` — **the order of writes does not show**, nor how they are grouped or
  who does them.
* `Session.written_log_of_serves` — stores that serve write whatever they are asked to.
-/

namespace UsageLedger

/-- The records that a move put before the database with success: those of a request that was not
answered by an error. -/
def Exchange.written (e : Exchange) : List Record :=
  match e.answer with
  | .ok _ => e.move.records
  | .error _ => []

theorem Exchange.added_eq_fresh (e : Exchange) :
    e.added = fresh Record.cellKey e.before.database.keys e.written := by
  obtain ⟨move, before, answer⟩ := e
  rw [added, written]
  cases move with
  | ask id call => cases answer <;> rfl
  | _ => cases answer <;> rfl

namespace Session

variable {s : Session} {ms : List Move}

/-- **What a run adds** is, of all that it writes, what has a new key, each key once. -/
theorem added_log (hs : s.Orderly) (hms : ∀ m ∈ ms, m.sparesTable = true) :
    (s.log ms).flatMap Exchange.added =
      fresh Record.cellKey s.database.keys ((s.log ms).flatMap Exchange.written) := by
  induction ms generalizing s with
  | nil => rfl
  | cons m ms ih =>
    have hm := hms m List.mem_cons_self
    have hrest := ih (hs.step hm) fun m' hm' => hms m' (List.mem_cons_of_mem _ hm')
    have hfirst := Exchange.added_eq_fresh ⟨m, s, (s.step m).1⟩
    rw [log_cons, List.flatMap_cons, List.flatMap_cons, fresh_append, hrest, ← hfirst]
    -- what the first move added counts as met for those behind it
    refine congrArg (_ ++ ·) (fresh_congr _ fun k => ?_)
    rw [keys_step hs hm, hfirst, mem_append_map_fresh]

theorem sum_reported_log (hs : s.Orderly) (hms : ∀ m ∈ ms, m.sparesTable = true) :
    ((s.log ms).map Exchange.reported).sum = ((s.log ms).flatMap Exchange.added).length := by
  induction ms generalizing s with
  | nil => rfl
  | cons m ms ih =>
    have hrest := ih (hs.step (hms m List.mem_cons_self)) fun m' hm' =>
      hms m' (List.mem_cons_of_mem _ hm')
    rw [log_cons, List.map_cons, List.sum_cons, hrest, reported_step hs, List.flatMap_cons,
      List.length_append]

theorem rows_run_of_empty (hs : s.Orderly) (hempty : s.database.rows = [])
    (hms : ∀ m ∈ ms, m.sparesTable = true) :
    (s.run ms).database.rows =
      (fresh Record.cellKey [] ((s.log ms).flatMap Exchange.written)).map Row.ofRecord := by
  have hkeys : s.database.keys = [] := by rw [Database.keys, hempty, List.map_nil]
  rw [rows_run hs hms, hempty, List.nil_append, added_log hs hms, hkeys]

end Session

/-! ### What is loaded -/

/-- Two lists of details differ at most in the order of those of one instant: place by place the
instants are the same, and all in all the details are. -/
structure SameButTies (ds es : List Detail) : Prop where
  /-- Place by place the instants are the same. -/
  instants : ds.map (·.timestamp) = es.map (·.timestamp)
  /-- The details are the same, in some order. -/
  perm : ds.Perm es

/-- Ascending details that are the same in some order differ at most where instants tie. -/
theorem SameButTies.of_ascending {ds es : List Detail} (h : ds.Perm es)
    (hds : ds.Pairwise fun a b => a.timestamp ≤ b.timestamp)
    (hes : es.Pairwise fun a b => a.timestamp ≤ b.timestamp) : SameButTies ds es where
  instants := by
    refine (h.map _).eq_of_pairwise (fun a b _ _ hab hba => Instant.le_antisymm hab hba) ?_ ?_
    · exact List.pairwise_map.mpr hds
    · exact List.pairwise_map.mpr hes
  perm := h

namespace Store.Loaded

/-- Two loads find the same but for the order of details that share a place and an instant. -/
structure Alike (f g : Loaded) : Prop where
  /-- There are buckets at the same places. -/
  places : f.snapshot.places = g.snapshot.places
  /-- In each bucket the details are the same, but for the order of those of one instant. -/
  details : ∀ k m, SameButTies (f.snapshot.details k m) (g.snapshot.details k m)
  /-- As many rows were passed over. -/
  skipped : f.skipped = g.skipped

/-- **The order of rows shows in a load only where instants tie.** -/
theorem alike_ofRecords {rs rs' : List Record} (h : rs.Perm rs') :
    (ofRecords rs).Alike (ofRecords rs') := by
  have hrecords : (ofRecords rs).snapshot.records.Perm (ofRecords rs').snapshot.records :=
    (records_ofRecords rs).trans (((h.filter _).map _).trans (records_ofRecords rs').symm)
  have hdetails := Snapshot.details_perm hrecords
  refine ⟨?_, fun k m => ?_, ?_⟩
  · refine Snapshot.places_eq_of_details (filled_ofRecords rs) (filled_ofRecords rs') fun k m => ?_
    exact ⟨fun hnone => (hnone ▸ hdetails k m).nil_eq.symm,
      fun hnone => (hnone ▸ hdetails k m).eq_nil⟩
  · exact .of_ascending (hdetails k m) (ascending_ofRecords rs k m) (ascending_ofRecords rs' k m)
  · have hsorted : (byStamp rs).Perm (byStamp rs') :=
      (byStamp_perm rs).trans (h.trans (byStamp_perm rs').symm)
    exact (hsorted.filter fun r => !r.hasPlainYear).length_eq

end Store.Loaded

/-! ### Two ways of writing -/

/-- Two sessions that differ at most in the order of rows. -/
structure SameRecords (s t : Session) : Prop where
  /-- The rows are the same, in some order. -/
  rows : s.database.rows.Perm t.database.rows
  /-- A load of either finds the same, but for the order of details that share a place and an
  instant. -/
  loads : ∀ id st id' st', s.stores[id]? = some st → st.phase = .ready → t.stores[id']? = some st' →
    st'.phase = .ready → ∃ f g, (s.step (.ask id (.load .never))).1 = .ok (.loaded f) ∧
      (t.step (.ask id' (.load .never))).1 = .ok (.loaded g) ∧ f.Alike g

/-- **The order of writes does not show.**  In two sessions over tables without rows the same
records are written with success, each as often in one as in the other: in any order, one at a
time or in batches, by any stores of the session, with whatever else they do or fail to do in
between.  Then the rows are the same in some order, as many additions were reported, and what is
loaded differs at most in the order of details that share a place and an instant. -/
theorem write_order_irrelevant {s t : Session} (hs : s.Orderly) (ht : t.Orderly)
    (hsempty : s.database.rows = []) (htempty : t.database.rows = []) {ms ns : List Move}
    (hms : ∀ m ∈ ms, m.sparesTable = true) (hns : ∀ m ∈ ns, m.sparesTable = true) {rs : List Record}
    (hkeys : KeysSeparate rs) (hwritten : ((s.log ms).flatMap Exchange.written).Perm rs)
    (hwritten' : ((t.log ns).flatMap Exchange.written).Perm rs) :
    SameRecords (s.run ms) (t.run ns) ∧
      ((s.log ms).map Exchange.reported).sum = ((t.log ns).map Exchange.reported).sum := by
  have hrows := Session.rows_run_of_empty hs hsempty hms
  have hrows' := Session.rows_run_of_empty ht htempty hns
  -- the same records were written, and keys tell them apart, so each run has kept the same ones
  have hperm : (fresh Record.cellKey [] ((s.log ms).flatMap Exchange.written)).Perm
      (fresh Record.cellKey [] ((t.log ns).flatMap Exchange.written)) := by
    refine fresh_perm (hwritten.trans hwritten'.symm) (fun a ha b hb hab => ?_) []
    exact hkeys a (hwritten.mem_iff.mp ha) b (hwritten.mem_iff.mp hb) (Record.cellKey_inj.mp hab)
  refine ⟨⟨?_, fun id st id' st' hget hready hget' hready' => ?_⟩, ?_⟩
  · rw [hrows, hrows']
    exact hperm.map _
  · exact ⟨_, _, Session.load_of_rows (hs.run hms) hget hready hrows,
      Session.load_of_rows (ht.run hns) hget' hready' hrows', Store.Loaded.alike_ofRecords hperm⟩
  · have hnone : s.database.keys = [] := by rw [Database.keys, hsempty, List.map_nil]
    have hnone' : t.database.keys = [] := by rw [Database.keys, htempty, List.map_nil]
    rw [Session.sum_reported_log hs hms, Session.sum_reported_log ht hns, Session.added_log hs hms,
      Session.added_log ht hns, hnone, hnone', hperm.length_eq]

/-! ### Ways of writing that succeed -/

/-- The move is a write of one of the stores, and nobody calls it off. -/
def Move.IsWriteOf (ids : List Nat) : Move → Prop
  | .ask id call => id ∈ ids ∧ call.writes = true ∧ call.interruption = .never
  | _ => False

/-- A write that nobody calls off succeeds on a table that no record is kept out of, and leaves
it such. -/
theorem Call.onTable_of_admits {call : Call} (hc : call.writes = true)
    (hi : call.interruption = .never) {db : Database} (hg : db.Guarded) (ha : ∀ r, db.Admits r) :
    ∃ reply db', call.onTable db = .ok (reply, db') ∧ ∀ r, db'.Admits r := by
  cases call with
  | insert r =>
    obtain ⟨⟨added, db'⟩, hoffer⟩ := (ha r).offer hg
    exact ⟨.inserted added, db', by rw [onTable, hoffer], fun r' => (ha r').offer_ok hoffer⟩
  | persist snapshot i =>
    obtain rfl : i = .never := hi
    obtain ⟨tally, db', hall, ha'⟩ := @Store.insertAll_of_admits snapshot.records 0 {} db hg ha
    exact ⟨.persisted tally, db', onTable_persist hall, ha'⟩
  | _ => cases hc

namespace Session

variable {s : Session} {ids : List Nat}

/-- A store that serves writes what it is asked to, and all that serve go on to. -/
theorem written_step_of_serves (hs : ∀ id ∈ ids, s.Serves id) {m : Move} (hm : m.IsWriteOf ids) :
    (Exchange.mk m s (s.step m).1).written = m.records ∧ ∀ id ∈ ids, (s.step m).2.Serves id := by
  cases m with
  | ask id call =>
    obtain ⟨hid, hc, hi⟩ := hm
    obtain ⟨horderly, ⟨st, hget, hready⟩, hadmits⟩ := hs id hid
    have hguard := horderly.guarded st (List.mem_of_getElem? hget) hready
    obtain ⟨reply, db, hon, hadmits'⟩ := Call.onTable_of_admits hc hi hguard hadmits
    have huses : call.usesTable = true := by
      cases call with
      | insert r => rfl
      | persist snapshot i => rfl
      | _ => cases hc
    obtain ⟨hanswer, hdb, hself⟩ := step_of_onTable horderly hget hready huses hon
    refine ⟨by rw [Exchange.written, hanswer], fun other hother => ?_⟩
    refine ⟨horderly.step rfl, ?_, hdb.symm ▸ hadmits'⟩
    by_cases heq : other = id
    · exact heq ▸ hself
    · -- another store is as it was
      obtain ⟨-, ⟨st', hget', hready'⟩, -⟩ := hs other hother
      refine ⟨st', ?_, hready'⟩
      simp only [step, hget]
      rw [List.getElem?_set_ne (Ne.symm heq), hget']
  | _ => cases hm

/-- **Stores that serve write whatever they are asked to**, in whatever order and batches. -/
theorem written_log_of_serves {ms : List Move} (hs : ∀ id ∈ ids, s.Serves id)
    (hms : ∀ m ∈ ms, m.IsWriteOf ids) :
    (s.log ms).flatMap Exchange.written = ms.flatMap Move.records ∧
    ∀ id ∈ ids, (s.run ms).Serves id := by
  induction ms generalizing s with
  | nil => exact ⟨rfl, hs⟩
  | cons m ms ih =>
    obtain ⟨hfirst, hs'⟩ := written_step_of_serves hs (hms m List.mem_cons_self)
    obtain ⟨hrest, hend⟩ := ih hs' fun m' hm' => hms m' (List.mem_cons_of_mem _ hm')
    refine ⟨?_, hend⟩
    rw [log_cons, List.flatMap_cons, List.flatMap_cons, hfirst, hrest]

/-- A session with two stores, both of which made sure of the table. -/
def preparedPair : Session :=
  blank.run [.openStore "u.db" 0, .openStore "u.db" 0, .ask 0 (.ensureSchema .never),
    .ask 1 (.ensureSchema .never)]

theorem serves_preparedPair : ∀ id ∈ [0, 1], preparedPair.Serves id := by
  have horderly : preparedPair.Orderly := orderly_blank.run (by decide)
  have hadmits : ∀ r, preparedPair.database.Admits r := by
    intro r
    refine ⟨rfl, fun l hl => ?_⟩
    cases hl
    nofun
  intro id hid
  simp only [List.mem_cons, List.not_mem_nil, or_false] at hid
  rcases hid with rfl | rfl
  · exact ⟨horderly, ⟨_, rfl, rfl⟩, hadmits⟩
  · exact ⟨horderly, ⟨_, rfl, rfl⟩, hadmits⟩

end Session

/-- One of two stores inserts the first sample, and the other one persists both. -/
def firstThenBoth : List Move :=
  [.ask 0 (.insert sampleRecords[0]), .ask 1 (.persist (.ofRecords sampleRecords) .never)]

/-- One store inserts the samples in the opposite order, and persists the first one again. -/
def secondThenFirst : List Move :=
  [.ask 0 (.insert sampleRecords[1]), .ask 0 (.insert sampleRecords[0]),
    .ask 0 (.persist (.ofRecords (sampleRecords.take 1)) .never)]

/-- Two stores write what one store writes in another order.  The samples are of one place and
instant, so this shows in the order of the rows, and of what is loaded. -/
theorem write_order_irrelevant_samples :
    KeysSeparate (sampleRecords ++ sampleRecords.take 1) ∧
      ((Session.preparedPair.log firstThenBoth).flatMap Exchange.written).Perm
        (sampleRecords ++ sampleRecords.take 1) ∧
      ((Session.prepared.log secondThenFirst).flatMap Exchange.written).Perm
        (sampleRecords ++ sampleRecords.take 1) ∧
      ((Session.preparedPair.log firstThenBoth).map Exchange.reported).sum =
        ((Session.prepared.log secondThenFirst).map Exchange.reported).sum ∧
      ∃ f g, ((Session.preparedPair.run firstThenBoth).step (.ask 1 (.load .never))).1 =
        .ok (.loaded f) ∧
        ((Session.prepared.run secondThenFirst).step (.ask 0 (.load .never))).1 = .ok (.loaded g) ∧
        f.Alike g := by
  have hkeys : KeysSeparate (sampleRecords ++ sampleRecords.take 1) :=
    keysSeparate_sampleRecords.of_subset (by decide)
  have hwrites : ∀ m ∈ firstThenBoth, m.IsWriteOf [0, 1] := by
    simp [firstThenBoth, Move.IsWriteOf, Call.writes, Call.interruption]
  have hwrites' : ∀ m ∈ secondThenFirst, m.IsWriteOf [0] := by
    simp [secondThenFirst, Move.IsWriteOf, Call.writes, Call.interruption]
  obtain ⟨hwritten, hend⟩ := Session.written_log_of_serves Session.serves_preparedPair hwrites
  obtain ⟨hwritten', hend'⟩ :=
    Session.written_log_of_serves (by simpa using Session.serves_prepared) hwrites'
  -- one sample is written twice, in one run first and in the other last
  have hperm : (firstThenBoth.flatMap Move.records).Perm
      (sampleRecords ++ sampleRecords.take 1) := by
    decide +kernel
  have hperm' : (secondThenFirst.flatMap Move.records).Perm
      (sampleRecords ++ sampleRecords.take 1) := by
    decide +kernel
  have hpair := Session.serves_preparedPair 1 (by simp)
  obtain ⟨hsame, hsum⟩ := write_order_irrelevant hpair.orderly Session.serves_prepared.orderly
    rfl rfl
    (by simp [firstThenBoth, Move.sparesTable]) (by simp [secondThenFirst, Move.sparesTable]) hkeys
    (hwritten.symm ▸ hperm) (hwritten'.symm ▸ hperm')
  obtain ⟨st, hget, hready⟩ := (hend 1 (by simp)).ready
  obtain ⟨st', hget', hready'⟩ := (hend' 0 (by simp)).ready
  exact ⟨hkeys, hwritten.symm ▸ hperm, hwritten'.symm ▸ hperm', hsum,
    hsame.loads 1 st 0 st' hget hready hget' hready'⟩

end UsageLedger
