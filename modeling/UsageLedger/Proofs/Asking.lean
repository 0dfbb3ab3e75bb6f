import UsageLedger.Proofs.Accounting
import UsageLedger.Proofs.ReadBack

/-!
# Asking a ready store

What a store of a session answers when it is ready and nothing but a known key keeps a record
out: how many records of a snapshot it took in, and what it finds when it reads them back.

## Main definitions

* `Session.Serves` — a store of the session is ready, and no record is refused.

## Main results

* `Session.Serves.persist` — what is answered to a snapshot, and which rows it adds.
* `Session.load_of_rows` — what is answered to a load.
-/

namespace UsageLedger

namespace Database

theorem Admits.offer_ok {db db' : Database} {r : Record} (ha : db.Admits r) {row : Row}
    {added : Bool} (h : db.offer row = .ok (added, db')) : db'.Admits r := by
  obtain ⟨l, hl, -, -, ⟨-, -, -, rfl⟩ | ⟨-, -, rfl⟩⟩ := Database.offer_ok h
  · exact ha
  · refine ⟨ha.1, fun l' hl' => ?_⟩
    cases hl'
    exact ha.2 l hl

end Database

namespace Store

/-- Records are all inserted where nothing but a known key keeps a record out. -/
theorem insertAll_of_admits (rs : List Record) :
    ∀ {step : Nat} {t : Tally} {db : Database}, db.Guarded → (∀ r, db.Admits r) →
      ∃ t' db', insertAll .never step rs t db = .ok (t', db') ∧ ∀ r, db'.Admits r := by
  induction rs with
  | nil => intro step t db _ ha; exact ⟨t, db, rfl, ha⟩
  | cons r rs ih =>
    intro step t db hg ha
    obtain ⟨⟨added, db₁⟩, hoffer⟩ := (ha r).offer hg
    obtain ⟨t', db', hrest, ha'⟩ :=
      @ih (step + 1) (t.note added) db₁ (hg.offer hoffer) fun r => (ha r).offer_ok hoffer
    refine ⟨t', db', ?_, ha'⟩
    rw [insertAll, if_neg (by simp [Interruption.stops]), hoffer]
    exact hrest

/-- What inserting records leads to where nothing but a known key keeps a record out: those with
new keys are taken in, each key once, and counted. -/
theorem insertAll_eq_of_admits {db : Database} (hg : db.Guarded) (ha : ∀ r, db.Admits r)
    (rs : List Record) :
    ∃ db', insertAll .never 0 rs {} db =
        .ok (⟨(fresh Record.cellKey db.keys rs).length,
          rs.length - (fresh Record.cellKey db.keys rs).length⟩, db') ∧
      db'.rows = db.rows ++ (fresh Record.cellKey db.keys rs).map Row.ofRecord ∧
      ∀ r, db'.Admits r := by
  obtain ⟨⟨added, skipped⟩, db', hall, hadmits⟩ := @insertAll_of_admits rs 0 {} db hg ha
  obtain ⟨-, hrows, hadded, htotal⟩ := insertAll_ok .never rs hg hall
  refine ⟨db', ?_, hrows, hadmits⟩
  simp only [Tally.total] at hadded htotal
  rw [hall]
  congr
  all_goals omega

end Store

namespace Session

/-- A store of the session is ready, and nothing but a known key keeps a record out. -/
structure Serves (s : Session) (id : Nat) : Prop where
  /-- Every store that is ready works on a table with a unique index. -/
  orderly : s.Orderly
  /-- The store is ready. -/
  ready : ∃ st, s.stores[id]? = some st ∧ st.phase = .ready
  /-- Nobody else is writing, and no model is refused. -/
  admits : ∀ r, s.database.Admits r

variable {s : Session} {id : Nat}

theorem step_of_onTable (hs : s.Orderly) {st : Store} (hget : s.stores[id]? = some st)
    (hready : st.phase = .ready) {call : Call} (hc : call.usesTable = true) {reply : Reply}
    {db : Database} (h : call.onTable s.database = .ok (reply, db)) :
    (s.step (.ask id call)).1 = .ok reply ∧ (s.step (.ask id call)).2.database = db ∧
      ∃ st', (s.step (.ask id call)).2.stores[id]? = some st' ∧ st'.phase = .ready := by
  have hmem := List.mem_of_getElem? hget
  have hquiet := hs.quiet st hmem
  have hshape := (hs.guarded st hmem hready).shape_eq
  obtain ⟨hanswer, hdb⟩ := answer_of_onTable hget hquiet (hs.linked st hmem) hready hshape hc h
  exact ⟨hanswer, hdb, ready_step hget hquiet hready hc⟩

/-- **What is answered to a snapshot**: how many of its records were taken in, which are those
with new keys, each key once; their rows come behind the others. -/
theorem Serves.persist (hs : s.Serves id) (n : Snapshot) :
    (s.step (.ask id (.persist n .never))).1 =
        .ok (.persisted ⟨(fresh Record.cellKey s.database.keys n.records).length,
          n.records.length - (fresh Record.cellKey s.database.keys n.records).length⟩) ∧
      (s.step (.ask id (.persist n .never))).2.database.rows =
        s.database.rows ++ (fresh Record.cellKey s.database.keys n.records).map Row.ofRecord ∧
      (s.step (.ask id (.persist n .never))).2.Serves id := by
  obtain ⟨st, hget, hready⟩ := hs.ready
  have hguard := hs.orderly.guarded st (List.mem_of_getElem? hget) hready
  obtain ⟨db, hall, hrows, hadmits⟩ := Store.insertAll_eq_of_admits hguard hs.admits n.records
  generalize fresh Record.cellKey s.database.keys n.records = added at hall hrows ⊢
  obtain ⟨hanswer, hdb, hready'⟩ :=
    step_of_onTable hs.orderly hget hready rfl (Call.onTable_persist hall)
  exact ⟨hanswer, hdb.symm ▸ hrows, hs.orderly.step rfl, hready', hdb.symm ▸ hadmits⟩

/-- **What is answered to a load**, and that nothing is changed by it. -/
theorem load_of_rows (hs : s.Orderly) {st : Store} (hget : s.stores[id]? = some st)
    (hready : st.phase = .ready) {rs : List Record}
    (hrows : s.database.rows = rs.map Row.ofRecord) :
    (s.step (.ask id (.load .never))).1 = .ok (.loaded (Store.Loaded.ofRecords rs)) := by
  have hguard := hs.guarded st (List.mem_of_getElem? hget) hready
  have hread := Store.readRows_ofRecords hguard.shape_eq hrows
  exact (step_of_onTable hs hget hready rfl (Call.onTable_load hread)).1

theorem Serves.load (hs : s.Serves id) {rs : List Record}
    (hrows : s.database.rows = rs.map Row.ofRecord) :
    (s.step (.ask id (.load .never))).1 = .ok (.loaded (Store.Loaded.ofRecords rs)) := by
  obtain ⟨st, hget, hready⟩ := hs.ready
  exact load_of_rows hs.orderly hget hready hrows

/-- A session with one store, which made sure of the table. -/
def prepared : Session :=
  blank.run [.openStore "u.db" 0, .ask 0 (.ensureSchema .never)]

theorem serves_prepared : prepared.Serves 0 where
  orderly := orderly_blank.run (by decide)
  ready := ⟨_, rfl, rfl⟩
  admits := by
    intro r
    refine ⟨rfl, fun l hl => ?_⟩
    cases hl
    nofun

end Session

end UsageLedger
