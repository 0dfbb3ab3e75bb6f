import UsageLedger.Proofs.Fresh
import UsageLedger.Store.Basic

/-!
# The table under writes

What becomes of the rows when a record is offered, when the records of a snapshot are inserted
in one go, and when table and indexes are made.  All of it rests on the unique index: while the
table stands with it, the keys of the rows are distinct, and a record is taken in exactly when
its key is new.

## Main definitions

* `Database.Guarded` — the usage table stands, with the unique index over its keys.
* `Relation.Indexed` — no two rows under a unique index have the same key.

## Main results

* `Database.offer_of_table` — what offering a row to the table leads to, case by case.
* `Store.insertAll_ok` — records inserted in one go add those with new keys, each key once.
* `Store.migrate_rows`, `Store.guarded_migrate` — making table and indexes touches no row.
-/

namespace UsageLedger

theorem bind_eq_ok {ε α β : Type} {first : Except ε α} {next : α → Except ε β} {b : β} :
    (first >>= next) = .ok b ↔ ∃ a, first = .ok a ∧ next a = .ok b := by
  cases first <;> simp [bind, Except.bind]

/-- The key of a record, as the table holds it. -/
def Record.cellKey (r : Record) : Cell :=
  .text r.key

theorem Record.cellKey_inj {a b : Record} : a.cellKey = b.cellKey ↔ a.key = b.key := by
  simp [cellKey]

/-- What a unique index is for: where it stands, no two rows have the same key. -/
def Relation.Indexed (r : Relation) : Prop :=
  ∀ l, r = .ledger l → l.unique = true → l.keysDistinct = true

namespace Database

/-- The usage table stands, with the unique index over its keys. -/
def Guarded (db : Database) : Prop :=
  ∃ l, db.relation = .ledger l ∧ l.unique = true

theorem rows_of_table {db : Database} {l : Ledger} (h : db.relation = .ledger l) :
    db.rows = l.rows := by
  rw [rows, h]

theorem shape_of_table {db : Database} {l : Ledger} (h : db.relation = .ledger l) :
    db.shape = .ledger := by
  rw [shape, h, Relation.shape]

theorem Guarded.nodup_keys {db : Database} (hg : db.Guarded) (hi : db.relation.Indexed) :
    db.keys.Nodup := by
  obtain ⟨l, hl, hu⟩ := hg
  have hdistinct := hi l hl hu
  rw [Ledger.keysDistinct, decide_eq_true_eq] at hdistinct
  rwa [keys, rows_of_table hl]

theorem shape_eq_ledger_iff {db : Database} :
    db.shape = .ledger ↔ ∃ l, db.relation = .ledger l := by
  rw [shape]
  cases db.relation <;> simp [Relation.shape]

theorem rowCount_of_table {db : Database} (h : db.shape = .ledger) :
    db.rowCount = db.rows.length := by
  obtain ⟨l, hl⟩ := shape_eq_ledger_iff.mp h
  rw [rowCount, hl]

theorem shape_eq_absent_iff {db : Database} : db.shape = .absent ↔ db.relation = .absent := by
  rw [shape]
  cases db.relation <;> simp [Relation.shape]

theorem Guarded.shape_eq {db : Database} (h : db.Guarded) : db.shape = .ledger := by
  obtain ⟨l, hl, -⟩ := h
  exact shape_of_table hl

/-- A table that is changed but for its rows and its unique index keeps both. -/
theorem kept_of_table {db : Database} {l : Ledger} (h : db.relation = .ledger l) (l' : Ledger)
    (hrows : l'.rows = l.rows) (hu : l'.unique = l.unique) :
    ({ db with relation := .ledger l' } : Database).rows = db.rows ∧
      (db.Guarded → ({ db with relation := .ledger l' } : Database).Guarded) := by
  refine ⟨by simp [rows, h, hrows], ?_⟩
  rintro ⟨l₀, hl₀, hu₀⟩
  obtain rfl : l = l₀ := by simpa [h] using hl₀
  exact ⟨l', rfl, hu.trans hu₀⟩

theorem hasKey_iff {db : Database} {l : Ledger} (h : db.relation = .ledger l) (key : Cell) :
    l.hasKey key = true ↔ key ∈ db.keys := by
  rw [keys, rows_of_table h, Ledger.hasKey, List.any_eq_true]
  constructor
  · rintro ⟨r, hr, hk⟩
    exact List.mem_map.mpr ⟨r, hr, by simpa using hk⟩
  · intro hk
    obtain ⟨r, hr, rfl⟩ := List.mem_map.mp hk
    exact ⟨r, hr, by simp⟩

/-! ### Offering a row -/

theorem checkWritable_bind_eq_ok {α : Type} {db : Database} {next : Unit → Except Fault α} {a : α} :
    (db.checkWritable >>= next) = .ok a ↔ db.locked = false ∧ next () = .ok a := by
  rw [checkWritable]
  cases db.locked <;> simp [bind, Except.bind]

/-- What offering a row to the table leads to. -/
theorem offer_of_table {db : Database} {l : Ledger} (h : db.relation = .ledger l) (r : Row) :
    db.offer r =
      if db.locked then .error .locked
      else if l.rejects r then .error .rejected
      else if l.unique ∧ r.dedupKey ∈ db.keys then .ok (false, db)
      else .ok (true, { db with relation := .ledger { l with rows := l.rows ++ [r] } }) := by
  have hkey := hasKey_iff h r.dedupKey
  obtain ⟨version, relation, writeAhead, locked⟩ := db
  obtain rfl : relation = .ledger l := h
  cases locked with
  | true => rfl
  | false =>
    by_cases hrej : l.rejects r = true
    · simp [offer, checkWritable, shape, Relation.shape, Shape.checkInsert, Ledger.offer, hrej,
        bind, Except.bind]
    · simp only [← hkey]
      by_cases hk : l.unique = true ∧ l.hasKey r.dedupKey = true <;>
        simp [offer, checkWritable, shape, Relation.shape, Shape.checkInsert, Ledger.offer,
          hrej, hk, bind, Except.bind, pure, Except.pure]

theorem offer_of_not_table {db : Database} (h : db.shape ≠ .ledger) (r : Row) :
    ∃ f, db.offer r = .error f := by
  rw [offer, checkWritable]
  by_cases hlock : db.locked = true
  · exact ⟨.locked, by simp [hlock, bind, Except.bind]⟩
  · cases hs : db.shape with
    | ledger => exact absurd hs h
    | absent => exact ⟨.noTable, by simp [hlock, Shape.checkInsert, bind, Except.bind]⟩
    | narrow =>
      exact ⟨.noTargetColumn "model", by simp [hlock, Shape.checkInsert, bind, Except.bind]⟩
    | view => exact ⟨.viewTarget, by simp [hlock, Shape.checkInsert, bind, Except.bind]⟩

/-- A row that was offered successfully is at the end of the table now, or the table is as it was
because the unique index knew the key. -/
theorem offer_ok {db db' : Database} {r : Row} {added : Bool} (h : db.offer r = .ok (added, db')) :
    ∃ l, db.relation = .ledger l ∧ db.locked = false ∧ l.rejects r = false ∧
      (added = false ∧ l.unique = true ∧ r.dedupKey ∈ db.keys ∧ db' = db ∨
        added = true ∧ ¬(l.unique = true ∧ r.dedupKey ∈ db.keys) ∧
          db' = { db with relation := .ledger { l with rows := l.rows ++ [r] } }) := by
  by_cases hs : db.shape = .ledger
  · obtain ⟨l, hl⟩ := shape_eq_ledger_iff.mp hs
    rw [offer_of_table hl] at h
    refine ⟨l, hl, ?_⟩
    split at h
    · cases h
    · next hlock =>
      split at h
      · cases h
      · next hrej =>
        refine ⟨by simpa using hlock, by simpa using hrej, ?_⟩
        split at h
        · -- the key is there and the index lets the row fall, or the row goes in
          next hk =>
          simp only [Except.ok.injEq, Prod.mk.injEq] at h
          exact .inl ⟨h.1.symm, hk.1, hk.2, h.2.symm⟩
        · next hk =>
          simp only [Except.ok.injEq, Prod.mk.injEq] at h
          exact .inr ⟨h.1.symm, hk, h.2.symm⟩
  · obtain ⟨f, hf⟩ := offer_of_not_table hs r
    rw [hf] at h
    cases h

theorem offer_rows {db db' : Database} {r : Row} {added : Bool}
    (h : db.offer r = .ok (added, db')) :
    db'.rows = db.rows ++ if added then [r] else [] := by
  obtain ⟨l, hl, -, -, hcase⟩ := offer_ok h
  rcases hcase with ⟨rfl, -, -, rfl⟩ | ⟨rfl, -, rfl⟩
  · simp
  · simp [rows, hl]

/-- While the unique index is there, a row is added exactly when its key is new. -/
theorem Guarded.offer_added {db db' : Database} {r : Row} {added : Bool} (hg : db.Guarded)
    (h : db.offer r = .ok (added, db')) : added = true ↔ r.dedupKey ∉ db.keys := by
  obtain ⟨l, hl, hu⟩ := hg
  obtain ⟨l', hl', -, -, hcase⟩ := offer_ok h
  obtain rfl : l = l' := by simpa [hl] using hl'
  rcases hcase with ⟨rfl, -, hk, -⟩ | ⟨rfl, hk, -⟩
  · simp [hk]
  · simpa [hu] using hk

theorem Guarded.offer {db db' : Database} {r : Row} {added : Bool} (hg : db.Guarded)
    (h : db.offer r = .ok (added, db')) : db'.Guarded := by
  obtain ⟨l, hl, hu⟩ := hg
  obtain ⟨l', hl', -, -, hcase⟩ := offer_ok h
  obtain rfl : l = l' := by simpa [hl] using hl'
  rcases hcase with ⟨-, -, -, rfl⟩ | ⟨-, -, rfl⟩
  · exact ⟨l, hl, hu⟩
  · exact ⟨_, rfl, hu⟩

end Database

@[simp] theorem Row.dedupKey_ofRecord (r : Record) : (Row.ofRecord r).dedupKey = r.cellKey := rfl

theorem Database.keys_append {db : Database} {rows : List Row} {rs : List Record}
    (h : db.rows = rows ++ rs.map Row.ofRecord) :
    db.keys = rows.map (·.dedupKey) ++ rs.map Record.cellKey := by
  rw [keys, h, List.map_append, List.map_map]
  rfl

theorem Database.keys_ofRecords {db : Database} {rs : List Record}
    (h : db.rows = rs.map Row.ofRecord) :
    db.keys = rs.map Record.cellKey :=
  @keys_append db [] rs h

namespace Store

/-! ### Inserting records in one go -/

/-- Records that were all inserted add those with new keys, each key once, and the tally says
how many those are. -/
theorem insertAll_ok (i : Interruption) (rs : List Record) :
    ∀ {step : Nat} {t t' : Tally} {db db' : Database}, db.Guarded →
      insertAll i step rs t db = .ok (t', db') →
      db'.Guarded ∧
        db'.rows = db.rows ++ (fresh Record.cellKey db.keys rs).map Row.ofRecord ∧
        t'.added = t.added + (fresh Record.cellKey db.keys rs).length ∧
        t'.total = t.total + rs.length := by
  induction rs with
  | nil =>
    intro step t t' db db' hg h
    simp only [insertAll, Except.ok.injEq, Prod.mk.injEq] at h
    obtain ⟨rfl, rfl⟩ := h
    exact ⟨hg, by simp, by simp, rfl⟩
  | cons r rs ih =>
    intro step t t' db db' hg h
    rw [insertAll] at h
    split at h
    · cases h
    · split at h
      · cases h
      · next added db₁ hoffer =>
        obtain ⟨hg', hrows, hadded, htotal⟩ := ih (hg.offer hoffer) h
        have hiff := hg.offer_added hoffer
        have hrows₁ := Database.offer_rows hoffer
        refine ⟨hg', ?_⟩
        rw [Row.dedupKey_ofRecord] at hiff
        cases added with
        | false =>
          have hk : r.cellKey ∈ db.keys := by simpa using hiff
          have hkeys : db₁.keys = db.keys := by simp [Database.keys, hrows₁]
          rw [hkeys] at hrows hadded
          rw [fresh_cons_of_mem hk]
          refine ⟨by simpa [hrows₁] using hrows, by simpa [Tally.note] using hadded, ?_⟩
          simp only [Tally.note, Tally.total, List.length_cons] at htotal ⊢
          simp at htotal
          omega
        | true =>
          have hk : r.cellKey ∉ db.keys := by simpa using hiff
          -- the key just added counts as met before, wherever it stands
          have hfresh : fresh Record.cellKey db₁.keys rs
              = fresh Record.cellKey (r.cellKey :: db.keys) rs :=
            fresh_congr rs fun k => by
              simp [Database.keys, hrows₁, or_comm]
          rw [hfresh] at hrows hadded
          rw [fresh_cons_of_notMem hk]
          refine ⟨by simpa [hrows₁] using hrows, ?_, ?_⟩
          · simp only [Tally.note, List.length_cons] at hadded ⊢
            simp at hadded
            omega
          · simp only [Tally.note, Tally.total, List.length_cons] at htotal ⊢
            simp at htotal
            omega

/-! ### Making table and indexes -/

/-- What a statement that makes a part of the layout can do: nothing, where the part is there,
or make just that part. -/
theorem apply_ok {db db' : Database} {m : Database.Migration} (h : db.apply m = .ok db') :
    db' = db ∧ (m = .uniqueIndex → db.Guarded) ∨
    m = .table ∧ db.relation = .absent ∧ db' = { db with relation := .ledger {} } ∨
    (∃ l, m = .uniqueIndex ∧ db.relation = .ledger l ∧ l.keysDistinct = true ∧
      db' = { db with relation := .ledger { l with unique := true } }) ∨
    (∃ l, m = .lookupIndex ∧ db.relation = .ledger l ∧
      db' = { db with relation := .ledger { l with lookup := true } }) ∨
    m = .version ∧ db' = { db with version := Database.currentVersion } := by
  -- each statement first looks whether its work is done
  cases m with
  | table =>
    cases hr : db.relation with
    | absent =>
      simp only [Database.apply, hr, Database.checkWritable_bind_eq_ok, pure, Except.pure,
        Except.ok.injEq] at h
      exact .inr (.inl ⟨rfl, rfl, h.2.symm⟩)
    | _ =>
      simp only [Database.apply, hr, pure, Except.pure, Except.ok.injEq] at h
      exact .inl ⟨h.symm, by simp⟩
  | uniqueIndex =>
    cases hr : db.relation with
    | ledger l =>
      simp only [Database.apply, hr, pure, Except.pure] at h
      split at h
      · next hu => exact .inl ⟨(Except.ok.inj h).symm, fun _ => ⟨l, hr, hu⟩⟩
      · rw [Database.checkWritable_bind_eq_ok] at h
        obtain ⟨-, h⟩ := h
        split at h
        · next hd => exact .inr (.inr (.inl ⟨l, rfl, rfl, hd, (Except.ok.inj h).symm⟩))
        · cases h
    | _ => simp [Database.apply, hr] at h
  | lookupIndex =>
    cases hr : db.relation with
    | ledger l =>
      simp only [Database.apply, hr, pure, Except.pure] at h
      split at h
      · exact .inl ⟨(Except.ok.inj h).symm, by simp⟩
      · rw [Database.checkWritable_bind_eq_ok] at h
        exact .inr (.inr (.inr (.inl ⟨l, rfl, rfl, (Except.ok.inj h.2).symm⟩)))
    | _ => simp [Database.apply, hr] at h
  | version =>
    simp only [Database.apply, pure, Except.pure] at h
    split at h
    · rw [Database.checkWritable_bind_eq_ok] at h
      exact .inr (.inr (.inr (.inr ⟨rfl, (Except.ok.inj h.2).symm⟩)))
    · exact .inl ⟨(Except.ok.inj h).symm, by simp⟩

theorem apply_rows {db db' : Database} {m : Database.Migration} (h : db.apply m = .ok db') :
    db'.rows = db.rows := by
  rcases apply_ok h with
    ⟨rfl, -⟩ | ⟨-, hr, rfl⟩ | ⟨l, -, hr, -, rfl⟩ | ⟨l, -, hr, rfl⟩ | ⟨-, rfl⟩
  · rfl
  · simp [Database.rows, hr]
  · simp [Database.rows, hr]
  · simp [Database.rows, hr]
  · rfl

/-- A statement that makes a part of the layout leaves the unique index in place, and the one
for the unique index puts it there. -/
theorem guarded_apply {db db' : Database} {m : Database.Migration}
    (hg : db.Guarded ∨ m = .uniqueIndex) (h : db.apply m = .ok db') : db'.Guarded := by
  rcases apply_ok h with
    ⟨rfl, hu⟩ | ⟨rfl, hr, rfl⟩ | ⟨l, -, hr, -, rfl⟩ | ⟨l, rfl, hr, rfl⟩ | ⟨rfl, rfl⟩
  · exact hg.elim id hu
  · obtain ⟨l, hl, -⟩ : db.Guarded := by simpa using hg
    rw [hr] at hl
    cases hl
  · exact ⟨_, rfl, rfl⟩
  · have hguard : db.Guarded := by simpa using hg
    exact (Database.kept_of_table hr { l with lookup := true } rfl rfl).2 hguard
  · obtain ⟨l, hl, hu⟩ : db.Guarded := by simpa using hg
    exact ⟨l, hl, hu⟩

/-- Making table and indexes touches no row, however far it comes. -/
theorem migrate_rows (i : Interruption) (ms : List Database.Migration) :
    ∀ (step : Nat) (db : Database), (migrate i step ms db).2.rows = db.rows := by
  induction ms with
  | nil => intro step db; rfl
  | cons m ms ih =>
    intro step db
    rw [migrate]
    split
    · rfl
    · split
      · next db' h => rw [ih, apply_rows h]
      · rfl

/-- Making table and indexes leaves the unique index in place, and if it comes to its end the unique
index is there. -/
theorem guarded_migrate (i : Interruption) (ms : List Database.Migration) :
    ∀ (step : Nat) (db : Database),
      (db.Guarded ∨ (migrate i step ms db).1 = .ok () ∧ .uniqueIndex ∈ ms) →
      (migrate i step ms db).2.Guarded := by
  induction ms with
  | nil =>
    intro step db h
    simpa [migrate] using h
  | cons m ms ih =>
    intro step db h
    rw [migrate] at h ⊢
    by_cases hstop : i.stops step = true
    · simpa [hstop] using h
    · rw [if_neg hstop] at h ⊢
      cases happly : db.apply m with
      | error f => simpa [happly] using h
      | ok db' =>
        simp only [happly] at h ⊢
        refine ih _ _ ?_
        -- the unique index is there, is made just now, or is still to be made
        rcases h with hg | ⟨hok, hmem⟩
        · exact .inl (guarded_apply (.inl hg) happly)
        · rcases List.mem_cons.mp hmem with rfl | hmem
          · exact .inl (guarded_apply (.inr rfl) happly)
          · exact .inr ⟨hok, hmem⟩

theorem indexed_apply {db db' : Database} {m : Database.Migration} (hi : db.relation.Indexed)
    (h : db.apply m = .ok db') : db'.relation.Indexed := by
  intro l' hl' hu
  rcases apply_ok h with
    ⟨rfl, -⟩ | ⟨-, -, rfl⟩ | ⟨l, -, -, hdistinct, rfl⟩ | ⟨l, -, hr, rfl⟩ | ⟨-, rfl⟩
  · exact hi l' hl' hu
  · cases hl'
    cases hu
  · cases hl'
    exact hdistinct
  · cases hl'
    exact hi l hr hu
  · exact hi l' hl' hu

/-- Making table and indexes lets no two rows under a unique index have the same key, however
far it comes. -/
theorem indexed_migrate (i : Interruption) (ms : List Database.Migration) :
    ∀ (step : Nat) {db : Database}, db.relation.Indexed →
      (migrate i step ms db).2.relation.Indexed := by
  induction ms with
  | nil =>
    intro step db hi
    exact hi
  | cons m ms ih =>
    intro step db hi
    rw [migrate]
    split
    · exact hi
    · split
      · next db' h => exact ih _ (indexed_apply hi h)
      · exact hi

end Store

end UsageLedger
