import UsageLedger.Proofs.Table
import Mathlib.Tactic.ByContra

/-!
# The layout of the database

Making sure of the table is a row of statements that are not done as one: each makes its part of
the layout where the part is missing, and what was done before one of them fails stays.  So it
has to be shown of every file, however much of the layout it holds, that the row ends with the
whole of it or fails, and that it can be begun again.

Each statement is taken as what it makes.  It makes its part or fails, it takes no part away,
and where its part is there it does nothing; from these three it follows what a row of
statements leads to.

## Main definitions

* `Database.Has`, `Database.Founded` — the database has a part of the layout, and all of it.
* `Database.Preparable` — nothing keeps table and indexes from being made.

## Main results

* `Database.has_apply_self`, `Database.Has.apply`, `Database.apply_of_has` — what one statement
  does.
* `Store.has_migrate`, `Store.migrate_of_has` — statements that succeed make their parts, and
  those whose parts are there do nothing.
* `Store.version_migrate_of_error` — statements that fail have not noted the version.
* `Store.migrate_ok_iff` — **when table and indexes can be made.**
-/

namespace UsageLedger

/-! ### The parts of the layout -/

namespace Database

/-- The database has the part of the layout that a statement makes. -/
def Has (db : Database) : Migration → Prop
  | .table => db.relation ≠ .absent
  | .uniqueIndex => db.Guarded
  | .lookupIndex => ∃ l, db.relation = .ledger l ∧ l.lookup = true
  | .version => currentVersion ≤ db.version

/-- The database has the whole layout, and no key twice. -/
structure Founded (db : Database) : Prop where
  /-- It has every part. -/
  has : ∀ m, db.Has m
  /-- No two rows have the same key. -/
  distinct : db.keys.Nodup

/-- Nothing keeps table and indexes from being made: nothing else has the name of the table, its
keys are distinct or known to be, and somebody else is writing only if nothing has to be
written. -/
def Preparable (db : Database) : Prop :=
  match db.relation with
  | .absent => db.locked = false
  | .ledger l =>
    (l.unique = true ∨ db.keys.Nodup) ∧
      (db.locked = false ∨ l.unique = true ∧ l.lookup = true ∧ currentVersion ≤ db.version)
  | .narrow _ | .view => False

variable {db db' : Database} {m n : Migration}

/-- A table that is changed but for its indexes has the same parts. -/
theorem has_of_table {l : Ledger} (h : db.relation = .ledger l) (l' : Ledger)
    (hu : l'.unique = l.unique) (hl : l'.lookup = l.lookup) (hm : db.Has m) :
    ({ db with relation := .ledger l' } : Database).Has m := by
  cases m with
  | table => nofun
  | uniqueIndex =>
    obtain ⟨l₀, hl₀, hu₀⟩ := hm
    rw [h] at hl₀
    cases hl₀
    exact ⟨l', rfl, hu.trans hu₀⟩
  | lookupIndex =>
    obtain ⟨l₀, hl₀, hu₀⟩ := hm
    rw [h] at hl₀
    cases hl₀
    exact ⟨l', rfl, hl.trans hu₀⟩
  | version => exact hm

/-- **A statement makes its part**, or finds it. -/
theorem has_apply_self (h : db.apply m = .ok db') : db'.Has m := by
  cases m with
  | table =>
    intro habsent
    cases hr : db.relation with
    | absent =>
      simp only [apply, hr, checkWritable_bind_eq_ok, pure, Except.pure, Except.ok.injEq] at h
      rw [← h.2] at habsent
      cases habsent
    | _ =>
      simp only [apply, hr, pure, Except.pure, Except.ok.injEq] at h
      rw [← h, hr] at habsent
      cases habsent
  | uniqueIndex => exact Store.guarded_apply (.inr rfl) h
  | lookupIndex =>
    cases hr : db.relation with
    | ledger l =>
      simp only [apply, hr, pure, Except.pure] at h
      split at h
      · next hlookup =>
        cases h
        exact ⟨l, hr, hlookup⟩
      · rw [checkWritable_bind_eq_ok] at h
        rw [← Except.ok.inj h.2]
        exact ⟨_, rfl, rfl⟩
    | _ => simp [apply, hr] at h
  | version =>
    simp only [apply, pure, Except.pure] at h
    split at h
    · rw [checkWritable_bind_eq_ok] at h
      rw [← Except.ok.inj h.2]
      exact Int.le_refl _
    · next hnot =>
      cases h
      exact Int.not_lt.mp hnot

/-- **A statement takes no part away.** -/
theorem Has.apply (hn : db.Has n) (h : db.apply m = .ok db') : db'.Has n := by
  -- a statement either changes nothing or adds the one thing it is for
  rcases Store.apply_ok h with
    ⟨rfl, -⟩ | ⟨-, hr, rfl⟩ | ⟨l, -, hr, -, rfl⟩ | ⟨l, -, hr, rfl⟩ | ⟨-, rfl⟩
  · exact hn
  · cases n with
    -- only the version can be there without the table
    | table => exact absurd hr hn
    | version => exact hn
    | _ =>
      obtain ⟨l, hl, -⟩ := hn
      rw [hr] at hl
      cases hl
  · cases n with
    | uniqueIndex => exact ⟨_, rfl, rfl⟩
    | table => nofun
    | version => exact hn
    | lookupIndex =>
      obtain ⟨l₀, hl₀, hlookup⟩ := hn
      rw [hr] at hl₀
      cases hl₀
      exact ⟨_, rfl, hlookup⟩
  · cases n with
    | lookupIndex => exact ⟨_, rfl, rfl⟩
    | table => nofun
    | version => exact hn
    | uniqueIndex => exact (kept_of_table hr { l with lookup := true } rfl rfl).2 hn
  · cases n with
    | version => exact Int.le_refl _
    | _ => exact hn

/-- **A statement whose part is there does nothing**, even while somebody else is writing. -/
theorem apply_of_has (h : db.Has m) : db.apply m = .ok db := by
  cases m with
  | table =>
    cases hr : db.relation with
    | absent => exact absurd hr h
    | _ => simp [apply, hr, pure, Except.pure]
  | uniqueIndex =>
    obtain ⟨l, hl, hu⟩ := h
    simp [apply, hl, hu, pure, Except.pure]
  | lookupIndex =>
    obtain ⟨l, hl, hu⟩ := h
    simp [apply, hl, hu, pure, Except.pure]
  | version =>
    have hnot : ¬db.version < currentVersion := Int.not_lt.mpr h
    simp [apply, hnot, pure, Except.pure]

/-- While somebody else is writing a statement makes nothing. -/
theorem eq_of_apply_of_locked (hlock : db.locked = true) (h : db.apply m = .ok db') : db' = db := by
  rcases Store.apply_ok h with
    ⟨rfl, -⟩ | ⟨rfl, hr, -⟩ | ⟨l, rfl, hr, -, hdb⟩ | ⟨l, rfl, hr, hdb⟩ | ⟨rfl, hdb⟩
  · rfl
  · simp [apply, hr, checkWritable, hlock, bind, Except.bind] at h
  · simp only [apply, hr, checkWritable, hlock, bind, Except.bind, if_true, pure, Except.pure] at h
    split at h <;> cases h
    rfl
  · simp only [apply, hr, checkWritable, hlock, bind, Except.bind, if_true, pure, Except.pure] at h
    split at h <;> cases h
    rfl
  · simp only [apply, checkWritable, hlock, bind, Except.bind, if_true, pure, Except.pure] at h
    split at h <;> cases h
    rfl

/-- While nobody else is writing, and no key is in the table twice, a statement succeeds, and
keeps it so. -/
theorem exists_apply_of_free (m : Migration) {l : Ledger} (hfree : db.locked = false)
    (hl : db.relation = .ledger l) (hkeys : l.unique = true ∨ l.keysDistinct = true) :
    ∃ db' l', db.apply m = .ok db' ∧ db'.locked = false ∧ db'.relation = .ledger l' ∧
      (l'.unique = true ∨ l'.keysDistinct = true) := by
  have hwritable : db.checkWritable = .ok () := by simp [checkWritable, hfree]
  cases m with
  | table => exact ⟨db, l, by simp [apply, hl, pure, Except.pure], hfree, hl, hkeys⟩
  | uniqueIndex =>
    by_cases hu : l.unique = true
    · exact ⟨db, l, apply_of_has ⟨l, hl, hu⟩, hfree, hl, hkeys⟩
    · -- the index can be built, as no key stands twice
      have hdistinct := hkeys.resolve_left hu
      refine ⟨{ db with relation := .ledger { l with unique := true } }, _, ?_, hfree, rfl,
        .inl rfl⟩
      simp [apply, hl, hu, hwritable, hdistinct, bind, Except.bind, pure, Except.pure]
  | lookupIndex =>
    by_cases hlookup : l.lookup = true
    · exact ⟨db, l, apply_of_has ⟨l, hl, hlookup⟩, hfree, hl, hkeys⟩
    · refine ⟨{ db with relation := .ledger { l with lookup := true } }, _, ?_, hfree, rfl, hkeys⟩
      simp [apply, hl, hlookup, hwritable, bind, Except.bind, pure, Except.pure]
  | version =>
    by_cases hversion : db.version < currentVersion
    · refine ⟨{ db with version := currentVersion }, l, ?_, hfree, hl, hkeys⟩
      simp [apply, hversion, hwritable, bind, Except.bind, pure, Except.pure]
    · exact ⟨db, l, apply_of_has (Int.not_lt.mp hversion), hfree, hl, hkeys⟩

/-- A statement leaves the version as it is, but for the one that notes it. -/
theorem version_apply (h : db.apply m = .ok db') :
    db'.version = if m = .version then max db.version currentVersion else db.version := by
  by_cases hm : m = .version
  · subst hm
    rw [if_pos rfl]
    simp only [apply, pure, Except.pure] at h
    split at h
    · rw [checkWritable_bind_eq_ok] at h
      rw [← Except.ok.inj h.2]
      dsimp only
      omega
    · cases h
      omega
  · rw [if_neg hm]
    -- no other statement touches the version
    rcases Store.apply_ok h with
      ⟨rfl, -⟩ | ⟨-, -, rfl⟩ | ⟨l, -, -, -, rfl⟩ | ⟨l, -, -, rfl⟩ | ⟨rfl, -⟩
    · rfl
    · rfl
    · rfl
    · rfl
    · exact absurd rfl hm

end Database

/-! ### Statements one after the other -/

namespace Store

variable {i : Interruption} {ms : List Database.Migration} {step : Nat} {db db' : Database}

theorem migrate_cons_cases (i : Interruption) (step : Nat) (m : Database.Migration)
    (ms : List Database.Migration) (db : Database) :
    i.stops step = true ∧ migrate i step (m :: ms) db = (.error .cancelled, db) ∨
    (∃ f, db.apply m = .error f ∧ migrate i step (m :: ms) db = (.error (.schema f), db)) ∨
    ∃ db₁, db.apply m = .ok db₁ ∧ migrate i step (m :: ms) db = migrate i (step + 1) ms db₁ := by
  rw [migrate]
  split
  · next hstop => exact .inl ⟨hstop, rfl⟩
  · cases db.apply m with
    | error f => exact .inr (.inl ⟨f, rfl, rfl⟩)
    | ok db₁ => exact .inr (.inr ⟨db₁, rfl, rfl⟩)

theorem has_migrate_of_has {n : Database.Migration} (hn : db.Has n) :
    (migrate i step ms db).2.Has n := by
  induction ms generalizing step db with
  | nil => exact hn
  | cons m ms ih =>
    rcases migrate_cons_cases i step m ms db with ⟨-, h⟩ | ⟨f, -, h⟩ | ⟨db₁, happly, h⟩
    · rw [h]
      exact hn
    · rw [h]
      exact hn
    · rw [h]
      exact ih (hn.apply happly)

/-- **Statements that come to their end have made their parts.** -/
theorem has_migrate (hok : (migrate i step ms db).1 = .ok ()) {m : Database.Migration}
    (hm : m ∈ ms) :
    (migrate i step ms db).2.Has m := by
  induction ms generalizing step db with
  | nil => cases hm
  | cons first ms ih =>
    rcases migrate_cons_cases i step first ms db with ⟨-, h⟩ | ⟨f, -, h⟩ | ⟨db₁, happly, h⟩
    · rw [h] at hok
      cases hok
    · rw [h] at hok
      cases hok
    · rw [h] at hok ⊢
      rcases List.mem_cons.mp hm with rfl | hm
      · exact has_migrate_of_has (Database.has_apply_self happly)
      · exact ih hok hm

/-- **Statements whose parts are there do nothing**, and come to their end unless they are
called off. -/
theorem migrate_of_has (h : ∀ m, db.Has m) :
    (migrate i step ms db).2 = db ∧ (i = .never → (migrate i step ms db).1 = .ok ()) := by
  induction ms generalizing step with
  | nil => exact ⟨rfl, fun _ => rfl⟩
  | cons m ms ih =>
    rcases migrate_cons_cases i step m ms db with ⟨hstop, hm⟩ | ⟨f, happly, -⟩ | ⟨db₁, happly, hm⟩
    · rw [hm]
      refine ⟨rfl, ?_⟩
      rintro rfl
      cases hstop
    · -- a statement whose work is done cannot fail
      rw [Database.apply_of_has (h m)] at happly
      cases happly
    · rw [Database.apply_of_has (h m)] at happly
      cases happly
      rw [hm]
      exact ih

/-- Statements that come to their end note the version if they are to, where it was less. -/
theorem version_migrate (hok : (migrate i step ms db).1 = .ok ()) :
    (migrate i step ms db).2.version =
      if .version ∈ ms then max db.version Database.currentVersion else db.version := by
  induction ms generalizing step db with
  | nil => rfl
  | cons m ms ih =>
    rcases migrate_cons_cases i step m ms db with ⟨-, h⟩ | ⟨f, -, h⟩ | ⟨db₁, happly, h⟩
    · rw [h] at hok
      cases hok
    · rw [h] at hok
      cases hok
    · rw [h] at hok ⊢
      have hversion := Database.version_apply happly
      -- the version is raised once, whatever comes before or after it
      rw [ih hok, hversion]
      by_cases hm : m = .version
      · subst hm
        simp only [if_true, List.mem_cons, true_or]
        split <;> omega
      · have hne : Database.Migration.version ≠ m := Ne.symm hm
        simp [hm, hne]

/-- **Statements that do not come to their end have not noted the version**, if that is what
they end with. -/
theorem version_migrate_of_error {e : Error} (hlast : .version ∉ ms.dropLast)
    (herror : (migrate i step ms db).1 = .error e) :
    (migrate i step ms db).2.version = db.version := by
  induction ms generalizing step db with
  | nil => cases herror
  | cons m ms ih =>
    rcases migrate_cons_cases i step m ms db with ⟨-, h⟩ | ⟨f, -, h⟩ | ⟨db₁, happly, h⟩
    · rw [h]
    · rw [h]
    · rw [h] at herror ⊢
      cases ms with
      | nil => cases herror
      | cons m' ms =>
        rw [List.dropLast_cons_cons, List.mem_cons, not_or] at hlast
        rw [ih hlast.2 herror, Database.version_apply happly, if_neg (Ne.symm hlast.1)]

/-- Statements that nobody calls off fail only because one of them is refused. -/
theorem migrate_never_error {e : Error} (h : (migrate .never step ms db).1 = .error e) :
    ∃ f, e = .schema f := by
  induction ms generalizing step db with
  | nil => cases h
  | cons m ms ih =>
    rcases migrate_cons_cases .never step m ms db with ⟨hstop, -⟩ | ⟨f, -, hm⟩ | ⟨db₁, -, hm⟩
    · cases hstop
    · rw [hm] at h
      cases h
      exact ⟨f, rfl⟩
    · rw [hm] at h
      exact ih h

/-- Something else of the table's name is left alone. -/
theorem migrate_of_other (h : (∃ apiKeys, db.relation = .narrow apiKeys) ∨ db.relation = .view) :
    (migrate i 0 Database.migrations db).2 = db := by
  rw [Database.migrations]
  rcases migrate_cons_cases i 0 .table _ db with ⟨-, hm⟩ | ⟨f, -, hm⟩ | ⟨db₁, happly, hm⟩
  · rw [hm]
  · rw [hm]
  · -- the statement for the table finds a relation of its name and leaves it
    have hsame : db₁ = db := by
      rcases h with ⟨apiKeys, h⟩ | h <;>
        simp only [Database.apply, h, pure, Except.pure, Except.ok.injEq] at happly <;>
        exact happly.symm
    subst hsame
    rw [hm]
    rcases migrate_cons_cases i 1 .uniqueIndex _ db₁ with ⟨-, hm⟩ | ⟨f, -, hm⟩ | ⟨db₂, happly, -⟩
    · rw [hm]
    · rw [hm]
    · -- no index can be put on it
      rcases h with ⟨apiKeys, h⟩ | h <;> simp [Database.apply, h] at happly

/-- While somebody else is writing nothing is made. -/
theorem migrate_of_locked (hlock : db.locked = true) : (migrate i step ms db).2 = db := by
  induction ms generalizing step with
  | nil => rfl
  | cons m ms ih =>
    rcases migrate_cons_cases i step m ms db with ⟨-, hm⟩ | ⟨f, -, hm⟩ | ⟨db₁, happly, hm⟩
    · rw [hm]
    · rw [hm]
    · have hsame : db₁ = db := Database.eq_of_apply_of_locked hlock happly
      subst hsame
      rw [hm]
      exact ih

/-- While nobody else is writing, and no key is in the table twice, nothing keeps its parts from
being made. -/
theorem migrate_of_free {l : Ledger} (hfree : db.locked = false) (hl : db.relation = .ledger l)
    (hkeys : l.unique = true ∨ l.keysDistinct = true) : (migrate .never step ms db).1 = .ok () := by
  induction ms generalizing step db l with
  | nil => rfl
  | cons m ms ih =>
    obtain ⟨db₁, l₁, happly, hfree₁, hl₁, hkeys₁⟩ := Database.exists_apply_of_free m hfree hl hkeys
    rw [migrate, if_neg (by simp [Interruption.stops]), happly]
    exact ih hfree₁ hl₁ hkeys₁

theorem mem_migrations (m : Database.Migration) : m ∈ Database.migrations := by
  cases m <;> decide

/-- Where the unique index could be made, or is there, it is there or no key is in the table
twice. -/
theorem nodup_keys_of_migrate {l : Ledger} (hr : db.relation = .ledger l)
    (hok : (migrate .never 0 Database.migrations db).1 = .ok ()) :
    l.unique = true ∨ db.keys.Nodup := by
  by_cases hu : l.unique = true
  · exact .inl hu
  · right
    -- without the unique index the keys were checked when it was made
    have hindexed : db.relation.Indexed := by
      intro l₀ hl₀ hu₀
      rw [hr] at hl₀
      cases hl₀
      exact absurd hu₀ hu
    have hguarded : (migrate .never 0 Database.migrations db).2.Guarded :=
      has_migrate hok (mem_migrations .uniqueIndex)
    have hnodup := hguarded.nodup_keys (indexed_migrate _ _ _ hindexed)
    rwa [Database.keys, migrate_rows] at hnodup

/-- Where table and indexes could be made, nothing kept them from it. -/
theorem preparable_of_migrate (hok : (migrate .never 0 Database.migrations db).1 = .ok ()) :
    db.Preparable := by
  have hhas := fun m => has_migrate hok (mem_migrations m)
  obtain ⟨l', hl', -⟩ := hhas .uniqueIndex
  unfold Database.Preparable
  cases hr : db.relation with
  | absent =>
    show db.locked = false
    by_contra hlock
    rw [migrate_of_locked (by simpa using hlock), hr] at hl'
    cases hl'
  | narrow apiKeys =>
    rw [migrate_of_other (.inl ⟨apiKeys, hr⟩), hr] at hl'
    cases hl'
  | view =>
    rw [migrate_of_other (.inr hr), hr] at hl'
    cases hl'
  | ledger l =>
    refine ⟨nodup_keys_of_migrate hr hok, ?_⟩
    by_cases hlock : db.locked = true
    · -- nothing was made, so that all was there
      rw [migrate_of_locked hlock] at hhas
      obtain ⟨l₁, hl₁, hu₁⟩ := hhas .uniqueIndex
      obtain ⟨l₂, hl₂, hu₂⟩ := hhas .lookupIndex
      rw [hr] at hl₁ hl₂
      cases hl₁
      cases hl₂
      exact .inr ⟨hu₁, hu₂, hhas .version⟩
    · exact .inl (by simpa using hlock)

/-- Where nothing keeps table and indexes from being made, they are. -/
theorem migrate_of_preparable (h : db.Preparable) :
    (migrate .never 0 Database.migrations db).1 = .ok () := by
  unfold Database.Preparable at h
  cases hr : db.relation with
  | absent =>
    rw [hr] at h
    -- a new table has no rows, so no key stands twice
    have hmade : db.apply .table = .ok { db with relation := .ledger {} } := by
      simp [Database.apply, hr, Database.checkWritable, h, bind, Except.bind, pure, Except.pure]
    rw [Database.migrations, migrate, if_neg (by simp [Interruption.stops]), hmade]
    exact migrate_of_free h rfl (.inr rfl)
  | ledger l =>
    rw [hr] at h
    obtain ⟨hkeys, hfree | ⟨hu, hlookup, hversion⟩⟩ := h
    · apply migrate_of_free hfree hr
      refine hkeys.imp_right fun hnodup => ?_
      rwa [Ledger.keysDistinct, decide_eq_true_eq, ← Database.rows_of_table hr]
    · -- the file is locked, but nothing has to be written
      refine (migrate_of_has ?_).2 rfl
      intro m
      cases m with
      | table => simp [Database.Has, hr]
      | uniqueIndex => exact ⟨l, hr, hu⟩
      | lookupIndex => exact ⟨l, hr, hlookup⟩
      | version => exact hversion
  | narrow apiKeys =>
    rw [hr] at h
    exact h.elim
  | view =>
    rw [hr] at h
    exact h.elim

/-- **When table and indexes can be made**: exactly when nothing keeps them from it. -/
theorem migrate_ok_iff : (migrate .never 0 Database.migrations db).1 = .ok () ↔ db.Preparable :=
  ⟨preparable_of_migrate, migrate_of_preparable⟩

end Store

end UsageLedger
