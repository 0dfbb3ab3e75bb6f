import UsageLedger.Proofs.Accounting
import UsageLedger.Proofs.Commands
import UsageLedger.Proofs.Lifecycle
import UsageLedger.Proofs.Traffic

/-!
# Commands with a store that is ready

Every command takes the same steps before it does its own work: the settings are loaded,
directories made, the store opened, the table made sure of.  None of these steps changes a row,
and after the last one the unique index stands.  The commands that report on the records then
read from the store once, which leaves the disk as it is, and what they show is known from the
snapshot that they read.

## Main definitions

* `Cli.prepare?` — the steps in front of a command, up to the host with a store that is ready.
* `Cli.Prepared` — what those steps leave.

## Main results

* `Cli.execute_of_prepare?` — a command is carried out on the host that the steps lead to.
* `Cli.prepared_of_prepare?` — **what the steps in front of a command leave of the rows.**
* `Host.entry?_load` — reading from a store leaves the disk as it is.
* `Cli.restore_ok`, `Cli.stats_ok`, `Cli.exportTo_ok` — what the reports show of the snapshot
  that was read.
* `Cli.rowsAt_exportTo` — an export changes no rows but those of the file that it writes.
-/

namespace UsageLedger

/-! ### Making sure of the table -/

theorem Store.indexed_ensureSchema {s : Store} (hq : s.Quiet) {db : Database}
    (hi : db.relation.Indexed) (i : Interruption) :
    (s.ensureSchema db i).database.relation.Indexed := by
  rcases ensureSchema_cases hq db i with ⟨-, ho⟩ | ⟨-, ho, -⟩ | ⟨-, -, ho⟩
  · rw [ho]
    exact hi
  · rw [ho]
    exact hi
  · rcases ho with ⟨-, ho⟩ | ⟨s', answer, db', -, -, hm, hcase⟩
    · rw [ho]
      exact hi
    · have hmig := indexed_migrate i Database.migrations 0 hi
      rw [hm] at hmig
      rcases hcase with ⟨-, ho⟩ | ⟨e, -, ho⟩ <;> rw [ho] <;> exact hmig

theorem Store.exists_ready?_ensureSchema {s : Store} (hq : s.Quiet) (hl : s.Linked) {db : Database}
    {i : Interruption} (hok : (s.ensureSchema db i).answer = .ok ()) :
    ∃ c, (s.ensureSchema db i).store.ready? = some c := by
  refine (hl.serve hq db (.ensureSchema i)).ready? ?_
  rcases ensureSchema_cases hq db i with ⟨hready, ho⟩ | ⟨-, ho, -⟩ | ⟨-, -, ho⟩
  · show (s.ensureSchema db i).store.phase = .ready
    rw [ho]
    exact hready
  · rw [ho] at hok
    cases hok
  · show (s.ensureSchema db i).store.phase = .ready
    rcases ho with ⟨-, ho⟩ | ⟨s', answer, db', -, -, -, ⟨-, ho⟩ | ⟨e, -, ho⟩⟩ <;> rw [ho] at hok ⊢
      <;> cases hok

/-! ### Reading from a store -/

namespace Host

variable {h h' : Host} {id : Nat} {i : Interruption}

/-- **Reading from a store leaves the disk as it is.** -/
theorem entry?_load (h : Host) (id : Nat) (i : Interruption) (l : Location) :
    (h.load id i).2.disk.entry? l = h.disk.entry? l := by
  cases hget : h.stores[id]? with
  | none => simp [load, onStore, hget]
  | some held =>
    have hreplaced := replaced_load hget i
    rw [Store.database_load] at hreplaced
    exact (hreplaced.entries l).trans ((replaced_self hget).entries l).symm

theorem rowsAt_load (h : Host) (id : Nat) (i : Interruption) (l : Location) :
    (h.load id i).2.disk.rowsAt l = h.disk.rowsAt l := by
  rw [Disk.rowsAt, entry?_load, Disk.rowsAt]

theorem here_onStore {α : Type} (h : Host) (id : Nat) (op : Store → Database → Outcome α) :
    (h.onStore id op).2.disk.here = h.disk.here := by
  rw [onStore]
  split
  · rfl
  · dsimp only
    split
    · dsimp only
      split
      · exact Disk.here_put _ _ _
      · rfl
    · rfl

theorem here_load (h : Host) (id : Nat) (i : Interruption) :
    (h.load id i).2.disk.here = h.disk.here := by
  have hkept := here_onStore h id fun s db => s.load db i
  rw [load]
  generalize (h.onStore id fun s db => s.load db i) = read at hkept ⊢
  obtain ⟨answer, h'⟩ := read
  cases answer with
  | error e => exact hkept
  | ok found =>
    dsimp only
    split <;> exact hkept

/-- What is read does not depend on bridges and aggregates. -/
theorem answer_load_congr (hstores : h'.stores = h.stores) (hdisk : h'.disk = h.disk) :
    (h'.load id i).1 = (h.load id i).1 := by
  rw [answer_load, answer_load]
  cases hget : h.stores[id]? with
  | none =>
    rw [onStore, onStore, hstores, hget]
  | some held =>
    have hget' : h'.stores[id]? = some held := by rw [hstores, hget]
    rw [answer_onStore hget, answer_onStore hget', databaseAt, databaseAt, hget, hget']
    simp only [databaseOf, hdisk]

end Host

/-! ### Paths -/

namespace Disk

variable {d d' : Disk}

/-- Where a path leads is known from what stands where. -/
theorem locate_congr (hentries : ∀ l, d'.entry? l = d.entry? l) (hhere : d'.here = d.here)
    (path : String) :
    d'.locate path = d.locate path := by
  have hfollow : ∀ (names : List String) (start : Location), d'.follow start names =
      d.follow start names := by
    intro names
    induction names with
    | nil => intro start; rfl
    | cons s rest ih =>
      intro start
      simp only [follow, hentries, ih]
  rw [locate, locate, hfollow, hfollow, hhere]

end Disk

/-! ### The steps in front of a command -/

namespace Cli

variable {e : Environment} {d : Disk} {database : Option String} {h : Host} {l : Location}

/-- The steps in front of a command, up to the host with a store that is ready and the place of
its database; nothing if one of them fails. -/
def prepare? (e : Environment) (d : Disk) (database : Option String) : Option (Host × Location) :=
  match Config.loadUsual d e with
  | .error _ => none
  | .ok config =>
    match d.makeDirectories .shared e.stateDirectory with
    | (_, .error _) => none
    | (d, .ok ()) =>
      let h : Host := { disk := d, home := e.home, toggles := [config.statistics.enabled] }
      match h.openStore (database.getD config.databasePath) config.storage.busyTimeout with
      | (.opened _ l, h) =>
        match h.onStore 0 fun s db => s.ensureSchema db .never with
        | (.ok (), h) => some (h, l)
        | (.error _, _) => none
      | _ => none

/-- **A command is carried out on the host that the steps in front of it lead to.** -/
theorem execute_of_prepare? (hp : prepare? e d database = some (h, l)) (command : Command) :
    execute e d ⟨database, command⟩ = ((perform h 0 command).1, (perform h 0 command).2.disk) := by
  rw [prepare?] at hp
  rw [execute]
  -- both go through the same steps, and a step that fails would have left no prepared host
  cases hconfig : Config.loadUsual d e with
  | error f => simp [hconfig] at hp
  | ok config =>
    simp only [hconfig] at hp ⊢
    generalize d.makeDirectories .shared e.stateDirectory = made at hp
    obtain ⟨d', answer⟩ := made
    cases answer with
    | error f => cases hp
    | ok u =>
      dsimp only at hp ⊢
      rw [withStore]
      generalize Host.openStore _ _ _ = opened at hp
      obtain ⟨opening, h₁⟩ := opened
      cases opening with
      | refused f => cases hp
      | aborted => cases hp
      | opened s l₁ =>
        dsimp only [List.length_nil] at hp ⊢
        generalize Host.onStore h₁ 0 _ = readied at hp
        obtain ⟨answer, h₂⟩ := readied
        cases answer with
        | error f => cases hp
        | ok u' =>
          obtain ⟨rfl, rfl⟩ := Prod.mk.inj (Option.some.inj hp)
          rfl

/-- What the steps in front of a command leave: a store that is ready, on a database with the
rows that were there. -/
structure Prepared (d : Disk) (h : Host) (l : Location) : Prop where
  /-- The first store is on the file, and ready. -/
  store : ∃ held c, h.stores[0]? = some held ∧ held.place = some l ∧ held.store.ready? = some c
  /-- The table stands with its unique index. -/
  guarded : (h.databaseAt 0).Guarded
  /-- No row was changed, anywhere. -/
  rows : ∀ l', h.disk.rowsAt l' = d.rowsAt l'
  /-- The store works on the rows that were there. -/
  database_rows : (h.databaseAt 0).rows = d.rowsAt l
  /-- No two of them have the same key, if a unique index that stood there was what it is for. -/
  keys : (d.relationAt l).Indexed → (h.databaseAt 0).keys.Nodup

/-- Making sure of the table is the last of the steps. -/
theorem prepared_of_ensureSchema {h₁ : Host} {held : Held}
    (htables : ∀ l', h₁.disk.relationAt l' = d.relationAt l') (hget : h₁.stores[0]? = some held)
    (hplace : held.place = some l) (hquiet : held.store.Quiet) (hlinked : held.store.Linked)
    (hphase : held.store.phase = .opened) (hdb : h₁.disk.database? l ≠ none)
    (hready : h₁.onStore 0 (fun s db => s.ensureSchema db .never) = (.ok (), h)) :
    Prepared d h l := by
  have hanswer := Host.answer_onStore hget fun s db => s.ensureSchema db .never
  have hreplaced := Host.replaced_onStore hget fun s db => s.ensureSchema db .never
  have hbefore := Host.databaseAt_of_get hget
  rw [hready, hbefore] at hanswer
  rw [hready] at hreplaced
  obtain ⟨hstore, hafter⟩ := hreplaced.databaseAt_eq hget hplace hdb
  -- the file holds what it held before the directories were made
  have hrelation : (h₁.databaseOf held).relation = d.relationAt l := by
    obtain ⟨db, hfound⟩ := Option.ne_none_iff_exists'.mp hdb
    rw [← htables, Disk.relationAt_of_database? hfound, Host.databaseOf, hplace]
    simp [hfound]
  have hkept : (held.store.ensureSchema (h₁.databaseOf held) .never).database.rows =
      (h₁.databaseOf held).rows :=
    Store.rows_ensureSchema held.store (h₁.databaseOf held) .never
  -- the answer tells that the statements have all succeeded
  have hguarded := Store.guarded_ensureSchema hquiet (by simp [hphase]) (.inr hanswer.symm)
  obtain ⟨c, hc⟩ := Store.exists_ready?_ensureSchema hquiet hlinked hanswer.symm
  refine ⟨⟨_, c, hstore, hplace, hc⟩, hafter ▸ hguarded, fun l' => ?_, ?_, fun hindexed => ?_⟩
  · exact (hreplaced.rowsAt_eq hget hkept l').trans (Disk.rowsAt_congr (htables l'))
  · rw [hafter, Disk.rowsAt_eq, ← hrelation]
    exact hkept
  · rw [hafter]
    exact hguarded.nodup_keys (Store.indexed_ensureSchema hquiet (hrelation ▸ hindexed) .never)

/-- **The records can be loaded just when every row has cells of the right kinds.** -/
theorem Prepared.exists_load_iff (hp : Prepared d h l) :
    (∃ snapshot, (h.load 0 .never).1 = .ok snapshot) ↔
      ∀ row ∈ d.rowsAt l, ∃ found, row.scan = .ok found := by
  rw [← hp.database_rows]
  constructor
  · rintro ⟨snapshot, hload⟩
    obtain ⟨h', -, -, ⟨f, hfail⟩ | ⟨found, hread, -⟩⟩ := h.load_cases 0 .never
    · rw [hfail] at hload
      cases hload
    · exact (Store.readRows_ok hread).2.2
  · intro hread
    obtain ⟨held, c, hget, -, hready⟩ := hp.store
    obtain ⟨found, hfound⟩ := Store.exists_readRows hp.guarded.shape_eq hread
    obtain ⟨h', hload⟩ := Host.load_ok hget hready hp.guarded.shape_eq hfound
    exact ⟨_, by rw [hload]⟩

theorem Prepared.records_of_load (hp : Prepared d h l) {snapshot : Snapshot}
    (hload : (h.load 0 .never).1 = .ok snapshot) :
    snapshot.records.Perm ((d.rowsAt l).filterMap Row.record?) := by
  rw [← hp.database_rows]
  obtain ⟨h', -, -, ⟨f, hfail⟩ | ⟨found, hread, hfound⟩⟩ := h.load_cases 0 .never
  · rw [hfail] at hload
    cases hload
  · rw [hfound] at hload
    obtain rfl : found.snapshot = snapshot := Except.ok.inj hload
    exact (Store.readRows_ok hread).1

/-- **What the steps in front of a command leave of the rows.** -/
theorem prepared_of_prepare? (hp : prepare? e d database = some (h, l)) : Prepared d h l := by
  rw [prepare?] at hp
  cases hconfig : Config.loadUsual d e with
  | error f => simp [hconfig] at hp
  | ok config =>
    simp only [hconfig] at hp
    have hdirs := d.relationAt_makeDirectories .shared e.stateDirectory
    generalize d.makeDirectories .shared e.stateDirectory = made at hp hdirs
    obtain ⟨d₁, answer⟩ := made
    cases answer with
    | error f => cases hp
    | ok u =>
      have hopen := Store.openAt_cases d₁ e.home
        (database.getD config.databasePath) config.storage.busyTimeout
      dsimp only [Host.openStore] at hp hdirs
      generalize Store.openAt d₁ e.home
        (database.getD config.databasePath) config.storage.busyTimeout = opened at hp hopen
      obtain ⟨d₂, opening⟩ := opened
      cases opening with
      | refused f => cases hp
      | aborted => cases hp
      | opened s l₁ =>
        -- neither making directories nor opening the file has touched a table
        obtain ⟨htables, hs⟩ := hopen
        obtain ⟨hquiet, hlinked, hphase, hdb⟩ := hs s l₁ rfl
        dsimp only at hp
        split at hp
        · next h₂ hready =>
          obtain ⟨rfl, rfl⟩ := Prod.mk.inj (Option.some.inj hp)
          exact prepared_of_ensureSchema
            (fun l' => (htables l').trans (hdirs l')) rfl rfl hquiet hlinked hphase hdb hready
        · cases hp

/-! ### What the reports show -/

variable {store : Nat} {snapshot : Snapshot}

/-- **A restore** shows what merging the snapshot that was read into an empty aggregate leads to. -/
theorem restore_ok (hload : (h.load store .never).1 = .ok snapshot) :
    (restore h store).1 =
        { output :=
            Report.restored (Snapshot.empty.merge snapshot).2
              (Snapshot.empty.merge snapshot).1.totals } ∧
      ∀ l, (restore h store).2.disk.rowsAt l = h.disk.rowsAt l := by
  let bridge : Bridge :=
    { store := some store, aggregate := some h.aggregates.length, toggle := 0
      backlog := .ofLimit Backlog.usualLimit }
  let g : Host :=
    { h with aggregates := h.aggregates ++ [Snapshot.empty], bridges := h.bridges ++ [bridge] }
  have hbridge : g.bridges[h.bridges.length]? = some bridge := by simp [g]
  have hsame : (g.load store .never).1 = (h.load store .never).1 := Host.answer_load_congr rfl rfl
  have hread := hsame.trans hload
  have hrows := g.rowsAt_load store .never
  obtain ⟨g', hparts, -, hcase⟩ := g.load_cases store .never
  obtain ⟨f, hfail⟩ | ⟨found, -, hfound⟩ := hcase
  · rw [hfail] at hread
    cases hread
  · rw [hfound] at hread hrows
    obtain rfl : found.snapshot = snapshot := Except.ok.inj hread
    -- the aggregate was empty, and holds afterwards what was merged into it
    have hempty : g.aggregate h.aggregates.length = Snapshot.empty := by
      simp [Host.aggregate, g]
    have hlt : h.aggregates.length < g'.aggregates.length := by simp [hparts.aggregates, g]
    have hmerged : g.loadAndMerge h.bridges.length =
        (.ok (some (Snapshot.empty.merge found.snapshot).2),
          g'.setAggregate h.aggregates.length (Snapshot.empty.merge found.snapshot).1) := by
      rw [Host.loadAndMerge_eq hbridge rfl rfl, hfound]
      simp only [hempty]
    have hrestore : restore h store =
        ({ output := Report.restored (Snapshot.empty.merge found.snapshot).2
            ((g'.setAggregate h.aggregates.length (Snapshot.empty.merge found.snapshot).1).aggregate
              h.aggregates.length).totals },
          g'.setAggregate h.aggregates.length (Snapshot.empty.merge found.snapshot).1) := by
      simp only [g, bridge] at hmerged
      simp only [restore, hmerged, Option.getD_some]
    rw [hrestore, Host.aggregate_setAggregate hlt]
    exact ⟨rfl, hrows⟩

/-- **The totals** that are shown are those of the snapshot that was read, merged into an empty
one. -/
theorem stats_ok (hload : (h.load store .never).1 = .ok snapshot) :
    (stats h store).1 = { output := Report.table (Snapshot.empty.merge snapshot).1 } ∧
      ∀ l, (stats h store).2.disk.rowsAt l = h.disk.rowsAt l := by
  have hrows := h.rowsAt_load store .never
  rw [stats]
  generalize h.load store .never = read at hload hrows
  obtain ⟨answer, h'⟩ := read
  obtain rfl : answer = .ok snapshot := hload
  exact ⟨rfl, hrows⟩

/-- **An export to a file that can be written** reports as many records as were read, and puts
the text in the place of what the file held, which may have been the rows themselves. -/
theorem exportTo_ok (hload : (h.load store .never).1 = .ok snapshot) {file : String}
    (hwrite : (h.disk.writeText file "").isOk = true) :
    (exportTo h store (some file)).1 = { notice := Report.exported snapshot.recordCount file } ∧
      ∀ l, h.disk.locate file = .ok l → (exportTo h store (some file)).2.disk.rowsAt l = [] := by
  have hentries := h.entry?_load store .never
  have hhere := h.here_load store .never
  rw [exportTo]
  generalize h.load store .never = read at hload hentries hhere
  obtain ⟨answer, h'⟩ := read
  obtain rfl : answer = .ok snapshot := hload
  -- whether the file can be written depends neither on the text nor on what was read
  have hwrite' : (h'.disk.writeText file snapshot.toJson.pretty).isOk = true := by
    rw [Disk.isOk_writeText] at hwrite ⊢
    simpa only [Disk.locate_congr hentries hhere, hentries] using hwrite
  dsimp only
  cases hdisk : h'.disk.writeText file snapshot.toJson.pretty with
  | error f =>
    rw [hdisk] at hwrite'
    cases hwrite'
  | ok disk =>
    refine ⟨rfl, fun l hl => ?_⟩
    obtain ⟨l₀, hl₀, hfile, rfl⟩ := Disk.writeText_ok hdisk
    rw [Disk.locate_congr hentries hhere, hl] at hl₀
    obtain rfl := Except.ok.inj hl₀
    show (h'.disk.put l (.text snapshot.toJson.pretty)).rowsAt l = []
    rw [Disk.rowsAt, Disk.entry?_put _ (Disk.ne_nil_of_isDirectory _ hfile), if_pos rfl]
    rfl

/-- **An export changes no rows but those of the file that it writes.** -/
theorem rowsAt_exportTo (h : Host) (store : Nat) (file : Option String) {l : Location}
    (hother : ∀ f, file = some f → (exportTo h store file).1.code = 0 → h.disk.locate f ≠ .ok l) :
    (exportTo h store file).2.disk.rowsAt l = h.disk.rowsAt l := by
  have hentries := h.entry?_load store .never
  have hhere := h.here_load store .never
  have hrows := h.rowsAt_load store .never l
  rw [exportTo] at hother ⊢
  generalize h.load store .never = read at hother hentries hhere hrows ⊢
  obtain ⟨answer, h'⟩ := read
  cases answer with
  | error f => exact hrows
  | ok snapshot =>
    cases file with
    | none => exact hrows
    | some f =>
      dsimp only at hother ⊢
      cases hdisk : h'.disk.writeText f snapshot.toJson.pretty with
      | error fault => exact hrows
      | ok disk =>
        rw [hdisk] at hother
        obtain ⟨l₀, hl₀, hfile, rfl⟩ := Disk.writeText_ok hdisk
        rw [Disk.locate_congr hentries hhere] at hl₀
        -- a load moves no file, so the text went where the name led before it
        have hne : l ≠ l₀ := by
          rintro rfl
          exact hother f rfl rfl hl₀
        refine Eq.trans (Disk.rowsAt_congr ?_) hrows
        rw [Disk.relationAt_put _ (Disk.ne_nil_of_isDirectory _ hfile), if_neg hne]

end Cli

end UsageLedger
