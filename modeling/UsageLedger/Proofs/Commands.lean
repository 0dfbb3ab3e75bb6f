import UsageLedger.Cli.Run
import UsageLedger.Proofs.Delivering
import UsageLedger.Proofs.Transfer

/-!
# Export and import as commands

Two runs of the program meet in a snapshot file: one writes it at the end of a path, another one
reads it from there.  A path is followed through directories only, so a file that is written
stands in the way of no path that led anywhere before, and the path that it was written to leads
to it again.

With this the two commands are inverse to each other, as the operations of stores are that they
consist of: an empty table takes in all that was exported, and gives the same file out again,
and the table that it was exported from takes nothing in.

## Main definitions

* `Host.Serves` — a store of the host is ready, and no record is refused.

## Main results

* `Disk.readText_writeText` — a text that was written is found again at the end of its path.
* `Cli.readText_exportTo` — an export that succeeds leaves the text of what a load finds.
* `Cli.importFrom_exportTo` — **an import persists the snapshot that was exported to its file.**
* `Cli.exportTo_importFrom_inverse` — **export and import are inverse to each other** as commands.
-/

namespace UsageLedger

namespace Disk

variable {d d' : Disk} {l : Location}

theorem here_put (d : Disk) (l : Location) (e : Entry) : (d.put l e).here = d.here := by
  unfold put
  split <;> rfl

/-- What is put where no directory was stands in the way of no path. -/
theorem follow_put (hroot : l ≠ []) (hfile : d.isDirectory l = false) (e : Entry)
    {names : List String} {start target : Location} (h : d.follow start names = .ok target) :
    (d.put l e).follow start names = .ok target := by
  induction names generalizing start with
  | nil => exact h
  | cons s rest ih =>
    rw [follow] at h ⊢
    cases hentry : d.entry? start with
    | none => simp [hentry] at h
    | some found =>
      cases found with
      | directory privacy =>
        -- as there is a directory, this is not the place where something was put
        have hne : start ≠ l := by
          rintro rfl
          simp [isDirectory, hentry] at hfile
        rw [entry?_put d hroot, if_neg hne, hentry]
        rw [hentry] at h
        dsimp only at h ⊢
        by_cases hidle : Path.isIdle s = true
        · rw [if_pos hidle] at h ⊢
          exact ih h
        rw [if_neg hidle] at h ⊢
        by_cases hup : s = ".."
        · rw [if_pos hup] at h ⊢
          exact ih h
        rw [if_neg hup] at h ⊢
        by_cases hlong : 255 < s.utf8ByteSize
        · rw [if_pos hlong] at h
          cases h
        rw [if_neg hlong] at h ⊢
        exact ih h
      | _ => simp [hentry] at h

theorem locate_put (hroot : l ≠ []) (hfile : d.isDirectory l = false) (e : Entry) {path : String}
    {target : Location} (h : d.locate path = .ok target) :
    (d.put l e).locate path = .ok target := by
  rw [locate] at h ⊢
  by_cases hnul : path.toList.contains '\x00' = true
  · rw [if_pos hnul] at h
    cases h
  rw [if_neg hnul] at h ⊢
  by_cases hempty : path = ""
  · rw [if_pos hempty] at h
    cases h
  rw [if_neg hempty] at h ⊢
  by_cases habsolute : Path.isAbsolute path = true
  · rw [if_pos habsolute] at h ⊢
    exact follow_put hroot hfile e h
  · rw [if_neg habsolute] at h ⊢
    rw [here_put]
    exact follow_put hroot hfile e h

theorem isOk_writeText (d : Disk) (path content : String) :
    (d.writeText path content).isOk = match d.locate path with
      | .error _ => false
      | .ok l =>
        match d.entry? l with
        | some (.directory _) => false
        | some _ => true
        | none => !namesDirectory path := by
  rw [writeText]
  cases d.locate path with
  | error f => rfl
  | ok l =>
    simp only [bind, Except.bind]
    cases d.entry? l with
    | none => cases namesDirectory path <;> rfl
    | some e => cases e <;> rfl

/-- A text that was written stands at the end of its path, where no directory was. -/
theorem writeText_ok {path content : String} (h : d.writeText path content = .ok d') :
    ∃ l, d.locate path = .ok l ∧ d.isDirectory l = false ∧ d' = d.put l (.text content) := by
  rw [writeText] at h
  cases hl : d.locate path with
  | error f => simp [hl, bind, Except.bind] at h
  | ok l =>
    simp only [hl, bind, Except.bind] at h
    refine ⟨l, rfl, ?_⟩
    split at h
    · -- a directory cannot be written to
      cases h
    · next hentry =>
      -- neither can a file that is read only
      split at h
      · cases h
      · exact ⟨by simp [isDirectory, hentry], (Except.ok.inj h).symm⟩
    · next found hother hentry =>
      refine ⟨?_, (Except.ok.inj h).symm⟩
      cases found with
      | directory privacy => exact absurd rfl (hother privacy)
      | _ => simp [isDirectory, hentry]

/-- **A text that was written is found again** at the end of its path. -/
theorem readText_writeText {path content : String} (h : d.writeText path content = .ok d') :
    d'.readText path = .ok content := by
  obtain ⟨l, hl, hfile, rfl⟩ := writeText_ok h
  have hroot : l ≠ [] := by
    rintro rfl
    simp [isDirectory, entry?] at hfile
  have hfind : (d.put l (.text content)).find path = .ok (l, .text content) := by
    rw [find, locate_put hroot hfile _ hl]
    simp [bind, Except.bind, entry?_put d hroot, pure, Except.pure]
  rw [readText, hfind]
  rfl

end Disk

/-! ### A store that serves -/

namespace Host

/-- A store of the host is ready, and nothing but a known key keeps a record out. -/
structure Serves (h : Host) (id : Nat) : Prop extends h.Ready id where
  /-- Nobody else is writing, and no model is refused. -/
  admits : ∀ r, (h.databaseAt id).Admits r

variable {h : Host} {id : Nat}

/-- **What is answered to a snapshot**: how many of its records were taken in, which are those
with new keys, each key once; their rows come behind the others. -/
theorem Serves.persist (hs : h.Serves id) (n : Snapshot) {added : List Record}
    (hadded : fresh Record.cellKey (h.databaseAt id).keys n.records = added) :
    ∃ h', (h.onStore id fun s db => s.persist db n .never) =
        (.ok ⟨added.length, n.records.length - added.length⟩, h') ∧
      (h'.databaseAt id).rows = (h.databaseAt id).rows ++ added.map Row.ofRecord ∧ h'.Ready id := by
  obtain ⟨held, c, hget, hquiet, hready⟩ := hs.store
  -- nothing keeps a row out, so the whole batch goes through
  obtain ⟨db, hall, hrows, -⟩ := Store.insertAll_eq_of_admits hs.guarded hs.admits n.records
  rw [hadded] at hall hrows
  obtain ⟨hanswer, hdb⟩ := Store.serve_of_onTable hquiet hready rfl hs.guarded.shape_eq
    (Call.onTable_persist hall)
  obtain ⟨hafter, -⟩ := hs.toReady.onStore hget fun s db => s.persist db n .never
  refine ⟨_, Prod.ext ?_ rfl, ?_, hs.toReady.kept (.persist n .never) rfl fun _ _ => rfl⟩
  · obtain ⟨tally, htally, heq⟩ := Outcome.map_answer_eq_ok.mp hanswer
    rw [answer_onStore hget, htally]
    cases heq
    rfl
  · exact (congrArg Database.rows (hafter.trans hdb)).trans hrows

/-- **What is answered to a load** by a store that is ready, where the rows were made from
records. -/
theorem Ready.load (hr : h.Ready id) {rs : List Record}
    (hrows : (h.databaseAt id).rows = rs.map Row.ofRecord) :
    (h.load id .never).1 = .ok (Store.Loaded.ofRecords rs).snapshot := by
  obtain ⟨held, c, hget, -, hready⟩ := hr.store
  have hread := Store.readRows_ofRecords hr.guarded.shape_eq hrows
  obtain ⟨h', hload⟩ := load_ok hget hready hr.guarded.shape_eq hread
  rw [hload]

end Host

/-! ### The commands -/

namespace Cli

variable {h h' : Host} {store : Nat} {file : String} {exit : Exit}

/-- An export that succeeds leaves the text of what a load finds at the end of its path. -/
theorem readText_exportTo (hexport : exportTo h store (some file) = (exit, h'))
    (hcode : exit.code = 0) :
    ∃ snapshot, (h.load store .never).1 = .ok snapshot ∧
      h'.disk.readText file = .ok snapshot.toJson.pretty := by
  rw [exportTo] at hexport
  cases hload : h.load store .never with
  | mk answer h₁ =>
    rw [hload] at hexport
    cases answer with
    | error e =>
      -- a load that fails ends the command with a code that is not zero
      obtain ⟨rfl, -⟩ := Prod.mk.inj hexport
      cases hcode
    | ok snapshot =>
      refine ⟨snapshot, rfl, ?_⟩
      cases hwrite : h₁.disk.writeText file snapshot.toJson.pretty with
      | error f =>
        simp only [hwrite] at hexport
        -- and so does a file that cannot be written
        obtain ⟨rfl, -⟩ := Prod.mk.inj hexport
        cases hcode
      | ok disk =>
        simp only [hwrite] at hexport
        obtain ⟨-, rfl⟩ := Prod.mk.inj hexport
        exact Disk.readText_writeText hwrite

/-- **An import persists the snapshot that was exported to its file**, with whatever store it is
carried out, as long as the file reads as it did. -/
theorem importFrom_exportTo (hexport : exportTo h store (some file) = (exit, h'))
    (hcode : exit.code = 0) {g : Host} (hfile : g.disk.readText file = h'.disk.readText file)
    (store' : Nat) :
    ∃ snapshot, (h.load store .never).1 = .ok snapshot ∧
      importFrom g store' file =
        match g.onStore store' fun s db => s.persist db snapshot .never with
        | (.error _, g') => (.failure "failed to persist snapshot", g')
        | (.ok tally, g') => ({ output := Report.imported tally }, g') := by
  obtain ⟨snapshot, hload, htext⟩ := readText_exportTo hexport hcode
  have hread : g.disk.readText file = .ok snapshot.toJson.pretty := hfile.trans htext
  refine ⟨snapshot, hload, ?_⟩
  -- what a load finds is settled, and so comes back as it was written
  have hsettled : snapshot.settle = snapshot := by
    obtain ⟨found, hfound, rfl⟩ := Host.readRows_of_load hload
    exact Snapshot.settle_of_settled (Store.settled_of_readRows hfound)
  have hdecoded : (Json.parse? snapshot.toJson.pretty).bind Snapshot.ofJson? = some snapshot := by
    have hback := snapshot.ofFileText?_fileText
    rwa [hsettled] at hback
  cases hpersist : g.onStore store' fun s db => s.persist db snapshot .never with
  | mk answer g' => cases answer <;> simp only [importFrom, hread, hdecoded, hpersist]

/-- **Export and import are inverse to each other** as commands.  What one host exports from
rows that were made from records, another host imports from the file: into an empty table all of
it, whereupon a load finds the snapshot that was exported and every export leaves the same text;
and nothing of it into a table that knows all its keys, as the one does that it was exported
from. -/
theorem exportTo_importFrom_inverse (hr : h.Ready store) {rs : List Record}
    (hrows : (h.databaseAt store).rows = rs.map Row.ofRecord)
    (hkeys : (h.databaseAt store).keys.Nodup) (hexport : exportTo h store (some file) = (exit, h'))
    (hcode : exit.code = 0) {g : Host} {store' : Nat} (hs : g.Serves store')
    (hfile : g.disk.readText file = h'.disk.readText file) :
    ∃ snapshot, (h.load store .never).1 = .ok snapshot ∧
      ((g.databaseAt store').rows = [] →
        ∃ g', importFrom g store' file =
            ({ output := Report.imported ⟨snapshot.recordCount, 0⟩ }, g') ∧
          (g'.load store' .never).1 = .ok snapshot ∧
          ∀ {file' : String} {exit' : Exit} {g'' : Host},
            exportTo g' store' (some file') = (exit', g'') → exit'.code = 0 →
              g''.disk.readText file' = h'.disk.readText file) ∧
      ((h.databaseAt store).keys ⊆ (g.databaseAt store').keys →
        ∃ g', importFrom g store' file =
            ({ output := Report.imported ⟨0, snapshot.recordCount⟩ }, g') ∧
          (g'.databaseAt store').rows = (g.databaseAt store').rows) := by
  obtain ⟨snapshot, hload, htext⟩ := readText_exportTo hexport hcode
  -- the import reads back the very snapshot that was loaded
  obtain ⟨snapshot', hload', himport⟩ := importFrom_exportTo hexport hcode hfile store'
  obtain rfl : snapshot' = snapshot := Except.ok.inj (hload'.symm.trans hload)
  obtain rfl : (Store.Loaded.ofRecords rs).snapshot = snapshot' :=
    Except.ok.inj ((hr.load hrows).symm.trans hload)
  rw [Database.keys_ofRecords hrows] at hkeys ⊢
  refine ⟨_, hload, fun hempty => ?_, fun hknown => ?_⟩
  · have hadded : fresh Record.cellKey (g.databaseAt store').keys
        (Store.Loaded.ofRecords rs).snapshot.records =
          (Store.Loaded.ofRecords rs).snapshot.records := by
      rw [Database.keys, hempty]
      exact fresh_eq_self (Store.Loaded.nodup_cellKey_ofRecords rs hkeys)
    -- every record is new to an empty table
    obtain ⟨g', hpersist, hrows', hready⟩ := hs.persist _ hadded
    rw [hempty, List.nil_append] at hrows'
    rw [hpersist, Nat.sub_self, ← Snapshot.recordCount_eq] at himport
    have hagain := hready.load hrows'
    -- a snapshot that was loaded once is loaded again as it is
    rw [Store.Loaded.snapshot_ofRecords_ofRecords] at hagain
    refine ⟨g', himport, hagain, fun hexport' hcode' => ?_⟩
    obtain ⟨found, hfound, htext'⟩ := readText_exportTo hexport' hcode'
    rw [htext', htext, Except.ok.inj (hfound.symm.trans hagain)]
  · -- no record is new if all the keys are held
    have hadded : fresh Record.cellKey (g.databaseAt store').keys
        (Store.Loaded.ofRecords rs).snapshot.records = [] :=
      fresh_eq_nil_iff.mpr fun r hr => hknown (Store.Loaded.cellKey_mem_ofRecords rs hr)
    obtain ⟨g', hpersist, hrows', -⟩ := hs.persist _ hadded
    rw [List.map_nil, List.append_nil] at hrows'
    rw [hpersist, List.length_nil, Nat.sub_zero, ← Snapshot.recordCount_eq] at himport
    exact ⟨g', himport, hrows'⟩

end Cli

end UsageLedger
