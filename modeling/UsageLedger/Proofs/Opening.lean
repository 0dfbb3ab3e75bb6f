import UsageLedger.Proofs.Hosting

/-!
# What opening a store leaves on the disk

A store is opened in steps: directories are made on the way to its file, the file is made if it
is missing, and the database in it is told to let readers in.  Each step puts an entry
somewhere, and none of them changes the usage table that stands there: where one was it stays
with its rows and indexes, and where a file is new there is none.

## Main definitions

* `Disk.rowsAt` — the rows that a disk holds at a location.
* `Disk.relationAt` — what stands at a location under the name of the usage table.

## Main results

* `Disk.relationAt_makeDirectories`, `Disk.openDatabase_ok` — what making directories and files
  leaves of tables.
* `Store.openAt_cases` — **everything that opening a store can do.**
-/

namespace UsageLedger

/-- The rows in an entry. -/
def Entry.rows : Entry → List Row
  | .database db => db.rows
  | .directory _ | .text _ | .binary => []

/-- What stands in an entry under the name of the usage table. -/
def Entry.relation : Entry → Relation
  | .database db => db.relation
  | .directory _ | .text _ | .binary => .absent

namespace Disk

/-- The rows at a location. -/
def rowsAt (d : Disk) (l : Location) : List Row :=
  match d.entry? l with
  | some e => e.rows
  | none => []

/-- What stands at a location under the name of the usage table. -/
def relationAt (d : Disk) (l : Location) : Relation :=
  match d.entry? l with
  | some e => e.relation
  | none => .absent

variable {d d' : Disk} {l : Location}

theorem rowsAt_eq (d : Disk) (l : Location) :
    d.rowsAt l = ({ relation := d.relationAt l } : Database).rows := by
  rw [rowsAt, relationAt]
  cases d.entry? l with
  | none => rfl
  | some e => cases e <;> rfl

theorem rowsAt_congr (h : d'.relationAt l = d.relationAt l) : d'.rowsAt l = d.rowsAt l := by
  rw [rowsAt_eq, rowsAt_eq, h]

theorem relationAt_of_entry {e : Entry} (h : d.entry? l = some e) :
    d.relationAt l = e.relation := by
  rw [relationAt, h]

theorem relationAt_of_database? {db : Database} (h : d.database? l = some db) :
    d.relationAt l = db.relation := by
  rw [database?] at h
  split at h
  · next db' hentry =>
    cases h
    exact relationAt_of_entry hentry
  · cases h

theorem ne_nil_of_isDirectory (d : Disk) (h : d.isDirectory l = false) : l ≠ [] := by
  rintro rfl
  cases h

theorem relationAt_put (d : Disk) (hl : l ≠ []) (e : Entry) (l' : Location) :
    (d.put l e).relationAt l' = if l' = l then e.relation else d.relationAt l' := by
  rw [relationAt, entry?_put d hl, relationAt]
  by_cases h : l' = l
  · rw [if_pos h, if_pos h]
  · rw [if_neg h, if_neg h]

theorem relationAt_put_self (hl : l ≠ []) {e : Entry} (h : e.relation = d.relationAt l)
    (l' : Location) :
    (d.put l e).relationAt l' = d.relationAt l' := by
  rw [relationAt_put d hl]
  split
  · next hl' => rw [h, hl']
  · rfl

/-! ### Directories -/

/-- A directory that is made holds no table, and there was none. -/
theorem relationAt_makeDirectory {privacy : Privacy} {path : String}
    (h : d.makeDirectory privacy path = .ok d') (l : Location) :
    d'.relationAt l = d.relationAt l := by
  rw [makeDirectory] at h
  cases hlocate : d.locate path with
  | error f =>
    rw [hlocate] at h
    cases h
  | ok l₀ =>
    rw [hlocate] at h
    change (match d.entry? l₀ with
      | some _ => Except.error FileFault.present
      | none => .ok (d.put l₀ (.directory privacy))) = .ok d' at h
    cases hentry : d.entry? l₀ with
    | some e =>
      rw [hentry] at h
      cases h
    | none =>
      rw [hentry] at h
      cases h
      have hroot : l₀ ≠ [] := d.ne_nil_of_isDirectory (by rw [isDirectory, hentry])
      -- there was nothing, and a directory holds no relation either
      refine relationAt_put_self hroot ?_ l
      rw [relationAt, hentry]
      rfl

theorem relationAt_makeAll (d : Disk) (privacy : Privacy) (fuel : Nat) (path : String)
    (l : Location) :
    (d.makeAll privacy fuel path).1.relationAt l = d.relationAt l := by
  fun_induction makeAll d privacy fuel path with
  | case1 => rfl
  | case2 fuel path hpath d' hmade => exact relationAt_makeDirectory hmade l
  | case3 path hpath hmissing fuel parent hparent d' f hmade ih =>
    rw [hmade] at ih
    exact ih
  | case4 path hpath hmissing fuel parent hparent d' hparents d'' hmade ih =>
    -- the directories on the way are there now, and the last one is made in them
    rw [hparents] at ih
    exact (relationAt_makeDirectory hmade l).trans ih
  | case5 path hpath hmissing fuel parent hparent d' hparents f hrefused ih =>
    rw [hparents] at ih
    exact ih
  | case6 => rfl
  | case7 => rfl

/-- Making directories changes no table. -/
theorem relationAt_makeDirectories (d : Disk) (privacy : Privacy) (path : String) (l : Location) :
    (d.makeDirectories privacy path).1.relationAt l = d.relationAt l :=
  d.relationAt_makeAll privacy path.length path l

/-! ### Files -/

/-- **Opening a database file** changes no table, and the database that is found is on the disk. -/
theorem openDatabase_ok {path : String} {opened : Opened}
    (h : d.openDatabase path = some (d', opened)) :
    (∀ l, d'.relationAt l = d.relationAt l) ∧ ∀ l db, opened = .database l db →
      d'.database? l = some db := by
  unfold openDatabase at h
  extract_lets l at h
  split at h
  · cases h
  · -- what is put there is a database without a table, and what was there had none
    have hblank : d.relationAt l = .absent → l ≠ [] →
        (∀ l', (d.put l (.database .blank)).relationAt l' = d.relationAt l') ∧
          (d.put l (.database .blank)).database? l = some .blank := by
      intro hnone hroot
      refine ⟨relationAt_put_self hroot hnone.symm, ?_⟩
      rw [database?, entry?_put d hroot, if_pos rfl]
    split at h
    · cases h
    · next db hentry =>
      cases h
      refine ⟨fun _ => rfl, ?_⟩
      intro l' db' hfound
      cases hfound
      rw [database?, hentry]
    · next content hentry =>
      split at h
      · cases h
        obtain ⟨htables, hdb⟩ :=
          hblank (relationAt_of_entry hentry)
            (d.ne_nil_of_isDirectory (by rw [isDirectory, hentry]))
        refine ⟨htables, ?_⟩
        intro l' db' hfound
        cases hfound
        exact hdb
      · cases h
        exact ⟨fun _ => rfl, fun l' db' hother => by cases hother⟩
    · cases h
      exact ⟨fun _ => rfl, fun l' db' hother => by cases hother⟩
    · next hentry =>
      cases h
      have hnone : d.relationAt l = .absent := by rw [relationAt, hentry]
      obtain ⟨htables, hdb⟩ := hblank hnone (d.ne_nil_of_isDirectory (by rw [isDirectory, hentry]))
      refine ⟨htables, ?_⟩
      intro l' db' hfound
      cases hfound
      exact hdb

end Disk

namespace Store

/-! ### Stores -/

theorem relationAt_makeParent (d : Disk) (path : String) (l : Location) :
    (makeParent d path).1.relationAt l = d.relationAt l := by
  rw [makeParent]
  cases Path.parent? path with
  | none => rfl
  | some parent =>
    have htables := d.relationAt_makeDirectories .owner parent l
    dsimp only
    generalize d.makeDirectories .owner parent = made at htables
    obtain ⟨d', answer⟩ := made
    cases answer <;> exact htables

theorem relation_attach {db db' : Database} {path : String} {busyTimeout : Nat} {s : Store}
    (h : attach db path busyTimeout = .ok (s, db')) : db'.relation = db.relation := by
  rw [attach] at h
  split at h
  · cases h
  · cases h
    rfl

/-- A connection to a file changes no table, and a store that comes of it is opened on a
database that is on the disk. -/
theorem connect_cases (d : Disk) (path : String) (busyTimeout : Nat) :
    (∀ l, (connect d path busyTimeout).1.relationAt l = d.relationAt l) ∧
      ∀ s l, (connect d path busyTimeout).2 = .opened s l → s.Quiet ∧ s.Linked ∧ s.phase = .opened ∧
        (connect d path busyTimeout).1.database? l ≠ none := by
  rw [connect]
  split
  · exact ⟨fun _ => rfl, fun s l hopened => by cases hopened⟩
  · cases hopen : d.openDatabase path with
    | none => exact ⟨fun _ => rfl, fun s l hopened => by cases hopened⟩
    | some found =>
      obtain ⟨d', opened⟩ := found
      -- a file that is made to be opened is an empty database
      obtain ⟨htables, hdb⟩ := Disk.openDatabase_ok hopen
      dsimp only
      split
      · exact ⟨htables, fun s l hopened => by cases hopened⟩
      · cases opened with
        | other l₀ => exact ⟨htables, fun s l hopened => by cases hopened⟩
        | database l₀ db =>
          have hfound : d'.database? l₀ = some db := hdb l₀ db rfl
          dsimp only
          cases hattach : attach db path busyTimeout with
          | error f => exact ⟨htables, fun s l hopened => by cases hopened⟩
          | ok made =>
            obtain ⟨s, db'⟩ := made
            obtain ⟨-, -, hquiet, hlinked, hphase⟩ := attach_ok hattach
            refine ⟨fun l => ?_, ?_⟩
            · -- opening changes nothing of what lies in the database
              have hsame : (Entry.database db').relation = d'.relationAt l₀ :=
                (relation_attach hattach).trans (Disk.relationAt_of_database? hfound).symm
              exact (Disk.relationAt_put_self (Disk.ne_nil_of_database? hfound) hsame l).trans
                (htables l)
            · intro s' l hopened
              cases hopened
              refine ⟨hquiet, hlinked, hphase, ?_⟩
              simp [Disk.database?_put hfound]

/-- **Everything that opening a store can do**: it changes no table, and a store that comes of
it is opened on a database that is on the disk. -/
theorem openAt_cases (d : Disk) (home path : String) (busyTimeout : Nat) :
    (∀ l, (openAt d home path busyTimeout).1.relationAt l = d.relationAt l) ∧
      ∀ s l, (openAt d home path busyTimeout).2 = .opened s l →
        s.Quiet ∧ s.Linked ∧ s.phase = .opened ∧
        (openAt d home path busyTimeout).1.database? l ≠ none := by
  rw [openAt]
  split
  · exact ⟨fun _ => rfl, fun s l hopened => by cases hopened⟩
  · have hparent := relationAt_makeParent d (Path.expandTilde home path)
    dsimp only
    generalize makeParent d (Path.expandTilde home path) = made at hparent
    obtain ⟨d', refused⟩ := made
    cases refused with
    | some f => exact ⟨hparent, fun s l hopened => by cases hopened⟩
    | none =>
      obtain ⟨htables, hopened⟩ := connect_cases d' (Path.expandTilde home path) busyTimeout
      exact ⟨fun l => (htables l).trans (hparent l), hopened⟩

end Store

end UsageLedger
