import UsageLedger.Config.Reader
import UsageLedger.Store.Opening

/-!
# Opening a store as the settings say

Settings are accepted with a path of the database that is not empty, so a store that is opened
there is never refused for its settings.  The time to wait only has to be more than zero to be
accepted, while a connection can be told a bounded time: with a longer one the process ends as
soon as there is a connection to tell it to.  How far an attempt gets before that does not
depend on the time, so the attempts that end so can be named exactly.

## Main definitions

* `Opening.connected` — an attempt to open a store got as far as a connection.

## Main results

* `Config.fault?_eq_none_iff` — what settings are accepted.
* `Store.openAt_ends` — how an attempt to open a store ends, for every time to wait.
* `Config.opening_of_load` — **a store opened as accepted settings say**.
-/

namespace UsageLedger

theorem Path.join_ne_empty (base : String) {path : String} (h : path ≠ "") :
    Path.join base path ≠ "" := by
  rw [join]
  split
  · exact h
  · split <;> simp [h]

/-! ### Accepted settings -/

namespace Config

variable {c : Config}

/-- **What settings are accepted**: a path that is set is not empty, nor is the directory that
stands in for it, and a database in use is waited for. -/
theorem fault?_eq_none_iff :
    c.fault? = none ↔
      c.storage.path ≠ some "" ∧ (c.storage.path = none → c.storage.authDir ≠ "") ∧
      c.storage.busyTimeout ≠ 0 := by
  rw [fault?]
  by_cases hpath : c.storage.path = some ""
  · simp [hpath]
  · rw [if_neg hpath]
    by_cases hdirectory : c.storage.path = none ∧ c.storage.authDir = ""
    · simp [hdirectory]
    · rw [if_neg hdirectory]
      by_cases htimeout : c.storage.busyTimeout = 0
      · simp [htimeout]
      · rw [if_neg htimeout]
        exact ⟨fun _ => ⟨hpath, fun hnone hempty => hdirectory ⟨hnone, hempty⟩, htimeout⟩,
          fun _ => rfl⟩

/-- The settings of a file are there only if there is nothing against them. -/
theorem fault?_of_load {d : Disk} {file : String} (h : load d file = .ok c) : c.fault? = none := by
  rw [load] at h
  split at h
  · rw [ofText] at h
    split at h
    · rw [validate] at h
      split at h
      · cases h
      · next hfault =>
        cases h
        exact hfault
    · cases h
  · cases h

theorem databasePath_ne_empty (h : c.fault? = none) : c.databasePath ≠ "" := by
  obtain ⟨hpath, -, -⟩ := fault?_eq_none_iff.mp h
  rw [databasePath]
  cases hset : c.storage.path with
  | none => exact Path.join_ne_empty _ (by decide)
  | some path =>
    rintro rfl
    exact hpath hset

end Config

/-! ### How an attempt ends -/

/-- An attempt to open a store got as far as a connection: it was opened, or only its setting up
was refused, or the time to wait was too long for it. -/
def Opening.connected : Opening → Bool
  | .opened _ _ => true
  | .refused (.store (.unconfigured _ _)) => true
  | .refused _ => false
  | .aborted => true

namespace Store

/-- An attempt that gets as far as a connection ends the process if the time to wait is too
long, and otherwise leads to a store or to an error of the store. -/
structure Ends (busyTimeout : Nat) (o : Opening) : Prop where
  /-- There was a connection. -/
  connected : o.connected = true
  /-- The process ends if the time is too long. -/
  aborted_iff : o = .aborted ↔ longestTimeout < busyTimeout
  /-- It is never the settings that are refused. -/
  refused : ∀ e, o = .refused e → ∃ f, e = .store f

/-- How an attempt to connect ends: it gets as far as a connection for every time to wait, or it
is refused before that, in the same way for every time. -/
theorem connect_ends (d : Disk) (path : String) :
    (∀ t, Ends t (connect d path t).2) ∨
      ∃ f, (Opening.refused (.store f)).connected = false ∧
        ∀ t, (connect d path t).2 = .refused (.store f) := by
  -- a path with a nul and a file that cannot be opened are refused before the timeout is looked
  -- at
  by_cases hnul : path.toList.contains '\x00' = true
  · exact .inr ⟨.impossiblePath path (bytesBeforeNul path), rfl,
      fun t => by rw [connect, if_pos hnul]⟩
  · cases hopen : d.openDatabase path with
    | none => exact .inr ⟨.unopened path, rfl, fun t => by rw [connect, if_neg hnul, hopen]⟩
    | some found =>
      obtain ⟨d', opened⟩ := found
      refine .inl fun t => ?_
      rw [connect, if_neg hnul, hopen]
      dsimp only
      split
      · next hlong => exact ⟨rfl, by simp [hlong], fun e he => by cases he⟩
      · next hfits =>
        cases opened with
        | other l => exact ⟨rfl, by simp [hfits], fun e he => by cases he; exact ⟨_, rfl⟩⟩
        | database l db =>
          dsimp only
          cases attach db path t with
          | error f => exact ⟨rfl, by simp [hfits], fun e he => by cases he; exact ⟨_, rfl⟩⟩
          | ok made => exact ⟨rfl, by simp [hfits], fun e he => by cases he⟩

/-- **How an attempt to open a store ends**, for every time to wait, at a path that is not
empty: the steps before there is a connection do not depend on the time. -/
theorem openAt_ends (d : Disk) (home : String) {path : String} (hpath : path ≠ "") :
    (∀ t, Ends t (openAt d home path t).2) ∨
      ∃ f, (Opening.refused (.store f)).connected = false ∧
        ∀ t, (openAt d home path t).2 = .refused (.store f) := by
  simp only [openAt, if_neg hpath]
  generalize hmade : makeParent d (Path.expandTilde home path) = made
  obtain ⟨d', refused⟩ := made
  cases refused with
  | none => exact connect_ends d' _
  | some f =>
    refine .inr ⟨f, ?_, fun t => rfl⟩
    -- the only fault of the directory is that it cannot be made
    rw [makeParent] at hmade
    split at hmade
    · cases hmade
    · split at hmade <;> cases hmade
      rfl

end Store

/-! ### Opening as the settings say -/

/-- **A store opened as accepted settings say**, on any disk and for any home directory.  The
path of its database is not empty and never refused for its settings.  It is opened or refused
by the database whenever the time to wait is one that a connection can be told.  The process
ends exactly if the time is longer and the same path, opened with the usual time, leads to a
connection. -/
theorem Config.opening_of_load {d₀ : Disk} {file : String} {c : Config}
    (h : Config.load d₀ file = .ok c) (d : Disk) (home : String) :
    c.databasePath ≠ "" ∧
      (∀ f, (Store.openAt d home c.databasePath c.storage.busyTimeout).2 ≠ .refused (.config f)) ∧
      (c.storage.busyTimeout ≤ longestTimeout →
        (∃ s l, (Store.openAt d home c.databasePath c.storage.busyTimeout).2 = .opened s l) ∨
          ∃ f, (Store.openAt d home c.databasePath c.storage.busyTimeout).2 = .refused (.store f)) ∧
      ((Store.openAt d home c.databasePath c.storage.busyTimeout).2 = .aborted ↔
        longestTimeout < c.storage.busyTimeout ∧
          (Store.openAt d home c.databasePath Store.usualTimeout).2.connected = true) := by
  have hpath := databasePath_ne_empty (fault?_of_load h)
  refine ⟨hpath, ?_⟩
  -- the opening comes as far as the timeout, or is refused before it whatever the timeout
  obtain hends | ⟨f, hearly, hrefused⟩ := Store.openAt_ends d home hpath
  · have hhere := hends c.storage.busyTimeout
    have husual := hends Store.usualTimeout
    generalize (Store.openAt d home c.databasePath c.storage.busyTimeout).2 = o at hhere
    refine ⟨fun f ho => ?_, fun hfits => ?_, ?_⟩
    · obtain ⟨f', hf'⟩ := hhere.refused _ ho
      cases hf'
    · cases o with
      | opened s l => exact .inl ⟨s, l, rfl⟩
      | refused e =>
        obtain ⟨f, rfl⟩ := hhere.refused e rfl
        exact .inr ⟨f, rfl⟩
      | aborted => exact absurd (hhere.aborted_iff.mp rfl) (Nat.not_lt.mpr hfits)
    · rw [hhere.aborted_iff, husual.connected]
      simp
  · rw [hrefused, hrefused, hearly]
    refine ⟨fun f' ho => ?_, fun _ => .inr ⟨f, rfl⟩, ?_⟩
    · cases ho
    · simp

/-- Settings that ask to wait a millisecond longer than a connection can be told. -/
def patientSettings : String :=
  "[storage]\npath = \"u.db\"\nbusy_timeout_ms = 2147483648\n"

/-- A disk with these settings in a file. -/
def patientDisk : Disk :=
  ({} : Disk).put ["work", "c.toml"] (.text patientSettings)

/-- They are accepted, and the process ends when a store is opened as they say. -/
theorem patientSettings_abort :
    ∃ c, Config.load patientDisk "c.toml" = .ok c ∧
      (Store.openAt patientDisk "home" c.databasePath c.storage.busyTimeout).2 = .aborted := by
  have haccepted : (Config.load patientDisk "c.toml").toOption =
      some { storage := { path := some "u.db", busyTimeout := 2147483648 } } := by
    decide +kernel
  obtain ⟨c, hload⟩ : ∃ c, Config.load patientDisk "c.toml" = .ok c := by
    cases hload : Config.load patientDisk "c.toml" with
    | error e =>
      rw [hload] at haccepted
      cases haccepted
    | ok c => exact ⟨c, rfl⟩
  rw [hload] at haccepted
  cases haccepted
  obtain ⟨-, -, -, haborts⟩ := Config.opening_of_load hload patientDisk "home"
  exact ⟨_, hload, haborts.mpr ⟨by decide, by decide +kernel⟩⟩

end UsageLedger
