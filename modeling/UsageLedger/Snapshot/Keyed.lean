/-!
# Tables in key order

A table holds one value for each of its keys and keeps the keys ascending, so that walking
through it meets them in the order of their bytes.  For text the order of the bytes is the order
of the characters.

## Main definitions

* `Keyed β`: tables of values of type `β`.
* `Keyed.get?`: the value of a key.
* `Keyed.upsert`: a table with the value of one key changed, or the key added.
-/

namespace UsageLedger

/-- A table of values under ascending keys. -/
structure Keyed (β : Type) where
  /-- The keys with their values. -/
  entries : List (String × β)
  /-- The keys ascend. -/
  ascending : entries.Pairwise fun a b => a.1 < b.1

namespace Keyed

variable {β : Type}

/-- The table without keys. -/
def empty : Keyed β :=
  ⟨[], .nil⟩

instance : Inhabited (Keyed β) := ⟨empty⟩

instance [DecidableEq β] : DecidableEq (Keyed β) := fun a b =>
  decidable_of_iff (a.entries = b.entries) (by cases a; cases b; simp)

/-- The value of a key. -/
def get? (t : Keyed β) (key : String) : Option β :=
  t.entries.lookup key

/-- The entries with the value of one key changed, or the key added where it belongs. -/
def upsertEntries (key : String) (change : Option β → β) : List (String × β) → List (String × β)
  | [] => [(key, change none)]
  | (k, v) :: rest =>
    if key < k then (key, change none) :: (k, v) :: rest
    else if key = k then (k, change (some v)) :: rest
    else (k, v) :: upsertEntries key change rest

/-- The keys after a change are the keys before it and the key of the change. -/
theorem mem_upsertEntries {key : String} {change : Option β → β} {entries : List (String × β)}
    {e : String × β} (h : e ∈ upsertEntries key change entries) :
    e.1 = key ∨ e ∈ entries := by
  induction entries with
  | nil => simp_all [upsertEntries]
  | cons first rest ih =>
    obtain ⟨k, v⟩ := first
    simp only [upsertEntries] at h
    split at h
    · simp only [List.mem_cons] at h ⊢
      rcases h with rfl | h
      · exact .inl rfl
      · exact .inr h
    · split at h
      · rename_i hk
        simp only [List.mem_cons] at h ⊢
        rcases h with rfl | h
        · exact .inl hk.symm
        · exact .inr (.inr h)
      · simp only [List.mem_cons] at h ⊢
        rcases h with rfl | h
        · exact .inr (.inl rfl)
        · exact (ih h).imp_right .inr

/-- Keys still ascend when one is added where it belongs. -/
theorem pairwise_upsertEntries (key : String) (change : Option β → β)
    {entries : List (String × β)} (h : entries.Pairwise fun a b => a.1 < b.1) :
    (upsertEntries key change entries).Pairwise fun a b => a.1 < b.1 := by
  induction entries with
  | nil => simp [upsertEntries]
  | cons first rest ih =>
    obtain ⟨k, v⟩ := first
    obtain ⟨hfirst, hrest⟩ := List.pairwise_cons.mp h
    simp only [upsertEntries]
    split
    · rename_i hlt
      refine List.pairwise_cons.mpr ⟨fun e he => ?_, h⟩
      rcases List.mem_cons.mp he with rfl | he
      · exact hlt
      · exact String.lt_trans hlt (hfirst e he)
    · split
      · exact List.pairwise_cons.mpr ⟨hfirst, hrest⟩
      · rename_i hlt hne
        refine List.pairwise_cons.mpr ⟨fun e he => ?_, ih hrest⟩
        rcases mem_upsertEntries he with he | he
        · -- the key is neither smaller than the first one nor equal to it
          rw [he]
          exact (String.le_total key k).elim
            (fun hle => absurd (String.le_antisymm hle (String.not_lt.mp hlt)) hne)
            (fun hle => String.not_le.mp fun hge => hne (String.le_antisymm hge hle))
        · exact hfirst e he

/-- A table with the value of one key changed, or the key added. -/
def upsert (t : Keyed β) (key : String) (change : Option β → β) : Keyed β :=
  ⟨upsertEntries key change t.entries, pairwise_upsertEntries key change t.ascending⟩

/-- The table of keys and values, of which a later value of a key replaces an earlier one. -/
def ofList (entries : List (String × β)) : Keyed β :=
  entries.foldl (fun t (k, v) => t.upsert k fun _ => v) empty

/-- A table with every value replaced. -/
def map {γ : Type} (f : β → γ) (t : Keyed β) : Keyed γ :=
  ⟨t.entries.map fun (k, v) => (k, f v), t.ascending.map _ fun _ _ h => h⟩

end Keyed

end UsageLedger
