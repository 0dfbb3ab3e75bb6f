import UsageLedger.Snapshot.Basic

/-!
# Merging snapshots

One snapshot is added to another without counting a record twice: a bucket takes over the details
whose key it has not met, each at most once, and everything already there stays where it is.

## Main definitions

* `Tally`: how many records were added and how many were skipped.
* `sift`: the members of a list whose keys are new, each key once, and how many there are.
* `Snapshot.merge`: a snapshot with another one added.
-/

namespace UsageLedger

/-- How many records were taken over, and how many were known already. -/
structure Tally where
  /-- The records taken over. -/
  added : Nat := 0
  /-- The records left out. -/
  skipped : Nat := 0
  deriving DecidableEq

namespace Tally

/-- Two tallies taken together. -/
def add (s t : Tally) : Tally :=
  ⟨s.added + t.added, s.skipped + t.skipped⟩

/-- The number of records looked at. -/
def total (t : Tally) : Nat :=
  t.added + t.skipped

/-- One more record looked at. -/
def note (t : Tally) (isNew : Bool) : Tally :=
  if isNew then { t with added := t.added + 1 } else { t with skipped := t.skipped + 1 }

@[simp] theorem note_true (t : Tally) : t.note true = { t with added := t.added + 1 } := rfl

@[simp] theorem note_false (t : Tally) : t.note false = { t with skipped := t.skipped + 1 } := rfl

end Tally

/-- The members of a list whose keys are neither among the given ones nor those of earlier
members, and the tally after every member was noted. -/
def sift {α κ : Type} [DecidableEq κ] (keyOf : α → κ) : List κ → Tally → List α → List α × Tally
  | _, tally, [] => ([], tally)
  | seen, tally, a :: as =>
    if keyOf a ∈ seen then sift keyOf seen (tally.note false) as
    else
      let (news, tally) := sift keyOf (keyOf a :: seen) (tally.note true) as
      (a :: news, tally)

namespace Snapshot

/-- A snapshot with the details of one further bucket added. -/
def mergeBucket (s : Snapshot) (apiKey model : String) (incoming : Bucket) : Snapshot × Tally :=
  let keyOf := fun detail => Record.key ⟨apiKey, model, detail⟩
  let present := (s.bucket? apiKey model).getD []
  let (news, tally) := sift keyOf (present.map keyOf) {} incoming
  (if news.isEmpty then s else s.extend apiKey model news, tally)

/-- A row of buckets, added one after the other. -/
def mergeBuckets (s : Snapshot) (tally : Tally) :
    List (String × String × Bucket) → Snapshot × Tally
  | [] => (s, tally)
  | (apiKey, model, incoming) :: rest =>
    let (s, t) := s.mergeBucket apiKey model incoming
    mergeBuckets s (tally.add t) rest

/-- A snapshot with another one added, and the tally of the other one's records. -/
def merge (s incoming : Snapshot) : Snapshot × Tally :=
  s.mergeBuckets {} incoming.buckets

end Snapshot

end UsageLedger
