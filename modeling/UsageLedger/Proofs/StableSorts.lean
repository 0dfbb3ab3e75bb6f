import Mathlib.Data.List.Nodup
import Mathlib.Data.List.Perm.Basic

/-!
# Stable sorts

Rows come out of a table, details stand in a bucket and records in a snapshot in an order that
is made by a stable sort.  Such a sort says more than that the list ascends: elements that tie
stand as they stood before. That is all there is to say, for an ascending list is known from the
elements of each tie.

## Main results

* `filter_mergeSort_of_le` — a stable sort leaves elements that tie as they are.
* `pairwise_mergeSort_of_pairwise` — a stable sort refines the order that was there.
* `eq_of_ties` — **an ascending list is known from the elements of each tie**, in their order.
-/

namespace UsageLedger

variable {α : Type} {le : α → α → Bool}

/-- A stable sort leaves elements that tie as they are. -/
theorem filter_mergeSort_of_le (htrans : ∀ a b c, le a b = true → le b c = true → le a c = true)
    (htotal : ∀ a b, (le a b || le b a) = true) {p : α → Bool}
    (htie : ∀ a b, p a = true → p b = true → le a b = true) (l : List α) :
    (l.mergeSort le).filter p = l.filter p := by
  have hpairs : (l.filter p).Pairwise fun a b => le a b = true := by
    apply List.pairwise_of_forall_mem_list
    intro a ha b hb
    exact htie a b (List.mem_filter.mp ha).2 (List.mem_filter.mp hb).2
  -- they are found in the sorted list in the order that they had, and there are no others
  have hsub : (l.filter p).Sublist ((l.mergeSort le).filter p) := by
    have hfound := (List.sublist_mergeSort htrans htotal hpairs List.filter_sublist).filter p
    simpa only [List.filter_filter, Bool.and_self] using hfound
  exact (hsub.eq_of_length ((List.mergeSort_perm l le).filter p).length_eq.symm).symm

theorem pairwise_places_ne {l : List α} {places : List (α × Nat)}
    (h : places.Perm l.zipIdx) : places.Pairwise fun a b => a.2 ≠ b.2 := by
  refine List.pairwise_map.mp ((h.map Prod.snd).nodup_iff.mpr ?_)
  rw [List.zipIdx_map_snd]
  exact List.nodup_range'

/-- **A stable sort refines the order that was there**: of two elements the one that comes first
is no greater, and if it is no less either, it came first before. -/
theorem pairwise_mergeSort_of_pairwise
    (htrans : ∀ a b c, le a b = true → le b c = true → le a c = true)
    (htotal : ∀ a b, (le a b || le b a) = true) {r : α → α → Prop} {l : List α}
    (hl : l.Pairwise r) :
    (l.mergeSort le).Pairwise fun a b => le a b = true ∧ (le b a = true → r a b) := by
  have hperm : (l.zipIdx.mergeSort (List.zipIdxLE le)).Perm l.zipIdx := List.mergeSort_perm _ _
  have hsorted := List.pairwise_mergeSort (List.zipIdxLE_trans htrans)
    (List.zipIdxLE_total htotal) l.zipIdx
  -- sorting with the places beside the elements is sorting, and shows where each stood
  have hplaces := pairwise_places_ne hperm
  rw [← List.mergeSort_zipIdx, List.pairwise_map]
  refine (hsorted.and hplaces).imp_of_mem ?_
  rintro ⟨a, i⟩ ⟨b, j⟩ ha hb ⟨hle, hne⟩
  have hi : l[i]? = some a := List.mem_zipIdx_iff_getElem?.mp (hperm.mem_iff.mp ha)
  have hj : l[j]? = some b := List.mem_zipIdx_iff_getElem?.mp (hperm.mem_iff.mp hb)
  obtain ⟨hilt, rfl⟩ := List.getElem?_eq_some_iff.mp hi
  obtain ⟨hjlt, rfl⟩ := List.getElem?_eq_some_iff.mp hj
  dsimp only at hne ⊢
  rw [List.zipIdxLE] at hle
  dsimp only at hle
  split at hle
  · next hab =>
    refine ⟨hab, fun hba => ?_⟩
    rw [if_pos hba, decide_eq_true_eq] at hle
    -- the elements tie, so the one that stands first did so before
    exact List.pairwise_iff_getElem.mp hl i j hilt hjlt (by omega)
  · cases hle

/-- **An ascending list is known from the elements of each tie**, in their order. -/
theorem eq_of_ties {κ : Type} [DecidableEq κ] {keyOf : α → κ} {r : κ → κ → Prop}
    (hrefl : ∀ k, r k k) (hantisymm : ∀ j k, r j k → r k j → j = k) {as bs : List α}
    (has : as.Pairwise fun a b => r (keyOf a) (keyOf b))
    (hbs : bs.Pairwise fun a b => r (keyOf a) (keyOf b))
    (h : ∀ k, as.filter (fun a => keyOf a = k) = bs.filter (fun b => keyOf b = k)) : as = bs := by
  -- the first of a list comes before each of the others
  have hfirst : ∀ (a : α) (l : List α), (a :: l).Pairwise (fun x y => r (keyOf x) (keyOf y)) →
      ∀ b, b ∈ (a :: l).filter (fun x => keyOf x = keyOf b) → r (keyOf a) (keyOf b) := by
    intro a l hl b hb
    rcases List.mem_cons.mp (List.mem_filter.mp hb).1 with rfl | hmem
    · exact hrefl _
    · exact (List.pairwise_cons.mp hl).1 b hmem
  induction as generalizing bs with
  | nil =>
    cases bs with
    | nil => rfl
    | cons b bs => simpa using h (keyOf b)
  | cons a as ih =>
    cases bs with
    | nil => simpa using h (keyOf a)
    | cons b bs =>
      -- either first element is found in the other list too, so neither is greater
      have hab : r (keyOf a) (keyOf b) := hfirst a as has b (by rw [h]; simp)
      have hba : r (keyOf b) (keyOf a) := hfirst b bs hbs a (by rw [← h]; simp)
      have hsame : keyOf a = keyOf b := hantisymm _ _ hab hba
      have hhead := h (keyOf a)
      rw [List.filter_cons_of_pos (by simp), List.filter_cons_of_pos (by simp [hsame])] at hhead
      obtain rfl : a = b := (List.cons.inj hhead).1
      refine congrArg (a :: ·) (ih (List.pairwise_cons.mp has).2 (List.pairwise_cons.mp hbs).2
        fun k => ?_)
      have hk := h k
      by_cases hak : keyOf a = k
      · rw [List.filter_cons_of_pos (by simp [hak]), List.filter_cons_of_pos (by simp [hak])] at hk
        exact (List.cons.inj hk).2
      · rwa [List.filter_cons_of_neg (by simp [hak]), List.filter_cons_of_neg (by simp [hak])] at hk

end UsageLedger
