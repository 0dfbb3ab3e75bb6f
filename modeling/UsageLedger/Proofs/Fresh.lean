import UsageLedger.Snapshot.Merge
import Mathlib.Data.List.Dedup
import Mathlib.Data.List.Nodup

/-!
# Members with new keys

The table and the merge of snapshots leave out what they have met before in the same way: of a
list they keep the members whose key is new, each key once.

## Main definitions

* `fresh` — the members of a list whose keys are new, each key once.

## Main results

* `sift_eq` — a merge chooses just these from a bucket, and counts them and the others.
* `fresh_sublist`, `mem_keys_fresh` — what is kept, and which keys it has.
* `nodup_append_map_fresh` — with the keys met before, the keys kept are distinct.
* `fresh_eq_nil_iff`, `fresh_eq_self` — when nothing is kept, and when everything is.
* `fresh_append`, `fresh_filter`, `fresh_fresh` — what is kept of parts of a list.
* `fresh_perm`, `length_fresh_congr`, `length_fresh_nil` — what does not depend on the order.
-/

namespace UsageLedger

/-- The members of a list whose keys are neither among the given ones nor those of earlier
members. -/
def fresh {α κ : Type} [DecidableEq κ] (keyOf : α → κ) : List κ → List α → List α
  | _, [] => []
  | seen, a :: as =>
    if keyOf a ∈ seen then fresh keyOf seen as
    else a :: fresh keyOf (keyOf a :: seen) as

variable {α κ : Type} [DecidableEq κ] {keyOf : α → κ}

@[simp] theorem fresh_nil (seen : List κ) : fresh keyOf seen [] = [] := rfl

theorem fresh_cons_of_mem {seen : List κ} {a : α} (h : keyOf a ∈ seen) (as : List α) :
    fresh keyOf seen (a :: as) = fresh keyOf seen as := by
  rw [fresh, if_pos h]

theorem fresh_cons_of_notMem {seen : List κ} {a : α} (h : keyOf a ∉ seen) (as : List α) :
    fresh keyOf seen (a :: as) = a :: fresh keyOf (keyOf a :: seen) as := by
  rw [fresh, if_neg h]

/-- What is kept depends on the set of keys met before, not on their order. -/
theorem fresh_congr (as : List α) : ∀ {s t : List κ}, (∀ k, k ∈ s ↔ k ∈ t) →
    fresh keyOf s as = fresh keyOf t as := by
  induction as with
  | nil => intro s t _; rfl
  | cons a as ih =>
    intro s t h
    by_cases ha : keyOf a ∈ s
    · rw [fresh_cons_of_mem ha, fresh_cons_of_mem ((h _).mp ha), ih h]
    · have ha' : keyOf a ∉ t := fun ht => ha ((h _).mpr ht)
      rw [fresh_cons_of_notMem ha, fresh_cons_of_notMem ha',
        ih (t := keyOf a :: t) fun k => by simp [h k]]

/-- The members kept stand in the order in which they came. -/
theorem fresh_sublist (seen : List κ) (as : List α) : (fresh keyOf seen as).Sublist as := by
  induction as generalizing seen with
  | nil => exact List.Sublist.refl _
  | cons a as ih =>
    by_cases ha : keyOf a ∈ seen
    · rw [fresh_cons_of_mem ha]
      exact (ih seen).cons a
    · rw [fresh_cons_of_notMem ha]
      exact (ih _).cons_cons a

/-- **What a merge chooses from a bucket** are the members with new keys, and it counts them and the
others, one by one. -/
theorem sift_eq (seen : List κ) (tally : Tally) (as : List α) :
    sift keyOf seen tally as = (fresh keyOf seen as,
      tally.add ⟨(fresh keyOf seen as).length, as.length - (fresh keyOf seen as).length⟩) := by
  induction as generalizing seen tally with
  | nil => rfl
  | cons a as ih =>
    rw [sift]
    by_cases ha : keyOf a ∈ seen
    · -- an element that is skipped is counted by its note, and is no part of what is fresh
      have hle : (fresh keyOf seen as).length ≤ as.length := (fresh_sublist seen as).length_le
      rw [if_pos ha, ih, fresh_cons_of_mem ha]
      simp only [Tally.note_false, Tally.add, List.length_cons, Prod.mk.injEq, Tally.mk.injEq,
        true_and]
      omega
    · have hle : (fresh keyOf (keyOf a :: seen) as).length ≤ as.length :=
        (fresh_sublist _ as).length_le
      rw [if_neg ha, ih, fresh_cons_of_notMem ha]
      simp only [Tally.note_true, Tally.add, List.length_cons, Prod.mk.injEq, Tally.mk.injEq,
        true_and]
      omega

theorem keyOf_notMem_of_mem_fresh {seen : List κ} {as : List α} {a : α}
    (h : a ∈ fresh keyOf seen as) : keyOf a ∉ seen := by
  induction as generalizing seen with
  | nil => simp at h
  | cons b as ih =>
    by_cases hb : keyOf b ∈ seen
    · rw [fresh_cons_of_mem hb] at h
      exact ih h
    · rw [fresh_cons_of_notMem hb, List.mem_cons] at h
      rcases h with rfl | h
      · exact hb
      · exact fun hs => ih h (List.mem_cons_of_mem _ hs)

theorem nodup_map_fresh (seen : List κ) (as : List α) :
    ((fresh keyOf seen as).map keyOf).Nodup := by
  induction as generalizing seen with
  | nil => exact List.nodup_nil
  | cons a as ih =>
    by_cases ha : keyOf a ∈ seen
    · rw [fresh_cons_of_mem ha]
      exact ih seen
    · rw [fresh_cons_of_notMem ha, List.map_cons, List.nodup_cons]
      refine ⟨fun hmem => ?_, ih _⟩
      obtain ⟨b, hb, hkey⟩ := List.mem_map.mp hmem
      exact keyOf_notMem_of_mem_fresh hb (hkey ▸ List.mem_cons_self)

/-- Together with the keys met before, the keys of the members kept are distinct. -/
theorem nodup_append_map_fresh {seen : List κ} (h : seen.Nodup) (as : List α) :
    (seen ++ (fresh keyOf seen as).map keyOf).Nodup := by
  refine h.append (nodup_map_fresh seen as) fun k hk hmem => ?_
  obtain ⟨a, ha, rfl⟩ := List.mem_map.mp hmem
  exact keyOf_notMem_of_mem_fresh ha hk

/-- Every key of the list was met before or is the key of a member kept. -/
theorem mem_keys_fresh {seen : List κ} {as : List α} {a : α} (h : a ∈ as) :
    keyOf a ∈ seen ∨ keyOf a ∈ (fresh keyOf seen as).map keyOf := by
  induction as generalizing seen with
  | nil => simp at h
  | cons b as ih =>
    by_cases hb : keyOf b ∈ seen
    · rw [fresh_cons_of_mem hb]
      rcases List.mem_cons.mp h with rfl | h
      · exact .inl hb
      · exact ih h
    · rw [fresh_cons_of_notMem hb, List.map_cons, List.mem_cons]
      rcases List.mem_cons.mp h with rfl | h
      · exact .inr (.inl rfl)
      · -- a key that has been seen since may be that of the first element itself
        rcases @ih (keyOf b :: seen) h with hs | hf
        · rcases List.mem_cons.mp hs with hab | hs
          · exact .inr (.inl hab)
          · exact .inl hs
        · exact .inr (.inr hf)

/-- Nothing is kept exactly when every key was met before. -/
theorem fresh_eq_nil_iff {seen : List κ} {as : List α} :
    fresh keyOf seen as = [] ↔ ∀ a ∈ as, keyOf a ∈ seen := by
  constructor
  · intro h a ha
    have hmem : keyOf a ∈ seen ∨ keyOf a ∈ (fresh keyOf seen as).map keyOf := mem_keys_fresh ha
    rw [h] at hmem
    simpa using hmem
  · intro h
    refine List.eq_nil_iff_forall_not_mem.mpr fun a ha => ?_
    exact keyOf_notMem_of_mem_fresh ha (h a ((fresh_sublist seen as).subset ha))

/-- What is kept of two lists one after the other: for the second one the keys of the first were
met. -/
theorem fresh_append (seen : List κ) (as bs : List α) :
    fresh keyOf seen (as ++ bs) = fresh keyOf seen as ++ fresh keyOf (seen ++ as.map keyOf) bs := by
  induction as generalizing seen with
  | nil => simp
  | cons a as ih =>
    rw [List.cons_append]
    by_cases ha : keyOf a ∈ seen
    · rw [fresh_cons_of_mem ha, fresh_cons_of_mem ha, ih]
      refine congrArg (_ ++ ·) (fresh_congr bs fun k => ?_)
      -- the key of `a` was met before, and counts as met either way
      simp only [List.mem_append, List.map_cons, List.mem_cons]
      constructor
      · exact Or.imp_right .inr
      · rintro (hk | rfl | hk)
        · exact .inl hk
        · exact .inl ha
        · exact .inr hk
    · rw [fresh_cons_of_notMem ha, fresh_cons_of_notMem ha, ih, List.cons_append]
      refine congrArg (a :: ·) (congrArg (_ ++ ·) (fresh_congr bs fun k => ?_))
      simp [or_left_comm]

theorem mem_append_map_fresh (seen : List κ) (as : List α) (k : κ) :
    k ∈ seen ++ (fresh keyOf seen as).map keyOf ↔ k ∈ seen ++ as.map keyOf := by
  rw [List.mem_append, List.mem_append]
  constructor
  · exact Or.imp_right fun hk => ((fresh_sublist seen as).map keyOf).subset hk
  · rintro (hk | hk)
    · exact .inl hk
    · obtain ⟨a, ha, rfl⟩ := List.mem_map.mp hk
      exact mem_keys_fresh ha

/-- The keys of the members kept are those of the list that were not met before. -/
theorem mem_map_fresh {seen : List κ} {as : List α} {k : κ} :
    k ∈ (fresh keyOf seen as).map keyOf ↔ k ∉ seen ∧ k ∈ as.map keyOf := by
  constructor
  · intro hk
    obtain ⟨a, ha, rfl⟩ := List.mem_map.mp hk
    exact ⟨keyOf_notMem_of_mem_fresh ha, List.mem_map_of_mem ((fresh_sublist seen as).subset ha)⟩
  · rintro ⟨hnew, hk⟩
    obtain ⟨a, ha, rfl⟩ := List.mem_map.mp hk
    exact (mem_keys_fresh ha).resolve_left hnew

/-- How many members are kept depends on the set of keys, not on how often a key comes, or when. -/
theorem length_fresh_congr {as bs : List α} (h : ∀ k, k ∈ as.map keyOf ↔ k ∈ bs.map keyOf)
    (seen : List κ) : (fresh keyOf seen as).length = (fresh keyOf seen bs).length := by
  have hkeys : ((fresh keyOf seen as).map keyOf).Perm ((fresh keyOf seen bs).map keyOf) := by
    refine (List.perm_ext_iff_of_nodup (nodup_map_fresh seen as) (nodup_map_fresh seen bs)).mpr
      fun k => ?_
    rw [mem_map_fresh, mem_map_fresh, h]
  simpa using hkeys.length_eq

/-- Two keys that tell the members of a list apart in the same way, and were met for the same
members, keep the same members. -/
theorem fresh_congr_key {μ : Type} [DecidableEq μ] {other : α → μ} {seen : List κ} {met : List μ}
    {as : List α} (hseen : ∀ a ∈ as, keyOf a ∈ seen ↔ other a ∈ met)
    (h : ∀ a ∈ as, ∀ b ∈ as, keyOf a = keyOf b ↔ other a = other b) :
    fresh keyOf seen as = fresh other met as := by
  induction as generalizing seen met with
  | nil => rfl
  | cons a as ih =>
    have hseen' : ∀ b ∈ as, keyOf b ∈ seen ↔ other b ∈ met := fun b hb =>
      hseen b (List.mem_cons_of_mem _ hb)
    have h' : ∀ b ∈ as, ∀ c ∈ as, keyOf b = keyOf c ↔ other b = other c := fun b hb c hc =>
      h b (List.mem_cons_of_mem _ hb) c (List.mem_cons_of_mem _ hc)
    have hmem := hseen a List.mem_cons_self
    by_cases ha : keyOf a ∈ seen
    · rw [fresh_cons_of_mem ha, fresh_cons_of_mem (hmem.mp ha), ih hseen' h']
    · rw [fresh_cons_of_notMem ha, fresh_cons_of_notMem (mt hmem.mpr ha)]
      -- what is seen has grown by the keys of one element on both sides
      refine congrArg (a :: ·) (ih (fun b hb => ?_) h')
      rw [List.mem_cons, List.mem_cons, hseen' b hb,
        h b (List.mem_cons_of_mem _ hb) a List.mem_cons_self]

theorem fresh_map {β : Type} (f : β → α) (seen : List κ) (bs : List β) :
    fresh keyOf seen (bs.map f) = (fresh (fun b => keyOf (f b)) seen bs).map f := by
  induction bs generalizing seen with
  | nil => rfl
  | cons b bs ih =>
    rw [List.map_cons]
    by_cases hb : keyOf (f b) ∈ seen
    · rw [fresh_cons_of_mem hb, ih]
      exact congrArg (List.map f) (@fresh_cons_of_mem _ _ _ (fun b => keyOf (f b)) _ b hb bs).symm
    · rw [fresh_cons_of_notMem hb, ih, ← List.map_cons]
      exact congrArg (List.map f) (@fresh_cons_of_notMem _ _ _
        (fun b => keyOf (f b)) _ b hb bs).symm

/-- A property that members with the same key share can be asked before or after members are
left out; only the keys of members with the property count as met before. -/
theorem fresh_filter {p : α → Bool} {seen seen' : List κ} {as : List α}
    (hp : ∀ a ∈ as, ∀ b ∈ as, keyOf a = keyOf b → p a = p b)
    (hseen : ∀ a ∈ as, p a = true → (keyOf a ∈ seen ↔ keyOf a ∈ seen')) :
    (fresh keyOf seen as).filter p = fresh keyOf seen' (as.filter p) := by
  induction as generalizing seen seen' with
  | nil => rfl
  | cons a as ih =>
    have hp' : ∀ b ∈ as, ∀ c ∈ as, keyOf b = keyOf c → p b = p c := fun b hb c hc =>
      hp b (List.mem_cons_of_mem _ hb) c (List.mem_cons_of_mem _ hc)
    have hrest : ∀ b ∈ as, p b = true → (keyOf b ∈ seen ↔ keyOf b ∈ seen') := fun b hb =>
      hseen b (List.mem_cons_of_mem _ hb)
    cases hpa : p a with
    | false =>
      rw [List.filter_cons_of_neg (by simp [hpa])]
      by_cases ha : keyOf a ∈ seen
      · rw [fresh_cons_of_mem ha, ih hp' hrest]
      · rw [fresh_cons_of_notMem ha, List.filter_cons_of_neg (by simp [hpa])]
        refine ih hp' fun b hb hpb => ?_
        -- a member with the key of `a` would lack the property as `a` does
        have hne : keyOf b ≠ keyOf a := fun hkey => by
          have hsame := hp b (List.mem_cons_of_mem _ hb) a List.mem_cons_self hkey
          rw [hpa, hpb] at hsame
          cases hsame
        rw [List.mem_cons, or_iff_right hne]
        exact hrest b hb hpb
    | true =>
      rw [List.filter_cons_of_pos (by simp [hpa])]
      have hsame := hseen a List.mem_cons_self hpa
      by_cases ha : keyOf a ∈ seen
      · rw [fresh_cons_of_mem ha, fresh_cons_of_mem (hsame.mp ha), ih hp' hrest]
      · rw [fresh_cons_of_notMem ha, fresh_cons_of_notMem (mt hsame.mpr ha),
          List.filter_cons_of_pos (by simp [hpa])]
        refine congrArg (a :: ·) (ih hp' fun b hb hpb => ?_)
        rw [List.mem_cons, List.mem_cons, hrest b hb hpb]

/-- Where no key comes twice or was met before, everything is kept. -/
theorem fresh_eq_self {seen : List κ} {as : List α} (h : (seen ++ as.map keyOf).Nodup) :
    fresh keyOf seen as = as := by
  induction as generalizing seen with
  | nil => rfl
  | cons a as ih =>
    have hperm : (seen ++ (a :: as).map keyOf).Perm ((keyOf a :: seen) ++ as.map keyOf) :=
      List.perm_middle
    have hnodup := hperm.nodup_iff.mp h
    have ha : keyOf a ∉ seen := fun hmem =>
      (List.nodup_cons.mp hnodup).1 (List.mem_append_left _ hmem)
    rw [fresh_cons_of_notMem ha, ih hnodup]

/-- As many members are kept as there are keys. -/
theorem length_fresh_nil (as : List α) :
    (fresh keyOf [] as).length = (as.map keyOf).dedup.length := by
  have hsame : ((fresh keyOf [] as).map keyOf).Perm (as.map keyOf).dedup := by
    refine (List.perm_ext_iff_of_nodup (nodup_map_fresh [] as) (List.nodup_dedup _)).mpr fun k => ?_
    rw [List.mem_dedup, mem_map_fresh]
    exact and_iff_right List.not_mem_nil
  rw [← hsame.length_eq, List.length_map]

/-- Where keys tell the members of a list apart, which members are kept does not depend on the
order. -/
theorem fresh_perm {as bs : List α} (h : as.Perm bs)
    (hinj : ∀ a ∈ as, ∀ b ∈ as, keyOf a = keyOf b → a = b) (seen : List κ) :
    (fresh keyOf seen as).Perm (fresh keyOf seen bs) := by
  have hnodup : ∀ cs : List α, (fresh keyOf seen cs).Nodup :=
    fun cs => (nodup_map_fresh seen cs).of_map
  have hkept : ∀ cs : List α, (∀ c ∈ cs, c ∈ as) → ∀ a, a ∈ fresh keyOf seen cs ↔
      keyOf a ∉ seen ∧ a ∈ cs := by
    intro cs hcs a
    constructor
    · exact fun ha => ⟨keyOf_notMem_of_mem_fresh ha, (fresh_sublist seen cs).subset ha⟩
    · rintro ⟨hnew, ha⟩
      obtain ⟨c, hc, hkey⟩ := List.mem_map.mp (mem_map_fresh.mpr ⟨hnew, List.mem_map_of_mem ha⟩)
      have hmem := hcs c ((fresh_sublist seen cs).subset hc)
      exact hinj c hmem a (hcs a ha) hkey ▸ hc
  refine (List.perm_ext_iff_of_nodup (hnodup as) (hnodup bs)).mpr fun a => ?_
  rw [hkept as fun _ hc => hc, hkept bs fun _ hc => h.mem_iff.mpr hc, h.mem_iff]

/-- Members left out beforehand because an earlier one was the same are not missed. -/
theorem fresh_fresh {μ : Type} [DecidableEq μ] {other : α → μ}
    (hfiner : ∀ a b, other a = other b → keyOf a = keyOf b) {seen : List κ} {met : List μ}
    {as : List α} (hmet : ∀ a ∈ as, other a ∈ met → keyOf a ∈ seen) :
    fresh keyOf seen (fresh other met as) = fresh keyOf seen as := by
  induction as generalizing seen met with
  | nil => rfl
  | cons a as ih =>
    have hrest : ∀ b ∈ as, other b ∈ met → keyOf b ∈ seen := fun b hb =>
      hmet b (List.mem_cons_of_mem _ hb)
    by_cases ha : other a ∈ met
    · -- what the finer key has met, the coarser one has too
      rw [fresh_cons_of_mem ha, fresh_cons_of_mem (hmet a List.mem_cons_self ha), ih hrest]
    · rw [fresh_cons_of_notMem ha]
      by_cases hk : keyOf a ∈ seen
      · rw [fresh_cons_of_mem hk, fresh_cons_of_mem hk]
        -- the element is dropped by both, but only the inner loop remembers it
        refine ih fun b hb hbm => ?_
        rcases List.mem_cons.mp hbm with heq | hbm
        · exact hfiner b a heq ▸ hk
        · exact hrest b hb hbm
      · rw [fresh_cons_of_notMem hk, fresh_cons_of_notMem hk]
        refine congrArg (a :: ·) (ih fun b hb hbm => ?_)
        rcases List.mem_cons.mp hbm with heq | hbm
        · exact hfiner b a heq ▸ List.mem_cons_self
        · exact List.mem_cons_of_mem _ (hrest b hb hbm)

end UsageLedger
