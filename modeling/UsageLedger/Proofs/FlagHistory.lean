import Mathlib.Data.List.Induction
import Mathlib.Logic.Relation
import UsageLedger.Flag

/-!
# What raises a flag

Whether a flag is raised can be told from the steps alone, without the classes and guards that
are kept: some step named a flag that it is linked to by clones, or dropped a guard of such a
flag which was still armed.  So a flag that was raised stays so, a step reaches no flag beyond
the clones of the one that it names, and a guard counts once at most.

Flags and guards are told apart by the numbers that they got when they were made.  Everything is
said of all steps taken so far, and so of each moment of a run.

## Main definitions

* `Flags.flagCount`, `Flags.guardCount` — how many flags and guards steps have made.
* `Flags.Linked` — two flags are linked by clones.
* `Flags.Armed` — a guard of a flag was neither dropped nor disarmed.
* `Flags.Raises`, `Flags.WasRaised` — a step raises a flag, and some step so far did.

## Main results

* `Flags.Tracks.step` — **what is kept of the steps taken is kept by every further one.**
* `Flags.states_of_history` — **which flags are raised after any steps.**
-/

namespace UsageLedger.Flags

/-! ### Steps that were taken -/

/-- How many flags and guards there are after one more step. -/
def tally : Nat × Nat → Step → Nat × Nat
  | (flags, guards), .new => (flags + 1, guards)
  | (flags, guards), .clone i => (if i < flags then flags + 1 else flags, guards)
  | (flags, guards), .guard i => (flags, if i < flags then guards + 1 else guards)
  | made, _ => made

/-- How many flags there are after steps; the first one was there before them. -/
def flagCount (steps : List Step) : Nat :=
  (steps.foldl tally (1, 0)).1

/-- How many guards there are after steps. -/
def guardCount (steps : List Step) : Nat :=
  (steps.foldl tally (1, 0)).2

/-- Flag `j` was made as a clone of flag `i`. -/
def ClonedFrom (steps : List Step) (i j : Nat) : Prop :=
  ∃ before after, steps = before ++ .clone i :: after ∧ i < flagCount before ∧ j = flagCount before

/-- Two flags are linked by clones, in whatever direction and order. -/
def Linked (steps : List Step) : Nat → Nat → Prop :=
  Relation.EqvGen (ClonedFrom steps)

/-- Guard `g` was made for flag `i` and was neither dropped nor disarmed since. -/
def Armed (steps : List Step) (g i : Nat) : Prop :=
  ∃ before after, steps = before ++ .guard i :: after ∧ i < flagCount before ∧
    g = guardCount before ∧ .drop g ∉ after ∧ .disarm g ∉ after

/-- A step raises a flag, whose clones are then raised with it. -/
inductive Raises (before : List Step) : Step → Nat → Prop where
  /-- It names the flag, which was made before. -/
  | cancel {i : Nat} (made : i < flagCount before) : Raises before (.cancel i) i
  /-- It drops a guard of the flag. -/
  | drop {g i : Nat} (armed : Armed before g i) : Raises before (.drop g) i

/-- Some step so far raised a flag. -/
def WasRaised (steps : List Step) (i : Nat) : Prop :=
  ∃ s before after, steps = before ++ s :: after ∧ Raises before s i

variable {steps : List Step} {s : Step} {f : Flags}

/-- A step so far was one of the earlier ones, or it is the last. -/
theorem exists_split_concat {t : Step} {p : List Step → List Step → Prop} :
    (∃ before after, steps ++ [s] = before ++ t :: after ∧ p before after) ↔
      (∃ before after, steps = before ++ t :: after ∧ p before (after ++ [s])) ∨ s = t ∧
      p steps [] := by
  constructor
  · rintro ⟨before, after, heq, hp⟩
    rcases List.eq_nil_or_concat after with rfl | ⟨rest, u, rfl⟩
    · obtain ⟨rfl, hst⟩ := List.append_inj' heq rfl
      exact .inr ⟨by simpa using hst, hp⟩
    · rw [List.concat_eq_append, ← List.cons_append, ← List.append_assoc] at heq
      obtain ⟨hsteps, hsu⟩ := List.append_inj' heq rfl
      obtain rfl : s = u := by simpa using hsu
      exact .inl ⟨before, rest, hsteps, by simpa using hp⟩
  · rintro (⟨before, after, rfl, hp⟩ | ⟨rfl, hp⟩)
    · exact ⟨before, after ++ [s], by simp, hp⟩
    · exact ⟨steps, [], rfl, hp⟩

theorem clonedFrom_concat {i j : Nat} :
    ClonedFrom (steps ++ [s]) i j ↔
      ClonedFrom steps i j ∨ s = .clone i ∧ i < flagCount steps ∧ j = flagCount steps :=
  exists_split_concat

theorem armed_concat {g i : Nat} :
    Armed (steps ++ [s]) g i ↔ Armed steps g i ∧ s ≠ .drop g ∧ s ≠ .disarm g ∨
      s = .guard i ∧ i < flagCount steps ∧ g = guardCount steps := by
  rw [Armed, exists_split_concat]
  refine or_congr ⟨?_, ?_⟩ (by simp)
  · rintro ⟨before, after, hsteps, hi, hg, hdrop, hdisarm⟩
    simp only [List.mem_append, List.mem_singleton, not_or] at hdrop hdisarm
    exact ⟨⟨before, after, hsteps, hi, hg, hdrop.1, hdisarm.1⟩, Ne.symm hdrop.2, Ne.symm hdisarm.2⟩
  · rintro ⟨⟨before, after, hsteps, hi, hg, hdrop, hdisarm⟩, hsdrop, hsdisarm⟩
    refine ⟨before, after, hsteps, hi, hg, ?_, ?_⟩
    · simp [hdrop, Ne.symm hsdrop]
    · simp [hdisarm, Ne.symm hsdisarm]

theorem wasRaised_concat {i : Nat} :
    WasRaised (steps ++ [s]) i ↔ WasRaised steps i ∨ Raises steps s i := by
  simp only [WasRaised, exists_split_concat, exists_or, exists_eq_left']

/-! ### Numbers -/

theorem foldl_concat : (steps ++ [s]).foldl tally (1, 0) = tally (steps.foldl tally (1, 0)) s := by
  rw [List.foldl_append]
  rfl

theorem flagCount_concat (steps : List Step) (s : Step) :
    flagCount (steps ++ [s]) = match s with
      | .new => flagCount steps + 1
      | .clone i => if i < flagCount steps then flagCount steps + 1 else flagCount steps
      | _ => flagCount steps := by
  rw [flagCount, foldl_concat]
  cases s <;> rfl

theorem guardCount_concat (steps : List Step) (s : Step) :
    guardCount (steps ++ [s]) = match s with
      | .guard i => if i < flagCount steps then guardCount steps + 1 else guardCount steps
      | _ => guardCount steps := by
  rw [guardCount, foldl_concat]
  cases s <;> rfl

theorem flagCount_le_concat (steps : List Step) (s : Step) :
    flagCount steps ≤ flagCount (steps ++ [s]) := by
  rw [flagCount_concat]
  split
  · omega
  · split <;> omega
  · omega

theorem flagCount_le_append (steps more : List Step) :
    flagCount steps ≤ flagCount (steps ++ more) := by
  induction more using List.reverseRecOn with
  | nil => simp
  | append_singleton more s ih =>
    rw [← List.append_assoc]
    exact Nat.le_trans ih (flagCount_le_concat _ _)

/-- A flag that is cloned was made before its clone, and both are there. -/
theorem ClonedFrom.lt {i j : Nat} (h : ClonedFrom steps i j) :
    i < flagCount steps ∧ j < flagCount steps := by
  obtain ⟨before, after, rfl, hi, rfl⟩ := h
  have hclone : flagCount (before ++ [.clone i]) = flagCount before + 1 := by
    rw [flagCount_concat]
    exact if_pos hi
  have hle := flagCount_le_append (before ++ [.clone i]) after
  rw [List.append_assoc, List.singleton_append] at hle
  omega

theorem Armed.lt {g i : Nat} (h : Armed steps g i) : i < flagCount steps := by
  obtain ⟨before, after, rfl, hi, -⟩ := h
  exact Nat.lt_of_lt_of_le hi (flagCount_le_append _ _)

theorem Raises.lt {i : Nat} (h : Raises steps s i) : i < flagCount steps := by
  cases h with
  | cancel made => exact made
  | drop armed => exact armed.lt

theorem WasRaised.lt {i : Nat} (h : WasRaised steps i) : i < flagCount steps := by
  obtain ⟨s, before, after, rfl, hraises⟩ := h
  exact Nat.lt_of_lt_of_le hraises.lt (flagCount_le_append _ _)

/-- What is the same for a flag and each of its clones is the same for all that are linked. -/
theorem Linked.eq_of {α : Type} {i j : Nat} (h : Linked steps i j) (v : Nat → α)
    (hv : ∀ a b, ClonedFrom steps a b → v a = v b) : v i = v j := by
  have hequal : Equivalence fun a b => v a = v b := ⟨fun _ => rfl, Eq.symm, Eq.trans⟩
  exact hequal.eqvGen_iff.mp (Relation.EqvGen.mono hv _ _ h)

theorem Linked.lt_iff {i j : Nat} (h : Linked steps i j) :
    i < flagCount steps ↔ j < flagCount steps :=
  iff_of_eq <| h.eq_of (· < flagCount steps) fun _ _ hab => propext (iff_of_true hab.lt.1 hab.lt.2)

theorem Linked.append {i j : Nat} (h : Linked steps i j) (more : List Step) :
    Linked (steps ++ more) i j := by
  refine Relation.EqvGen.mono ?_ _ _ h
  rintro a b ⟨before, after, rfl, ha, hb⟩
  exact ⟨before, after ++ more, by simp, ha, hb⟩

theorem WasRaised.append {i : Nat} (h : WasRaised steps i) (more : List Step) :
    WasRaised (steps ++ more) i := by
  obtain ⟨s, before, after, rfl, hraises⟩ := h
  exact ⟨s, before, after ++ more, by simp, hraises⟩

/-! ### What a step does to what is kept -/

/-- What is at a place of a list that may have grown by one. -/
theorem getElem?_append_toList {α : Type} (l : List α) (o : Option α) (i : Nat) (a : α) :
    (l ++ o.toList)[i]? = some a ↔ l[i]? = some a ∨ i = l.length ∧ o = some a := by
  rcases Nat.lt_trichotomy i l.length with hi | rfl | hi
  · simp [List.getElem?_append_left hi, Nat.ne_of_lt hi]
  · cases o <;> simp
  · have hpast : (l ++ o.toList).length ≤ i := by cases o <;> simp <;> omega
    simp [List.getElem?_eq_none hpast, List.getElem?_eq_none (Nat.le_of_lt hi), Nat.ne_of_gt hi]

/-- The class of the flag that a step makes. -/
def made? (f : Flags) : Step → Option Nat
  | .new => some f.raised.length
  | .clone i => f.classes[i]?
  | _ => none

/-- The class that a step raises. -/
def struck? (f : Flags) : Step → Option Nat
  | .cancel i => f.classes[i]?
  | .drop g => f.guards[g]?.join
  | _ => none

/-- What a step does: a flag that it makes comes last, the class that it strikes is raised, and
a guard that it names is gone. -/
theorem step_eq (f : Flags) (s : Step) :
    f.step s =
      { classes := f.classes ++ (f.made? s).toList
        raised := (match f.struck? s with
          | some k => f.raised.set k true
          | none => f.raised) ++ (if s = .new then some false else none).toList
        guards := match s with
          | .guard i => f.guards ++ (f.classes[i]?.map some).toList
          | .drop g => f.guards.set g none
          | .disarm g => f.guards.set g none
          | _ => f.guards } := by
  cases s with
  | new => rfl
  | clone i => cases hi : f.classes[i]? <;> simp [step, made?, struck?, hi]
  | cancel i => cases hi : f.classes[i]? <;> simp [step, made?, struck?, hi, raise]
  | guard i => cases hi : f.classes[i]? <;> simp [step, made?, struck?, hi]
  | drop g =>
    rcases hg : f.guards[g]? with _ | _ | k
    · -- there is no such guard, so there is nothing to take away
      have hset : f.guards.set g none = f.guards :=
        List.set_eq_of_length_le (List.getElem?_eq_none_iff.mp hg)
      simp [step, made?, struck?, hg, hset]
    · -- the guard is gone already
      obtain ⟨hlt, hgone⟩ := List.getElem?_eq_some_iff.mp hg
      have hset : f.guards.set g none = f.guards := by
        rw [← hgone]
        exact List.set_getElem_self hlt
      simp [step, made?, struck?, hg, hset]
    · simp [step, made?, struck?, hg, raise]
  | disarm g => simp [step, made?, struck?]

theorem raised_step_length (f : Flags) (s : Step) :
    (f.step s).raised.length = f.raised.length + if s = .new then 1 else 0 := by
  rw [step_eq, List.length_append]
  congr 1
  · cases f.struck? s with
    | none => rfl
    | some k => exact List.length_set
  · split <;> rfl

/-- A class is raised after a step if it was before, or if the step raises it. -/
theorem raised_step_iff (f : Flags) (s : Step) (k : Nat) :
    (f.step s).raised[k]? = some true ↔
      f.raised[k]? = some true ∨ f.struck? s = some k ∧ k < f.raised.length := by
  rw [step_eq]
  -- a class that is made is not raised
  have hmade : (if s = .new then some false else none) ≠ some true := by split <;> simp
  rw [getElem?_append_toList, or_iff_left fun h => hmade h.2]
  cases f.struck? s with
  | none => simp
  | some j =>
    dsimp only
    rw [List.getElem?_set]
    by_cases hjk : j = k
    · subst hjk
      by_cases hj : j < f.raised.length
      · simp [hj]
      · simp [hj]
    · simp [hjk]

/-- A guard is kept after a step if it was before and the step does not name it, or if the step
makes it. -/
theorem guards_step_iff (f : Flags) (s : Step) (g k : Nat) :
    (f.step s).guards[g]? = some (some k) ↔
      f.guards[g]? = some (some k) ∧ s ≠ .drop g ∧ s ≠ .disarm g ∨
        ∃ i, s = .guard i ∧ f.classes[i]? = some k ∧ g = f.guards.length := by
  rw [step_eq]
  have hset : ∀ g' : Nat, (f.guards.set g' none)[g]? = some (some k) ↔
      f.guards[g]? = some (some k) ∧ g' ≠ g := by
    intro g'
    by_cases hg : g' = g
    · subst hg
      simp [List.getElem?_set]
    · simp [hg]
  cases s with
  | guard i =>
    dsimp only
    rw [getElem?_append_toList]
    simp [and_comm]
  | drop g' => simpa using hset g'
  | disarm g' => simpa using hset g'
  | _ => simp

theorem isRaised_eq_true_iff (f : Flags) (i : Nat) :
    f.isRaised i = true ↔ ∃ k, f.classes[i]? = some k ∧ f.raised[k]? = some true := by
  rw [isRaised]
  cases f.classes[i]? with
  | none => simp
  | some k => cases hk : f.raised[k]? <;> simp [List.getD_eq_getElem?_getD, hk]

theorem run_concat (f : Flags) (steps : List Step) (s : Step) :
    f.run (steps ++ [s]) = (f.run steps).step s := by
  rw [run, List.foldl_append]
  rfl

/-- The states are those of the flags that have a class. -/
theorem states_eq (f : Flags) : f.states = (List.range f.classes.length).map f.isRaised := by
  refine List.ext_getElem (by simp [states]) fun i hi _ => ?_
  have hclass : i < f.classes.length := by simpa [states] using hi
  simp [states, isRaised, List.getElem?_eq_getElem hclass]

/-! ### What is kept of the steps -/

/-- What is kept of the steps that were taken. -/
structure Tracks (steps : List Step) (f : Flags) : Prop where
  /-- Each flag that was made has a class. -/
  flags : f.classes.length = flagCount steps
  /-- Each guard that was made is kept. -/
  guards : f.guards.length = guardCount steps
  /-- Of each class it is kept whether it is raised. -/
  classes : ∀ i k : Nat, f.classes[i]? = some k → k < f.raised.length
  /-- The flags in the class of a flag are those that are linked to it. -/
  linked : ∀ i j k : Nat, f.classes[i]? = some k → (f.classes[j]? = some k ↔ Linked steps i j)
  /-- A guard that is armed is kept with the class of its flag. -/
  armed : ∀ g k : Nat, f.guards[g]? = some (some k) ↔ ∃ i, Armed steps g i ∧ f.classes[i]? = some k
  /-- A class is raised if one of its flags was. -/
  raised : ∀ k : Nat, f.raised[k]? = some true ↔ ∃ i, WasRaised steps i ∧ f.classes[i]? = some k

namespace Tracks

theorem initial : Tracks [] initial where
  flags := rfl
  guards := rfl
  classes := by simp [Flags.initial, List.getElem?_singleton]
  linked := by
    intro i j k hi
    -- there is one flag, in the one class
    have hfirst : ∀ n : Nat, Flags.initial.classes[n]? = some k ↔ n = 0 ∧ 0 = k := by
      intro n
      simp [Flags.initial, List.getElem?_singleton]
    obtain ⟨rfl, rfl⟩ := (hfirst i).mp hi
    rw [hfirst]
    constructor
    · rintro ⟨rfl, -⟩
      exact Relation.EqvGen.refl _
    · intro hlinked
      exact ⟨Nat.lt_one_iff.mp (hlinked.lt_iff.mp Nat.one_pos), rfl⟩
  armed := by simp [Flags.initial, Armed]
  raised := by simp [Flags.initial, WasRaised, List.getElem?_singleton]

theorem exists_class (h : Tracks steps f) {i : Nat} (hi : i < flagCount steps) :
    ∃ k, f.classes[i]? = some k :=
  ⟨_, List.getElem?_eq_getElem (h.flags ▸ hi)⟩

theorem lt_of_class (h : Tracks steps f) {i k : Nat} (hi : f.classes[i]? = some k) :
    i < flagCount steps :=
  h.flags ▸ (List.getElem?_eq_some_iff.mp hi).1

theorem classes_step_iff (h : Tracks steps f) (s : Step) (i k : Nat) :
    (f.step s).classes[i]? = some k ↔
      f.classes[i]? = some k ∨ i = flagCount steps ∧ f.made? s = some k := by
  rw [step_eq, getElem?_append_toList, h.flags]

theorem classes_step_of_lt (h : Tracks steps f) (s : Step) {i : Nat} (hi : i < flagCount steps)
    (k : Nat) :
    (f.step s).classes[i]? = some k ↔ f.classes[i]? = some k := by
  rw [h.classes_step_iff, or_iff_left]
  rintro ⟨rfl, -⟩
  exact Nat.lt_irrefl _ hi

theorem flags_step (h : Tracks steps f) (s : Step) :
    (f.step s).classes.length = flagCount (steps ++ [s]) := by
  rw [step_eq, List.length_append, h.flags, flagCount_concat]
  cases s with
  | clone i =>
    by_cases hi : i < flagCount steps
    · obtain ⟨k, hk⟩ := h.exists_class hi
      simp [made?, hk, hi]
    · simp [made?, List.getElem?_eq_none (h.flags ▸ Nat.not_lt.mp hi), hi]
  | _ => rfl

theorem guards_step (h : Tracks steps f) (s : Step) :
    (f.step s).guards.length = guardCount (steps ++ [s]) := by
  rw [step_eq, guardCount_concat, ← h.guards]
  cases s with
  | guard i =>
    by_cases hi : i < flagCount steps
    · obtain ⟨k, hk⟩ := h.exists_class hi
      simp [hk, hi]
    · simp [List.getElem?_eq_none (h.flags ▸ Nat.not_lt.mp hi), hi]
  | drop g => exact List.length_set
  | disarm g => exact List.length_set
  | _ => rfl

theorem classes_step (h : Tracks steps f) (s : Step) (i k : Nat)
    (hi : (f.step s).classes[i]? = some k) :
    k < (f.step s).raised.length := by
  rw [raised_step_length]
  rcases (h.classes_step_iff s i k).mp hi with hold | ⟨-, hmade⟩
  · exact Nat.lt_add_right _ (h.classes i k hold)
  · -- the class of a flag that is made is a new one, or that of the flag that is cloned
    cases s with
    | new =>
      obtain rfl : f.raised.length = k := by simpa [made?] using hmade
      simp
    | clone a => exact Nat.lt_add_right _ (h.classes a k hmade)
    | _ => cases hmade

theorem linked_made (h : Tracks steps f) {s : Step} {i k : Nat} (hmade : f.made? s = some k)
    (hi : f.classes[i]? = some k) : Linked (steps ++ [s]) (flagCount steps) i := by
  cases s with
  | new =>
    obtain rfl : f.raised.length = k := by simpa [made?] using hmade
    exact absurd (h.classes i _ hi) (Nat.lt_irrefl _)
  | clone a =>
    have hclone : ClonedFrom (steps ++ [.clone a]) a (flagCount steps) :=
      clonedFrom_concat.mpr (.inr ⟨rfl, h.lt_of_class hmade, rfl⟩)
    have hlinked : Linked steps a i := (h.linked a i k hmade).mp hi
    exact .trans _ _ _ (.symm _ _ (.rel _ _ hclone)) (hlinked.append _)
  | _ => cases hmade

/-- A clone is in the class of the flag that it was made from. -/
theorem clonedFrom_step (h : Tracks steps f) {s : Step} {a b : Nat}
    (hab : ClonedFrom (steps ++ [s]) a b) :
    (f.step s).classes[a]? = (f.step s).classes[b]? := by
  refine Option.ext fun k => ?_
  rcases clonedFrom_concat.mp hab with hold | ⟨rfl, ha, rfl⟩
  · rw [h.classes_step_of_lt s hold.lt.1, h.classes_step_of_lt s hold.lt.2]
    have hlinked : Linked steps a b := .rel _ _ hold
    exact ⟨fun hk => (h.linked a b k hk).mpr hlinked,
      fun hk => (h.linked b a k hk).mpr (.symm _ _ hlinked)⟩
  · rw [h.classes_step_of_lt _ ha, h.classes_step_iff]
    constructor
    · intro hk
      exact .inr ⟨rfl, hk⟩
    · rintro (hk | ⟨-, hk⟩)
      · exact absurd (h.lt_of_class hk) (Nat.lt_irrefl _)
      · exact hk

theorem linked_step (h : Tracks steps f) (s : Step) (i j k : Nat)
    (hi : (f.step s).classes[i]? = some k) :
    (f.step s).classes[j]? = some k ↔ Linked (steps ++ [s]) i j := by
  constructor
  · intro hj
    rw [h.classes_step_iff] at hi hj
    rcases hi with hi | ⟨rfl, hmade⟩ <;> rcases hj with hj | ⟨rfl, hmade'⟩
    · exact ((h.linked i j k hi).mp hj).append _
    · exact .symm _ _ (h.linked_made hmade' hi)
    · exact h.linked_made hmade hj
    · exact .refl _
  · intro hlinked
    rw [← hi]
    exact (hlinked.eq_of (fun n => (f.step s).classes[n]?) fun _ _ => h.clonedFrom_step).symm

/-- Of flags that were there it does not matter whether their class is asked for before a step
or after it. -/
theorem exists_step_iff (h : Tracks steps f) (s : Step) {p : Nat → Prop}
    (hp : ∀ i, p i → i < flagCount steps) (k : Nat) :
    (∃ i, p i ∧ (f.step s).classes[i]? = some k) ↔ ∃ i, p i ∧ f.classes[i]? = some k :=
  exists_congr fun i => and_congr_right fun hi => h.classes_step_of_lt s (hp i hi) k

theorem armed_step (h : Tracks steps f) (s : Step) (g k : Nat) :
    (f.step s).guards[g]? = some (some k) ↔
      ∃ i, Armed (steps ++ [s]) g i ∧ (f.step s).classes[i]? = some k := by
  -- the flag of an armed guard stood before the step, as no step arms a guard of its own flag
  have hthere : ∀ i, Armed (steps ++ [s]) g i → i < flagCount steps := by
    intro i harmed
    rcases armed_concat.mp harmed with ⟨hold, -⟩ | ⟨-, hi, -⟩
    · exact hold.lt
    · exact hi
  rw [h.exists_step_iff s hthere, guards_step_iff, h.armed, h.guards]
  constructor
  · rintro (⟨⟨i, harmed, hk⟩, hdrop, hdisarm⟩ | ⟨i, rfl, hk, rfl⟩)
    · -- a guard of before that the step did not spend
      exact ⟨i, armed_concat.mpr (.inl ⟨harmed, hdrop, hdisarm⟩), hk⟩
    · -- the guard that the step made
      exact ⟨i, armed_concat.mpr (.inr ⟨rfl, h.lt_of_class hk, rfl⟩), hk⟩
  · rintro ⟨i, harmed, hk⟩
    rcases armed_concat.mp harmed with ⟨hold, hdrop, hdisarm⟩ | ⟨rfl, -, rfl⟩
    · exact .inl ⟨⟨i, hold, hk⟩, hdrop, hdisarm⟩
    · exact .inr ⟨i, rfl, hk, rfl⟩

/-- A step raises the class of the flag that it raises. -/
theorem struck_iff (h : Tracks steps f) (s : Step) (k : Nat) :
    f.struck? s = some k ↔ ∃ i, Raises steps s i ∧ f.classes[i]? = some k := by
  constructor
  · intro hstruck
    cases s with
    | cancel i => exact ⟨i, .cancel (h.lt_of_class hstruck), hstruck⟩
    | drop g =>
      obtain ⟨i, harmed, hk⟩ := (h.armed g k).mp (Option.join_eq_some_iff.mp hstruck)
      exact ⟨i, .drop harmed, hk⟩
    | _ => cases hstruck
  · rintro ⟨i, hraises, hk⟩
    cases hraises with
    | cancel _ => exact hk
    | drop harmed => exact Option.join_eq_some_iff.mpr ((h.armed _ k).mpr ⟨i, harmed, hk⟩)

theorem raised_step (h : Tracks steps f) (s : Step) (k : Nat) :
    (f.step s).raised[k]? = some true ↔
      ∃ i, WasRaised (steps ++ [s]) i ∧ (f.step s).classes[i]? = some k := by
  -- nothing can raise a flag that the step has yet to make
  have hthere : ∀ i, WasRaised (steps ++ [s]) i → i < flagCount steps := by
    intro i hraised
    rcases wasRaised_concat.mp hraised with hold | hnow
    · exact hold.lt
    · exact hnow.lt
  rw [h.exists_step_iff s hthere, raised_step_iff, h.raised, h.struck_iff]
  constructor
  · rintro (⟨i, hold, hk⟩ | ⟨⟨i, hnow, hk⟩, -⟩)
    · exact ⟨i, wasRaised_concat.mpr (.inl hold), hk⟩
    · exact ⟨i, wasRaised_concat.mpr (.inr hnow), hk⟩
  · rintro ⟨i, hraised, hk⟩
    rcases wasRaised_concat.mp hraised with hold | hnow
    · exact .inl ⟨i, hold, hk⟩
    · exact .inr ⟨⟨i, hnow, hk⟩, h.classes i k hk⟩

/-- **What is kept of the steps taken is kept by every further one.** -/
theorem step (h : Tracks steps f) (s : Step) : Tracks (steps ++ [s]) (f.step s) where
  flags := h.flags_step s
  guards := h.guards_step s
  classes := h.classes_step s
  linked := h.linked_step s
  armed := h.armed_step s
  raised := h.raised_step s

theorem run (steps : List Step) : Tracks steps (Flags.initial.run steps) := by
  induction steps using List.reverseRecOn with
  | nil => exact initial
  | append_singleton steps s ih =>
    rw [run_concat]
    exact ih.step s

theorem isRaised_iff (h : Tracks steps f) (i : Nat) :
    f.isRaised i = true ↔ ∃ j, WasRaised steps j ∧ Linked steps i j := by
  rw [isRaised_eq_true_iff]
  constructor
  · rintro ⟨k, hi, hk⟩
    obtain ⟨j, hraised, hj⟩ := (h.raised k).mp hk
    exact ⟨j, hraised, (h.linked i j k hi).mp hj⟩
  · rintro ⟨j, hraised, hlinked⟩
    obtain ⟨k, hj⟩ := h.exists_class hraised.lt
    exact ⟨k, (h.linked j i k hj).mpr (.symm _ _ hlinked), (h.raised k).mpr ⟨j, hraised, hj⟩⟩

theorem isRaised_step (h : Tracks steps f) {s : Step} {i : Nat} (hi : i < flagCount steps)
    (hs : ∀ j, Raises steps s j → ¬Linked steps i j) : (f.step s).isRaised i = f.isRaised i := by
  rw [Bool.eq_iff_iff, isRaised_eq_true_iff, isRaised_eq_true_iff]
  refine exists_congr fun k => ?_
  rw [h.classes_step_of_lt s hi]
  refine and_congr_right fun hk => ?_
  rw [raised_step_iff, or_iff_left]
  rintro ⟨hstruck, -⟩
  obtain ⟨j, hraises, hj⟩ := (h.struck_iff s k).mp hstruck
  exact hs j hraises ((h.linked i j k hk).mp hj)

/-- To drop a guard that is gone does nothing. -/
theorem step_drop (h : Tracks steps f) {g : Nat} (hg : ∀ i, ¬Armed steps g i) :
    f.step (.drop g) = f := by
  rw [Flags.step]
  split
  · next k hk =>
    obtain ⟨i, harmed, -⟩ := (h.armed g k).mp hk
    exact absurd harmed (hg i)
  · rfl

end Tracks

/-! ### Which flags are raised -/

/-- **Which flags are raised after any steps.**  There is a state for each flag that was made.
A flag is raised just if some step so far raised one that it is linked to, by naming it or by
dropping an armed guard of it.  Hence it stays raised whatever follows; a step leaves a flag as
it was that is not linked to the one which it raises; and no flag changes when a guard is
disarmed, nor when one is dropped that is gone. -/
theorem states_of_history (steps : List Step) :
    (initial.run steps).states = (List.range (flagCount steps)).map (initial.run steps).isRaised ∧
    (∀ i, (initial.run steps).isRaised i = true ↔ ∃ j, WasRaised steps j ∧ Linked steps i j) ∧
    (∀ more i, (initial.run steps).isRaised i = true →
      (initial.run (steps ++ more)).isRaised i = true) ∧
    (∀ s i, i < flagCount steps → (∀ j, Raises steps s j → ¬Linked steps i j) →
      (initial.run (steps ++ [s])).isRaised i = (initial.run steps).isRaised i) ∧
    (∀ g, (initial.run (steps ++ [.disarm g])).states = (initial.run steps).states) ∧
    ∀ g, (∀ i, ¬Armed steps g i) →
      (initial.run (steps ++ [.drop g])).states = (initial.run steps).states := by
  have htracks := Tracks.run steps
  refine ⟨?_, htracks.isRaised_iff, ?_, ?_, ?_, ?_⟩
  · rw [states_eq, htracks.flags]
  · -- the raise and the links stay in the longer history
    intro more i hi
    obtain ⟨j, hraised, hlinked⟩ := (htracks.isRaised_iff i).mp hi
    exact ((Tracks.run (steps ++ more)).isRaised_iff i).mpr
      ⟨j, hraised.append more, hlinked.append more⟩
  · intro s i hi hs
    rw [run_concat, htracks.isRaised_step hi hs]
  · intro g
    rw [run_concat]
    rfl
  · intro g hg
    rw [run_concat, htracks.step_drop hg]

/-- A guard is dropped after its flag was cloned and another one was made: the clone stays
raised, the other flag can be told apart from both, and the guard counts no more. -/
theorem states_of_droppedGuard :
    (initial.run ([.guard 0, .clone 0, .new, .drop 0] ++ [.new])).isRaised 1 = true ∧
    (initial.run ([.guard 0, .clone 0, .new, .drop 0] ++ [.cancel 0])).isRaised 2 = false ∧
    (initial.run ([.guard 0, .clone 0, .new, .drop 0] ++ [.drop 0])).states =
      [true, true, false] := by
  obtain ⟨-, -, hstays, hothers, -, hdrop⟩ := states_of_history [.guard 0, .clone 0, .new, .drop 0]
  refine ⟨hstays [.new] 1 (by decide), (hothers (.cancel 0) 2 (by decide) ?_).trans (by decide),
    (hdrop 0 ?_).trans (by decide)⟩
  · intro j hraises hlinked
    cases hraises
    have hclass := (Tracks.run [.guard 0, .clone 0, .new, .drop 0]).linked 2 0 1 (by decide)
    exact absurd (hclass.mpr hlinked) (by decide)
  · intro i harmed
    have hlast : Armed ([.guard 0, .clone 0, .new] ++ [.drop 0]) 0 i := harmed
    rcases armed_concat.mp hlast with ⟨-, hgone, -⟩ | ⟨hguard, -⟩
    · exact hgone rfl
    · cases hguard

end UsageLedger.Flags
