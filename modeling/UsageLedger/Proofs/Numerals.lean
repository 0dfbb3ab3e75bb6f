import UsageLedger.Time.Printer
import UsageLedger.Time.Reader
import Mathlib.Algebra.Group.Nat.Defs
import Mathlib.Data.List.TakeWhile

/-!
# Numerals

A number written in its last places is read back from them, whatever follows, and a number
written in the fewest digits is read back where no further digit follows.

## Main results

* `ofDigits_lastDigits` — the last places of a number name its remainder.
* `lastDigits_append_lt_iff` — numbers in equally many places are ordered like their digits.
* `ofDigits_digits`, `ofDigits_padded` — the digits of a number name the number.
* `takeNumber_row` — a reader of digits takes a row of them, unless it is cut short or goes on.
* `takeNumber_lastDigits` — a reader of so many digits takes just the last places.
-/

namespace UsageLedger

namespace Text

theorem isDigit_digitChar {d : Nat} (h : d < 10) : d.digitChar.isDigit = true := by
  revert d
  decide

theorem digitValue_digitChar {d : Nat} (h : d < 10) : digitValue d.digitChar = d := by
  revert d
  decide

theorem isDigit_of_mem_lastDigits {w n : Nat} {c : Char} (h : c ∈ lastDigits w n) :
    c.isDigit = true := by
  induction w generalizing n with
  | zero => simp at h
  | succ w ih =>
    rw [lastDigits_succ, List.mem_append, List.mem_singleton] at h
    rcases h with h | rfl
    · exact ih h
    · exact isDigit_digitChar (Nat.mod_lt _ (by decide))

theorem ofDigits_append_singleton (cs : List Char) (c : Char) :
    ofDigits (cs ++ [c]) = 10 * ofDigits cs + digitValue c := by
  simp [ofDigits]

/-- The last `w` places of a number name its remainder. -/
theorem ofDigits_lastDigits (w n : Nat) : ofDigits (lastDigits w n) = n % 10 ^ w := by
  induction w generalizing n with
  | zero => simp [ofDigits, Nat.mod_one]
  | succ w ih =>
    rw [lastDigits_succ, ofDigits_append_singleton, ih,
      digitValue_digitChar (Nat.mod_lt _ (by decide)), Nat.pow_succ']
    have hsplit := Nat.mod_mul (x := n) (a := 10) (b := 10 ^ w)
    omega

theorem digitChar_lt_digitChar {d e : Nat} (hd : d < 10) (he : e < 10) :
    d.digitChar < e.digitChar ↔ d < e := by
  revert e
  revert d
  decide

theorem digitChar_inj {d e : Nat} (hd : d < 10) (he : e < 10) :
    d.digitChar = e.digitChar ↔ d = e := by
  revert e
  revert d
  decide

/-- **Numbers in equally many places are ordered like their digits**, and what follows counts
where they are equal. -/
theorem lastDigits_append_lt_iff {w a b : Nat} (ha : a < 10 ^ w) (hb : b < 10 ^ w)
    (x y : List Char) :
    lastDigits w a ++ x < lastDigits w b ++ y ↔ a < b ∨ a = b ∧ x < y := by
  induction w generalizing a b x y with
  | zero =>
    have hzero : a = 0 ∧ b = 0 := by omega
    simp [hzero]
  | succ w ih =>
    have ha' : a / 10 < 10 ^ w := Nat.div_lt_of_lt_mul (by rwa [Nat.mul_comm, ← Nat.pow_succ])
    have hb' : b / 10 < 10 ^ w := Nat.div_lt_of_lt_mul (by rwa [Nat.mul_comm, ← Nat.pow_succ])
    -- the last digit decides where the digits before it agree
    rw [lastDigits_succ, lastDigits_succ, List.append_assoc, List.append_assoc, ih ha' hb',
      List.singleton_append, List.singleton_append, List.cons_lt_cons_iff,
      digitChar_lt_digitChar (Nat.mod_lt _ (by decide)) (Nat.mod_lt _ (by decide)),
      digitChar_inj (Nat.mod_lt _ (by decide)) (Nat.mod_lt _ (by decide))]
    constructor
    · rintro (hhigh | ⟨hhigh, hlow | ⟨hlow, hrest⟩⟩)
      · exact .inl (by omega)
      · exact .inl (by omega)
      · exact .inr ⟨by omega, hrest⟩
    · rintro (hlt | ⟨rfl, hrest⟩)
      · by_cases hhigh : a / 10 < b / 10
        · exact .inl hhigh
        · exact .inr ⟨by omega, .inl (by omega)⟩
      · exact .inr ⟨rfl, .inr ⟨rfl, hrest⟩⟩

theorem digits_of_lt {n : Nat} (h : n < 10) : digits n = [n.digitChar] := by
  rw [digits, if_pos h]

theorem digits_of_le {n : Nat} (h : 10 ≤ n) :
    digits n = digits (n / 10) ++ [(n % 10).digitChar] := by
  rw [digits, if_neg (Nat.not_lt.mpr h)]

theorem digits_ne_nil (n : Nat) : digits n ≠ [] := by
  rcases Nat.lt_or_ge n 10 with h | h
  · simp [digits_of_lt h]
  · simp [digits_of_le h]

theorem isDigit_of_mem_digits {n : Nat} {c : Char} (h : c ∈ digits n) : c.isDigit = true := by
  induction n using digits.induct with
  | case1 n hn =>
    rw [digits_of_lt hn, List.mem_singleton] at h
    exact h ▸ isDigit_digitChar hn
  | case2 n hn ih =>
    rw [digits_of_le (Nat.not_lt.mp hn), List.mem_append, List.mem_singleton] at h
    rcases h with h | rfl
    · exact ih h
    · exact isDigit_digitChar (Nat.mod_lt _ (by decide))

/-- The digits of a number name the number. -/
theorem ofDigits_digits (n : Nat) : ofDigits (digits n) = n := by
  induction n using digits.induct with
  | case1 n hn =>
    rw [digits_of_lt hn]
    simpa [ofDigits] using digitValue_digitChar hn
  | case2 n hn ih =>
    rw [digits_of_le (Nat.not_lt.mp hn), ofDigits_append_singleton, ih,
      digitValue_digitChar (Nat.mod_lt _ (by decide))]
    omega

/-- No number but zero starts with the digit zero. -/
theorem head?_digits_ne {n : Nat} (h : n ≠ 0) : (digits n).head? ≠ some '0' := by
  induction n using digits.induct with
  | case1 n hn =>
    rw [digits_of_lt hn]
    revert h
    revert n
    decide
  | case2 n hn ih =>
    rw [digits_of_le (Nat.not_lt.mp hn), List.head?_append,
      Option.or_of_isSome (List.isSome_head?.mpr (digits_ne_nil _))]
    exact ih (by omega)

theorem padded_ne_nil {w : Nat} (hw : 0 < w) (n : Nat) : padded w n ≠ [] := by
  rw [padded]
  split
  · refine List.ne_nil_of_length_pos ?_
    rwa [length_lastDigits]
  · exact digits_ne_nil n

theorem isDigit_of_mem_padded {w n : Nat} {c : Char} (h : c ∈ padded w n) : c.isDigit = true := by
  rw [padded] at h
  split at h
  · exact isDigit_of_mem_lastDigits h
  · exact isDigit_of_mem_digits h

/-- The digits of a number that is padded to a width name the number. -/
theorem ofDigits_padded (w n : Nat) : ofDigits (padded w n) = n := by
  rw [padded]
  split
  · next h => exact (ofDigits_lastDigits w n).trans (Nat.mod_eq_of_lt h)
  · exact ofDigits_digits n

end Text

namespace Time

open Text

/-- **A reader of digits takes a row of them**, if it takes so many, and takes no more or finds
no more. -/
theorem takeNumber_row {least most : Nat} {ds rest : List Char} (hds : ∀ c ∈ ds, c.isDigit = true)
    (hleast : least ≤ ds.length) (hmost : ds.length ≤ most)
    (hend : ds.length = most ∨ ∀ c ∈ rest.head?, c.isDigit = false) :
    takeNumber least most (ds ++ rest) = some (ofDigits ds, rest) := by
  have htake : ((ds ++ rest).take most).takeWhile Char.isDigit = ds := by
    rw [List.take_append, List.take_of_length_le hmost, List.takeWhile_append_of_pos hds]
    rcases hend with hfull | hstop
    · simp [hfull]
    · cases rest with
      | nil => simp
      | cons c rest =>
        have hc : c.isDigit = false := hstop c rfl
        cases most - ds.length <;> simp [hc]
  rw [takeNumber, htake, if_neg (Nat.not_lt.mpr hleast), List.drop_left]

/-- A reader of `w` digits takes the last `w` places of a number and leaves what follows. -/
theorem takeNumber_lastDigits {least w : Nat} (hleast : least ≤ w) (n : Nat) (rest : List Char) :
    takeNumber least w (lastDigits w n ++ rest) = some (n % 10 ^ w, rest) := by
  have hlen : (lastDigits w n).length = w := length_lastDigits w n
  rw [takeNumber_row (fun c hc => isDigit_of_mem_lastDigits hc) (by rwa [hlen]) (Nat.le_of_eq hlen)
    (.inl hlen), ofDigits_lastDigits]

theorem takeNumber_of_not_digit {least most : Nat} (hleast : 0 < least) {c : Char}
    (hc : c.isDigit = false) (cs : List Char) : takeNumber least most (c :: cs) = none := by
  cases most with
  | zero => simp [takeNumber, hleast]
  | succ most => simp [takeNumber, hc, hleast]

@[simp] theorem expect_self (c : Char) (cs : List Char) : expect c (c :: cs) = some cs := by
  simp [expect]

end Time

end UsageLedger
