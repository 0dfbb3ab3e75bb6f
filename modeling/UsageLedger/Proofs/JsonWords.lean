import UsageLedger.Json.Printer
import UsageLedger.Json.Token
import UsageLedger.Proofs.Numerals

/-!
# The words of a written value

A value is written as words with blanks between them, and the machine that cuts a text into
words finds each of them.  Marks and strings have a last character of their own.  A number or a
constant has none: it ends where a character follows that cannot belong to it.

## Main definitions

* `Json.words` — the words of a value.
* `Json.isReadable` — no string of the value is an unreadable one.
* `Json.Scan.Ends` — what may follow a number or a constant.

## Main results

* `Json.Number.ofSpelling?_chars` — every number is read back from its characters.
* `Json.Scan.run_blanks` — blanks between two words are passed over.
* `Json.Scan.run_quoted`, `Json.Scan.run_number`, `Json.Scan.run_word`, `Json.Scan.run_mark` — a
  string, a number, a constant and a mark are one word each. -/

namespace UsageLedger.Json

open UsageLedger.Text

mutual

/-- The words of a value. -/
def words : Json → List Token
  | null => [.null]
  | bool b => [.bool b]
  | number n => [.number n]
  | string s => [.string s]
  | array [] => [.openArray, .closeArray]
  | array (v :: vs) => .openArray :: words v ++ itemWords vs ++ [.closeArray]
  | object [] => [.openObject, .closeObject]
  | object ((k, v) :: fs) =>
    .openObject :: .string k :: .colon :: words v ++ fieldWords fs ++ [.closeObject]

/-- The words of the items behind the first one. -/
def itemWords : List Json → List Token
  | [] => []
  | v :: vs => .comma :: words v ++ itemWords vs

/-- The words of the fields behind the first one. -/
def fieldWords : List (Json.Text × Json) → List Token
  | [] => []
  | (k, v) :: fs => .comma :: .string k :: .colon :: words v ++ fieldWords fs

end

mutual

/-- No string of the value is an unreadable one. -/
def isReadable : Json → Bool
  | string s => s.isSome
  | array vs => areReadable vs
  | object fs => fieldsReadable fs
  | _ => true

/-- No string of the items is an unreadable one. -/
def areReadable : List Json → Bool
  | [] => true
  | v :: vs => isReadable v && areReadable vs

/-- No name and no string of the fields is an unreadable one. -/
def fieldsReadable : List (Json.Text × Json) → Bool
  | [] => true
  | (k, v) :: fs => k.isSome && isReadable v && fieldsReadable fs

end

@[simp] theorem areReadable_eq_all (vs : List Json) : areReadable vs = vs.all isReadable := by
  induction vs with
  | nil => rfl
  | cons v vs ih => rw [areReadable, List.all_cons, ih]

@[simp] theorem isReadable_record (fields : List (String × Json)) :
    (record fields).isReadable = fields.all fun f => f.2.isReadable := by
  rw [record, isReadable]
  induction fields with
  | nil => rfl
  | cons f fs ih =>
    rw [List.map_cons, fieldsReadable, List.all_cons, ih, Option.isSome_some, Bool.true_and]

/-! ### Numbers -/

theorem exponent?_signedDigits (x : Int) : exponent? (signedDigits x) = some x := by
  have hall : (digits x.natAbs).all Char.isDigit = true :=
    List.all_eq_true.mpr fun c hc => isDigit_of_mem_digits hc
  have hsome : (digits x.natAbs).isEmpty = false :=
    List.isEmpty_eq_false_iff.mpr (digits_ne_nil _)
  rw [signedDigits]
  split
  · next hneg =>
    simp only [exponent?, hall, hsome, Bool.not_true, Bool.or_self, if_false, Bool.false_eq_true,
      ofDigits_digits]
    exact congrArg some (by omega)
  · next hneg =>
    rw [exponent?.eq_def]
    split
    -- a sign is no digit
    · next heq => simp [heq] at hall
    · next heq => simp [heq] at hall
    · rw [hall, hsome, ofDigits_digits]
      exact congrArg some (by omega)

namespace Number

theorem span_digits (n : Nat) {tail : List Char} (htail : ∀ c ∈ tail.head?, c.isDigit = false) :
    (digits n ++ tail).takeWhile Char.isDigit = digits n ∧
      (digits n ++ tail).dropWhile Char.isDigit = tail := by
  have hdigits : ∀ c ∈ digits n, c.isDigit = true := fun c hc => isDigit_of_mem_digits hc
  rw [List.takeWhile_append_of_pos hdigits, List.dropWhile_append_of_pos hdigits]
  cases tail with
  | nil => simp
  | cons c tail => simp [htail c rfl]

/-- The digits of a number have no zero in front, unless the number is zero. -/
theorem digits_wellFormed (n : Nat) :
    ((digits n).isEmpty || ((digits n).head? == some '0' && (digits n).length != 1)) = false := by
  rw [List.isEmpty_eq_false_iff.mpr (digits_ne_nil n), Bool.false_or]
  by_cases hn : n = 0
  · subst hn
    rw [digits_of_lt (by decide)]
    decide
  · rw [beq_eq_false_iff_ne.mpr (head?_digits_ne hn), Bool.false_and]

theorem ofUnsigned?_digits (negative : Bool) {n : Nat} (h : negative = true → n ≠ 0) :
    ofUnsigned? negative (digits n) = some (.whole ((if negative then -1 else 1) * n)) := by
  obtain ⟨htake, hdrop⟩ := @span_digits n [] (by simp)
  rw [List.append_nil] at htake hdrop
  rw [ofUnsigned?]
  simp only [htake, hdrop, digits_wellFormed, if_false, Bool.false_eq_true, ofDigits_digits]
  rw [if_neg]
  simpa using h

theorem ofUnsigned?_exponent (negative : Bool) (n : Nat) (x : Int) :
    ofUnsigned? negative (digits n ++ 'e' :: signedDigits x) =
      some (.decimal ((if negative then -1 else 1) * n) x) := by
  have htail : ∀ c ∈ ('e' :: signedDigits x).head?, c.isDigit = false := by
    rintro c ⟨⟩
    rfl
  obtain ⟨htake, hdrop⟩ := span_digits n htail
  rw [ofUnsigned?]
  simp only [htake, hdrop, digits_wellFormed, if_false, Bool.false_eq_true, ofDigits_digits]
  show (if 'e' = 'e' ∨ 'e' = 'E' then (exponent? (signedDigits x)).map _ else none) = _
  rw [if_pos (.inl rfl), exponent?_signedDigits]
  rfl

theorem ofSpelling?_digits (n : Nat) (tail : List Char) :
    ofSpelling? (digits n ++ tail) = ofUnsigned? false (digits n ++ tail) := by
  obtain ⟨c, cs, hcs⟩ := List.exists_cons_of_ne_nil (digits_ne_nil n)
  have hc : c.isDigit = true := isDigit_of_mem_digits (hcs ▸ List.mem_cons_self)
  rw [hcs, List.cons_append, ofSpelling?.eq_def]
  split
  · next heq =>
    obtain rfl : c = '-' := (List.cons.inj heq).1
    cases hc
  · rfl

/-- **Every number is read back** from its characters. -/
theorem ofSpelling?_chars (n : Number) : ofSpelling? n.chars = some n := by
  have hneg : ∀ k : Int, k < 0 → (if true = true then -1 else 1) * (k.natAbs : Int) = k := by
    intro k hk
    rw [if_pos rfl]
    omega
  have hplain : ∀ k : Int, ¬k < 0 → (if false = true then -1 else 1) * (k.natAbs : Int) = k := by
    intro k hk
    rw [if_neg Bool.false_ne_true]
    omega
  cases n with
  | whole n =>
    rw [chars, signedDigits]
    split
    · next hn =>
      rw [ofSpelling?, ofUnsigned?_digits true (by omega), hneg n hn]
    · next hn =>
      -- without a sign the digits are the whole spelling
      have hunsigned := ofSpelling?_digits n.natAbs []
      rw [List.append_nil] at hunsigned
      rw [hunsigned, ofUnsigned?_digits false (by simp), hplain n hn]
  | decimal mantissa exponent =>
    rw [chars, signedDigits]
    split
    · next hm => rw [List.cons_append, ofSpelling?, ofUnsigned?_exponent, hneg mantissa hm]
    · next hm => rw [ofSpelling?_digits, ofUnsigned?_exponent, hplain mantissa hm]

/-- The characters of a number are such that can stand inside a number. -/
theorem isNumeral_of_mem_chars {n : Number} {c : Char} (h : c ∈ n.chars) : isNumeral c = true := by
  -- a sign or digits, and in the middle the letter of the exponent
  have hsigned : ∀ k : Int, c ∈ signedDigits k → isNumeral c = true := by
    intro k hk
    have hdigit : ∀ {m : Nat}, c ∈ digits m → isNumeral c = true := by
      intro m hm
      simp [isNumeral, isDigit_of_mem_digits hm]
    rw [signedDigits] at hk
    split at hk
    · rcases List.mem_cons.mp hk with rfl | hk
      · rfl
      · exact hdigit hk
    · exact hdigit hk
  cases n with
  | whole n => exact hsigned n h
  | decimal mantissa exponent =>
    rw [chars, List.mem_append, List.mem_cons] at h
    rcases h with h | rfl | h
    · exact hsigned mantissa h
    · rfl
    · exact hsigned exponent h

theorem chars_eq_cons (n : Number) :
    ∃ c cs, n.chars = c :: cs ∧ (c.isDigit || c == '-') = true := by
  have hsigned : ∀ k : Int, ∃ c cs, signedDigits k = c :: cs ∧ (c.isDigit || c == '-') = true := by
    intro k
    rw [signedDigits]
    split
    · exact ⟨'-', _, rfl, rfl⟩
    · obtain ⟨c, cs, hcs⟩ := List.exists_cons_of_ne_nil (digits_ne_nil k.natAbs)
      exact ⟨c, cs, hcs, by simp [isDigit_of_mem_digits (hcs ▸ List.mem_cons_self)]⟩
  cases n with
  | whole n => exact hsigned n
  | decimal mantissa exponent =>
    obtain ⟨c, cs, hcs, hc⟩ := hsigned mantissa
    exact ⟨c, cs ++ 'e' :: signedDigits exponent, by rw [chars, hcs, List.cons_append], hc⟩

end Number

/-! ### Strings -/

namespace Piece

/-- The piece that a character is written as: a unit for a control character without a letter of its
own. -/
def ofChar (c : Char) : Piece :=
  if c.toNat < 0x20 ∧ c ∉ ['\x08', '\x0c', '\n', '\r', '\t'] then .unit c.toNat else .char c

theorem chars?_ofChar (c : Char) (ps : List Piece) :
    chars? (ofChar c :: ps) = (chars? ps).map (c :: ·) := by
  rw [ofChar]
  split
  · next h =>
    -- control characters are below the surrogates
    have hhigh : isHigh c.toNat = false := by
      simp only [isHigh, Bool.and_eq_false_iff, decide_eq_false_iff_not]
      omega
    have hlow : isLow c.toNat = false := by
      simp only [isLow, Bool.and_eq_false_iff, decide_eq_false_iff_not]
      omega
    rw [chars?.eq_def]
    simp [hhigh, hlow]
  · rfl

theorem chars?_map_ofChar (cs : List Char) : chars? (cs.map ofChar) = some cs := by
  induction cs with
  | nil => rfl
  | cons c cs ih => rw [List.map_cons, chars?_ofChar, ih, Option.map_some]

end Piece

theorem hexValue?_digitChar {d : Nat} (h : d < 16) : hexValue? d.digitChar = some d := by
  revert d
  decide

namespace Scan

variable {found : List Token} {rest : List Char}

theorem run_of_step {state next : Scan} {c : Char} {ts : List Token}
    (h : state.step c = some (ts, next)) :
    run found state (c :: rest) = run (ts.reverse ++ found) next rest := by
  rw [run, h]
  dsimp only
  rw [List.reverseAux_eq]

/-- A character of a string is taken as it was written. -/
theorem run_escapeChar (read : List Piece) (c : Char) :
    run found (string read) (escapeChar c ++ rest) =
      run found (string (.ofChar c :: read)) rest := by
  rw [escapeChar]
  -- seven characters are written with a letter or mark of their own
  split
  · next h => subst h; rfl
  split
  · next h => subst h; rfl
  split
  · next h => subst h; rfl
  split
  · next h => subst h; rfl
  split
  · next h => subst h; rfl
  split
  · next h => subst h; rfl
  split
  · next h => subst h; rfl
  next hquote hslash hb hf hn hr ht =>
  split
  -- the other control characters are written as units, of whose four digits two are zero
  · next hlow =>
    have hunit : Piece.ofChar c = .unit (16 * (c.toNat / 16) + c.toNat % 16) := by
      rw [Piece.ofChar, if_pos ⟨hlow, by simp [hb, hf, hn, hr, ht]⟩, Nat.div_add_mod]
    have hfirst : ∀ read, (unit read 1 0).step (c.toNat / 16).digitChar =
        some ([], unit read 0 (c.toNat / 16)) := by
      intro read
      simp [step, hexValue?_digitChar (show c.toNat / 16 < 16 by omega)]
    have hsecond : ∀ read value, (unit read 0 value).step (c.toNat % 16).digitChar =
        some ([], string (.unit (16 * value + c.toNat % 16) :: read)) := by
      intro read value
      simp [step, hexValue?_digitChar (show c.toNat % 16 < 16 by omega)]
    rw [hunit]
    show run found (unit read 1 0)
        ((c.toNat / 16).digitChar :: (c.toNat % 16).digitChar :: rest) = _
    rw [run_of_step (hfirst read), run_of_step (hsecond read _)]
    rfl
  · next hhigh =>
    have hchar : Piece.ofChar c = .char c := by
      rw [Piece.ofChar, if_neg fun h => hhigh h.1]
    have hstep : (string read).step c = some ([], string (.char c :: read)) := by
      rw [step, if_neg hquote, if_neg hslash, if_neg hhigh]
    rw [hchar, List.singleton_append, run_of_step hstep]
    rfl

theorem run_escape (cs : List Char) (read : List Piece) :
    run found (string read) (Json.escape cs ++ rest) =
      run found (string ((cs.map Piece.ofChar).reverse ++ read)) rest := by
  induction cs generalizing read with
  | nil => rfl
  | cons c cs ih =>
    have hcons : Json.escape (c :: cs) = escapeChar c ++ Json.escape cs := rfl
    rw [hcons, List.append_assoc, run_escapeChar, ih]
    simp

/-- **A string in quotation marks is one word.** -/
theorem run_quoted (s : String) :
    run found between (quoted s ++ rest) = run (.string (some s) :: found) between rest := by
  have hopen : between.step '"' = some ([], string []) := rfl
  have hclose : ∀ read, (string read).step '"' =
      some ([.string (Piece.joinReversed read)], between) :=
    fun read => rfl
  have hjoin : Piece.joinReversed ((s.toList.map Piece.ofChar).reverse ++ []) = some s := by
    rw [Piece.joinReversed, List.append_nil, List.reverse_reverse, Piece.chars?_map_ofChar,
      Option.map_some, String.ofList_toList]
  simp only [quoted, List.cons_append, List.append_assoc, List.nil_append]
  rw [run_of_step hopen, run_escape, run_of_step (hclose _), hjoin]
  rfl

/-! ### Blanks, and the ends of words -/

/-- Blanks between two words are passed over. -/
theorem run_blanks {blanks : List Char} (h : blanks.all isSpace = true) :
    run found between (blanks ++ rest) = run found between rest := by
  induction blanks with
  | nil => rfl
  | cons c blanks ih =>
    obtain ⟨hc, hblanks⟩ := Bool.and_eq_true_iff.mp h
    have hstep : between.step c = some ([], between) := if_pos hc
    rw [List.cons_append, run_of_step hstep]
    exact ih hblanks

/-- What may follow a number or a constant: nothing, or a character that cannot belong to it. -/
def Ends (rest : List Char) : Prop :=
  ∀ c ∈ rest.head?, isNumeral c = false ∧ isLetter c = false

theorem ends_nil : Ends [] := by
  simp [Ends]

theorem ends_mark {c : Char} {t : Token} (h : Token.ofMark? c = some t) (rest : List Char) :
    Ends (c :: rest) := by
  rintro _ ⟨⟩
  unfold Token.ofMark? at h
  split at h
  case h_7 => cases h
  all_goals decide

/-- A word may be followed by blanks if it may be followed by what is behind them. -/
theorem Ends.blanks {blanks : List Char} (h : blanks.all isSpace = true) (hrest : Ends rest) :
    Ends (blanks ++ rest) := by
  cases blanks with
  | nil => exact hrest
  | cons c blanks =>
    rintro _ ⟨⟩
    have hc := (Bool.and_eq_true_iff.mp h).1
    simp only [isSpace, Bool.or_eq_true, beq_iff_eq] at hc
    rcases hc with ((rfl | rfl) | rfl) | rfl <;> decide

/-- A word without a last character of its own ends where it has to. -/
theorem run_of_ends {state : Scan} {t : Token}
    (hstep : ∀ c, isNumeral c = false ∧ isLetter c = false →
      state.step c = (start c).map fun (ts, next) => (t :: ts, next))
    (hfinish : state.finish = some [t]) (hrest : Ends rest) :
    run found state rest = run (t :: found) between rest := by
  cases rest with
  | nil =>
    rw [run, run, hfinish]
    rfl
  | cons c rest =>
    have hend := hstep c (hrest c rfl)
    have hbetween : between.step c = start c := rfl
    cases hstart : start c with
    | none => simp only [run, hend, hbetween, hstart, Option.map_none]
    | some move => simp only [run, hend, hbetween, hstart, Option.map_some, List.reverseAux_cons]

theorem start_of_numeral {c : Char} (hc : (c.isDigit || c == '-') = true) :
    start c = some ([], numeral [c]) := by
  have hspace : isSpace c = false := by
    simp only [isSpace, Bool.or_eq_false_iff, beq_eq_false_iff_ne]
    refine ⟨⟨⟨?_, ?_⟩, ?_⟩, ?_⟩
    all_goals
      rintro rfl
      exact absurd hc (by decide)
  have hquote : c ≠ '"' := by
    rintro rfl
    exact absurd hc (by decide)
  rw [start, if_neg (by simp [hspace]), if_neg hquote, if_pos (by simpa using hc)]

/-- **A number is one word** where it ends. -/
theorem run_number (n : Number) (hrest : Ends rest) :
    run found between (n.chars ++ rest) = run (.number n :: found) between rest := by
  -- the digits are piled up, and what is piled up in the end is the number
  have hpile : ∀ (cs read : List Char), (∀ c ∈ cs, isNumeral c = true) →
      run found (numeral read) (cs ++ rest) = run found (numeral (cs.reverse ++ read)) rest := by
    intro cs
    induction cs with
    | nil => intro read _; rfl
    | cons c cs ih =>
      intro read hcs
      have hc : (numeral read).step c = some ([], numeral (c :: read)) := by
        rw [step, if_pos (hcs c List.mem_cons_self)]
      rw [List.cons_append, run_of_step hc, List.reverse_cons, List.append_assoc]
      exact ih (c :: read) fun d hd => hcs d (List.mem_cons_of_mem _ hd)
  obtain ⟨c, cs, hchars, hc⟩ := n.chars_eq_cons
  have hnumeral : ∀ d ∈ c :: cs, isNumeral d = true := fun d hd =>
    Number.isNumeral_of_mem_chars (hchars ▸ hd)
  have hread : Number.ofSpelling? (cs.reverse ++ [c]).reverse = some n := by
    rw [List.reverse_append, List.reverse_reverse, List.reverse_singleton, List.singleton_append,
      ← hchars, Number.ofSpelling?_chars]
  have hstart : between.step c = some ([], numeral [c]) := start_of_numeral hc
  rw [hchars, List.cons_append, run_of_step hstart]
  refine (hpile cs [c] fun d hd => hnumeral d (List.mem_cons_of_mem _ hd)).trans ?_
  refine run_of_ends (fun d hd => ?_) ?_ hrest
  · rw [step, if_neg (by simp [hd.1]), hread]
    cases start d <;> rfl
  · rw [finish, hread]
    rfl

/-- A constant is one word where it ends. -/
theorem run_word {w : List Char} {t : Token} (ht : Token.ofWord? w.reverse = some t)
    (hrest : Ends rest) :
    run found (word w) rest = run (t :: found) between rest := by
  refine run_of_ends (fun c hc => ?_) ?_ hrest
  · rw [step, if_neg (by simp [hc.2]), ht]
    cases start c <;> rfl
  · rw [finish, ht]
    rfl

/-- A mark is one word. -/
theorem run_mark {c : Char} {t : Token} (h : between.step c = some ([t], between)) :
    run found between (c :: rest) = run (t :: found) between rest :=
  run_of_step h

end Scan

end UsageLedger.Json
