import UsageLedger.Json.Reader
import UsageLedger.Proofs.JsonLayout

/-!
# A written value read back

The words of a value lead the reader from wherever a value has to follow to the place behind
that value, whatever arrays and objects are open around it.  With the words of a written value
this gives the law of the writer and the reader: a value is read back from its text, unless it
has an unreadable string, which is written as an empty one.

## Main results

* `Json.Reading.run_words` — the words of a value carry the reading on by just this value.
* `Json.parse?_compact`, `Json.parse?_pretty` — **a written value is read back.**
-/

namespace UsageLedger.Json

/-- The words of a value do not close an array. -/
theorem words_eq_cons (v : Json) : ∃ t ts, words v = t :: ts ∧ t ≠ .closeArray := by
  match v with
  | .null | .bool _ | .number _ | .string _ | .array [] | .object [] => exact ⟨_, _, rfl, nofun⟩
  | .array (_ :: _) | .object ((_, _) :: _) => exact ⟨_, _, rfl, nofun⟩

namespace Reading

theorem run_firstItem (v : Json) (stack : List Frame) (rest : List Token) :
    run (firstItem stack) (words v ++ rest) =
      run (value (.array [] :: stack)) (words v ++ rest) := by
  obtain ⟨t, ts, hwords, ht⟩ := words_eq_cons v
  have hstep : (firstItem stack).step t = (value (.array [] :: stack)).step t := by
    cases t with
    | closeArray => exact absurd rfl ht
    | _ => rfl
  rw [hwords, List.cons_append, run, run, hstep]

mutual

/-- **The words of a value carry the reading on by just this value.** -/
theorem run_words (v : Json) (stack : List Frame) (rest : List Token) :
    run (value stack) (words v ++ rest) = run (ofValue v stack) rest := by
  match v with
  | .null => rfl
  | .bool b => rfl
  | .number n => rfl
  | .string s => rfl
  | .array [] => rfl
  | .array (v :: vs) =>
    simp only [words, List.cons_append, List.append_assoc, List.nil_append]
    -- the first item is read where the array might also have ended
    show run (firstItem stack) (words v ++ (itemWords vs ++ .closeArray :: rest)) = _
    rw [run_firstItem, run_words v]
    exact run_itemWords vs v [] stack rest
  | .object [] => rfl
  | .object ((k, v) :: fs) =>
    simp only [words, List.cons_append, List.append_assoc, List.nil_append]
    show run (value (.object [] k :: stack))
        (words v ++ (fieldWords fs ++ .closeObject :: rest)) = _
    rw [run_words v]
    exact run_fieldWords fs k v [] stack rest

/-- The words of the items behind an item carry the reading on to the end of their array. -/
theorem run_itemWords (vs : List Json) (v : Json) (items : List Json) (stack : List Frame)
    (rest : List Token) :
    run (item v (.array items) stack) (itemWords vs ++ .closeArray :: rest) =
      run (ofValue (.array (items.reverse ++ v :: vs)) stack) rest := by
  match vs with
  | [] =>
    show run (ofValue (.array (v :: items).reverse) stack) rest = _
    rw [List.reverse_cons]
  | w :: vs =>
    simp only [itemWords, List.cons_append, List.append_assoc]
    show run (value (.array (v :: items) :: stack))
        (words w ++ (itemWords vs ++ .closeArray :: rest)) = _
    rw [run_words w]
    refine (run_itemWords vs w (v :: items) stack rest).trans ?_
    rw [List.reverse_cons, List.append_assoc, List.singleton_append]

theorem run_fieldWords (fs : List (Json.Text × Json)) (k : Json.Text) (v : Json)
    (fields : List (Json.Text × Json)) (stack : List Frame) (rest : List Token) :
    run (item v (.object fields k) stack) (fieldWords fs ++ .closeObject :: rest) =
      run (ofValue (.object (fields.reverse ++ (k, v) :: fs)) stack) rest := by
  match fs with
  | [] =>
    show run (ofValue (.object ((k, v) :: fields).reverse) stack) rest = _
    rw [List.reverse_cons]
  | (l, w) :: fs =>
    simp only [fieldWords, List.cons_append, List.append_assoc]
    show run (value (.object ((k, v) :: fields) l :: stack))
      (words w ++ (fieldWords fs ++ .closeObject :: rest)) = _
    rw [run_words w]
    refine (run_fieldWords fs l w ((k, v) :: fields) stack rest).trans ?_
    rw [List.reverse_cons, List.append_assoc, List.singleton_append]

end

end Reading

theorem ofTokens?_words (v : Json) : ofTokens? (words v) = some v := by
  have hrun := Reading.run_words v [] []
  rw [List.append_nil] at hrun
  rw [ofTokens?, hrun]
  rfl

/-- **A value written on one line is read back**, unless a string in it is an unreadable one. -/
theorem parse?_compact {v : Json} (hv : v.isReadable = true) : parse? v.compact = some v := by
  rw [parse?, tokens?_compact hv, Option.bind_some, ofTokens?_words]

/-- **A value written over several lines is read back**, unless a string in it is an unreadable
one. -/
theorem parse?_pretty {v : Json} (hv : v.isReadable = true) : parse? v.pretty = some v := by
  rw [parse?, tokens?_pretty hv, Option.bind_some, ofTokens?_words]

end UsageLedger.Json
