import UsageLedger.Proofs.JsonWords

/-!
# Layouts of a written value

A value is written on one line or over several, and the two ways differ in blanks only: none at
all, or new lines and indentation, with a blank behind each colon.  Whatever the blanks are, the
machine that cuts a text into words finds the words of the value, since the writer never puts
two words without a last character of their own next to each other.

## Main definitions

* `Json.Layout` — the blanks between the words of a written value.
* `Json.Layout.chars` — the characters of a value in a layout.
* `Json.Layout.tight`, `Json.Layout.lines` — the layouts of one line and of several.

## Main results

* `Json.compactChars_eq`, `Json.prettyChars_eq` — values are written in these two layouts.
* `Json.Scan.run_chars` — **in every layout the words of a written value are those of the value.**
* `Json.tokens?_compact`, `Json.tokens?_pretty` — so they are in both ways of writing.
-/

namespace UsageLedger.Json

open UsageLedger.Text

/-- The blanks between the words of a written value. -/
structure Layout where
  /-- In front of an item, a field or the mark that closes their row, by level. -/
  gap : Nat → List Char
  /-- Behind a colon. -/
  pad : List Char
  /-- Nothing but blanks stands between two items. -/
  gap_blank : ∀ level, (gap level).all isSpace = true
  /-- Nothing but blanks stands behind a colon. -/
  pad_blank : pad.all isSpace = true

namespace Layout

/-- One line without blanks. -/
def tight : Layout where
  gap _ := []
  pad := []
  gap_blank _ := rfl
  pad_blank := rfl

/-- A line for every item and field. -/
def lines : Layout where
  gap := newLine
  pad := [' ']
  gap_blank level := by simp [newLine, isSpace]
  pad_blank := rfl

mutual

/-- The characters of a value in a layout, at a level of indentation. -/
def chars (l : Layout) (level : Nat) : Json → List Char
  | null => ['n', 'u', 'l', 'l']
  | bool true => ['t', 'r', 'u', 'e']
  | bool false => ['f', 'a', 'l', 's', 'e']
  | number n => n.chars
  | string s => textChars s
  | array [] => ['[', ']']
  | array (v :: vs) =>
    '[' :: l.gap (level + 1) ++ chars l (level + 1) v ++ itemChars l (level + 1) vs ++
      l.gap level ++ [']']
  | object [] => ['\x7b', '\x7d']
  | object ((k, v) :: fs) =>
    '\x7b' :: l.gap (level + 1) ++ textChars k ++ ':' :: l.pad ++ chars l (level + 1) v
      ++ fieldChars l (level + 1) fs ++ l.gap level ++ ['\x7d']

/-- The items behind the first one. -/
def itemChars (l : Layout) (level : Nat) : List Json → List Char
  | [] => []
  | v :: vs => ',' :: l.gap level ++ chars l level v ++ itemChars l level vs

/-- The fields behind the first one. -/
def fieldChars (l : Layout) (level : Nat) : List (Json.Text × Json) → List Char
  | [] => []
  | (k, v) :: fs =>
    ',' :: l.gap level ++ textChars k ++ ':' :: l.pad ++ chars l level v ++ fieldChars l level fs

end

end Layout

/-! ### The two ways of writing -/

mutual

/-- On one line, values are written without blanks. -/
theorem compactChars_eq (level : Nat) (v : Json) : compactChars v = Layout.tight.chars level v := by
  match v with
  | .null | .bool true | .bool false | .number _ | .string _ | .array [] | .object [] => rfl
  | .array (v :: vs) =>
    rw [compactChars, compactChars_eq (level + 1) v, compactItems_eq (level + 1) vs]
    simp [Layout.chars, Layout.tight]
  | .object ((k, v) :: fs) =>
    rw [compactChars, compactChars_eq (level + 1) v, compactFields_eq (level + 1) fs]
    simp [Layout.chars, Layout.tight]

theorem compactItems_eq (level : Nat) (vs : List Json) :
    compactItems vs = Layout.tight.itemChars level vs := by
  match vs with
  | [] => rfl
  | v :: vs =>
    rw [compactItems, compactChars_eq level v, compactItems_eq level vs]
    simp [Layout.itemChars, Layout.tight]

theorem compactFields_eq (level : Nat) (fs : List (Json.Text × Json)) :
    compactFields fs = Layout.tight.fieldChars level fs := by
  match fs with
  | [] => rfl
  | (k, v) :: fs =>
    rw [compactFields, compactChars_eq level v, compactFields_eq level fs]
    simp [Layout.fieldChars, Layout.tight]

end

mutual

/-- Over several lines, values are written with a line for every item and field. -/
theorem prettyChars_eq (level : Nat) (v : Json) :
    prettyChars level v = Layout.lines.chars level v := by
  match v with
  | .null | .bool true | .bool false | .number _ | .string _ | .array [] | .object [] => rfl
  | .array (v :: vs) =>
    rw [prettyChars, prettyChars_eq (level + 1) v, prettyItems_eq (level + 1) vs]
    rfl
  | .object ((k, v) :: fs) =>
    rw [prettyChars, prettyChars_eq (level + 1) v, prettyFields_eq (level + 1) fs]
    simp [Layout.chars, Layout.lines]

theorem prettyItems_eq (level : Nat) (vs : List Json) :
    prettyItems level vs = Layout.lines.itemChars level vs := by
  match vs with
  | [] => rfl
  | v :: vs =>
    rw [prettyItems, prettyChars_eq level v, prettyItems_eq level vs]
    rfl

theorem prettyFields_eq (level : Nat) (fs : List (Json.Text × Json)) :
    prettyFields level fs = Layout.lines.fieldChars level fs := by
  match fs with
  | [] => rfl
  | (k, v) :: fs =>
    rw [prettyFields, prettyChars_eq level v, prettyFields_eq level fs]
    simp [Layout.fieldChars, Layout.lines]

end

/-! ### The words -/

namespace Scan

variable (l : Layout) {found : List Token} {rest : List Char}

theorem ends_itemChars (level : Nat) (vs : List Json) (hrest : Ends rest) :
    Ends (l.itemChars level vs ++ rest) := by
  cases vs with
  | nil => exact hrest
  | cons v vs => exact ends_mark (t := .comma) rfl _

theorem ends_fieldChars (level : Nat) (fs : List (Json.Text × Json)) (hrest : Ends rest) :
    Ends (l.fieldChars level fs ++ rest) := by
  cases fs with
  | nil => exact hrest
  | cons f fs => exact ends_mark (t := .comma) rfl _

mutual

/-- **A written value is cut into its words.** -/
theorem run_chars (v : Json) (hv : v.isReadable = true) (level : Nat) (found : List Token)
    {rest : List Char} (hrest : Ends rest) :
    run found between (l.chars level v ++ rest) =
      run ((words v).reverse ++ found) between rest := by
  match v, hv with
  | .null, _ => exact run_word rfl hrest
  | .bool true, _ => exact run_word rfl hrest
  | .bool false, _ => exact run_word rfl hrest
  | .number n, _ => exact run_number n hrest
  | .string (some s), _ => exact run_quoted s
  | .array [], _ => rfl
  | .array (v :: vs), hv =>
    obtain ⟨hv, hvs⟩ := Bool.and_eq_true_iff.mp hv
    -- the closing bracket, with the blanks before it, ends what stands in front
    have hclose : Ends (l.gap level ++ ']' :: rest) :=
      (ends_mark (t := .closeArray) rfl rest).blanks (l.gap_blank level)
    simp only [Layout.chars, words, List.append_assoc, List.cons_append, List.nil_append]
    rw [run_mark (t := .openArray) rfl, run_blanks (l.gap_blank _),
      run_chars v hv (level + 1) _ (ends_itemChars l _ vs hclose),
      run_itemChars vs hvs (level + 1) _ hclose, run_blanks (l.gap_blank _),
      run_mark (t := .closeArray) rfl]
    simp
  | .object [], _ => rfl
  | .object ((some k, v) :: fs), hv =>
    obtain ⟨hv, hfs⟩ := Bool.and_eq_true_iff.mp hv
    have hclose : Ends (l.gap level ++ '\x7d' :: rest) :=
      (ends_mark (t := .closeObject) rfl rest).blanks (l.gap_blank level)
    simp only [Layout.chars, words, textChars, Option.getD_some, List.append_assoc,
      List.cons_append, List.nil_append]
    rw [run_mark (t := .openObject) rfl, run_blanks (l.gap_blank _), run_quoted,
      run_mark (t := .colon) rfl, run_blanks l.pad_blank,
      run_chars v hv (level + 1) _ (ends_fieldChars l _ fs hclose),
      run_fieldChars fs hfs (level + 1) _ hclose, run_blanks (l.gap_blank _),
      run_mark (t := .closeObject) rfl]
    simp

theorem run_itemChars (vs : List Json) (hvs : areReadable vs = true) (level : Nat)
    (found : List Token) {rest : List Char} (hrest : Ends rest) :
    run found between (l.itemChars level vs ++ rest) =
      run ((itemWords vs).reverse ++ found) between rest := by
  match vs, hvs with
  | [], _ => rfl
  | v :: vs, hvs =>
    obtain ⟨hv, hvs⟩ := Bool.and_eq_true_iff.mp hvs
    simp only [Layout.itemChars, itemWords, List.append_assoc, List.cons_append]
    rw [run_mark (t := .comma) rfl, run_blanks (l.gap_blank _),
      run_chars v hv level _ (ends_itemChars l _ vs hrest), run_itemChars vs hvs level _ hrest]
    simp

theorem run_fieldChars (fs : List (Json.Text × Json)) (hfs : fieldsReadable fs = true) (level : Nat)
    (found : List Token) {rest : List Char} (hrest : Ends rest) :
    run found between (l.fieldChars level fs ++ rest) =
      run ((fieldWords fs).reverse ++ found) between rest := by
  match fs, hfs with
  | [], _ => rfl
  | (some k, v) :: fs, hfs =>
    obtain ⟨hv, hfs⟩ := Bool.and_eq_true_iff.mp hfs
    simp only [Layout.fieldChars, fieldWords, textChars, Option.getD_some, List.append_assoc,
      List.cons_append]
    rw [run_mark (t := .comma) rfl, run_blanks (l.gap_blank _), run_quoted,
      run_mark (t := .colon) rfl, run_blanks l.pad_blank,
      run_chars v hv level _ (ends_fieldChars l _ fs hrest), run_fieldChars fs hfs level _ hrest]
    simp

end

end Scan

theorem tokens?_chars (l : Layout) {v : Json} (hv : v.isReadable = true) :
    tokens? (String.ofList (l.chars 0 v)) = some (words v) := by
  have hrun := Scan.run_chars l v hv 0 [] Scan.ends_nil
  rw [List.append_nil, List.append_nil] at hrun
  rw [tokens?, String.toList_ofList, hrun]
  simp [Scan.run, Scan.finish]

/-- **The words of a value written on one line are those of the value.** -/
theorem tokens?_compact {v : Json} (hv : v.isReadable = true) :
    tokens? v.compact = some (words v) := by
  rw [compact, compactChars_eq 0, tokens?_chars _ hv]

/-- **The words of a value written over several lines are those of the value.** -/
theorem tokens?_pretty {v : Json} (hv : v.isReadable = true) :
    tokens? v.pretty = some (words v) := by
  rw [pretty, prettyChars_eq, tokens?_chars _ hv]

end UsageLedger.Json
