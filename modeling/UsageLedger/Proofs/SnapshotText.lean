import UsageLedger.Proofs.JsonText
import UsageLedger.Proofs.Settling
import UsageLedger.Snapshot.Codec

/-!
# The text of a snapshot

A snapshot is written level by level, and every level is read back: instants in their displayed
form, counts within their sixty-four bits, records by the names of their fields, tables by their
keys.  A name stands once in what is written, so it does not matter that a reader refuses a
field that comes twice, and keeps the last value of a key that does.  Only an instant that is
not settled comes back as another one.

## Main definitions

* `Snapshot.fileText`, `Snapshot.ofFileText?` — a snapshot as the text of a file, and what such
  a text holds.

## Main results

* `Json.fields?_record` — the fields of a record are found by their names.
* `Keyed.ofList_entries` — the entries of a table make up the table.
* `Detail.ofJson?_toJson`, `Snapshot.ofJson?_toJson` — a level is read back from the value it is
  written as.
* `Snapshot.ofFileText?_fileText` — **a snapshot is read back from its text**, settled.
-/

namespace UsageLedger

namespace Json

variable {α β γ : Type}

theorem mapM_map {write : α → β} {read : β → Option γ} {f : α → γ} {xs : List α}
    (h : ∀ x ∈ xs, read (write x) = some (f x)) : (xs.map write).mapM read = some (xs.map f) := by
  induction xs with
  | nil => rfl
  | cons x xs ih =>
    have hrest := ih fun y hy => h y (List.mem_cons_of_mem _ hy)
    rw [List.map_cons, List.mapM_cons, h x List.mem_cons_self, hrest]
    rfl

theorem field?_of_mem {fields : List (String × Json)} (hnames : (fields.map Prod.fst).Nodup)
    {f : String × Json} (hf : f ∈ fields) :
    field? f.1 (fields.map fun (name, value) => (some name, value)) = some (some f.2) := by
  have hfilter : (fields.map fun (name, value) => ((some name : Json.Text), value)).filter
      (fun (k, _) => k = some f.1) = [(some f.1, f.2)] := by
    induction fields with
    | nil => cases hf
    | cons g fields ih =>
      obtain ⟨hfresh, hrest⟩ := List.nodup_cons.mp hnames
      rw [List.map_cons]
      rcases List.mem_cons.mp hf with rfl | hf
      · -- none of the names behind the first one is the same
        have hnone : (fields.map fun (name, value) => ((some name : Json.Text), value)).filter
            (fun (k, _) => k = some f.1) = [] := by
          simp only [List.filter_eq_nil_iff, List.mem_map, decide_eq_true_eq]
          rintro _ ⟨g, hg, rfl⟩ hname
          exact hfresh (List.mem_map.mpr ⟨g, hg, Option.some.inj hname⟩)
        rw [List.filter_cons_of_pos (by simp), hnone]
      · have hne : g.1 ≠ f.1 := fun heq => hfresh (heq ▸ List.mem_map_of_mem hf)
        rw [List.filter_cons_of_neg (by simpa using hne)]
        exact ih hrest hf
  rw [field?, hfilter]

/-- **The fields of a record are found by their names.** -/
theorem fields?_record (fields : List (String × Json)) (hnames : (fields.map Prod.fst).Nodup) :
    (record fields).fields? (fields.map Prod.fst) = some (fields.map fun f => some f.2) := by
  have hall : (fields.map fun (name, value) => ((some name : Json.Text), value)).all
      (fun (k, _) => k.isSome) = true := by simp
  rw [record, fields?, if_pos hall]
  exact mapM_map fun f hf => field?_of_mem hnames hf

theorem onlyField?_record (name : String) (v : Json) :
    onlyField? name (record [(name, v)]) = some (some v) := by
  have hfield : (record [(name, v)]).fields? [name] = some [some v] :=
    fields?_record [(name, v)] (by simp)
  rw [onlyField?, hfield]

end Json

open Json

/-! ### Instants, counts and details -/

theorem Instant.ofJson?_toJson (t : Instant) : ofJson? t.toJson = some t.settle := by
  rw [ofJson?, toJson, text, asText?, Option.bind_some, readLenient?_display]

theorem Count.asInt64?_toJson (n : Count) : asInt64? (Count.toJson n) = some n := by
  have hlow := Int64.le_toInt n
  have hhigh := Int64.toInt_lt n
  have hrange : Int64.minValue.toInt ≤ n.toInt ∧ n.toInt ≤ Int64.maxValue.toInt := by
    rw [Int64.toInt_minValue, Int64.toInt_maxValue]
    omega
  show (if Int64.minValue.toInt ≤ n.toInt ∧ n.toInt ≤ Int64.maxValue.toInt then
    some (Int64.ofInt n.toInt) else none) = _
  rw [if_pos hrange, Int64.ofInt_toInt]

theorem Tokens.ofJson?_toJson (t : Tokens) : ofJson? t.toJson = some t := by
  have hnames : fieldNames.Nodup := by decide
  have hfields : t.toJson.fields? fieldNames = some (t.counts.map fun n => some (Count.toJson n)) :=
    fields?_record (fieldNames.zip (t.counts.map Count.toJson)) hnames
  simp [ofJson?, hfields, counts, Json.optional, Count.asInt64?_toJson]

/-- The detail of a request is read back, settled. -/
theorem Detail.ofJson?_toJson (d : Detail) : ofJson? d.toJson = some d.settle := by
  have hnames : fieldNames.Nodup := by decide
  have hfields : d.toJson.fields? fieldNames = some [some d.timestamp.toJson, some (text d.source),
      some (text d.authIndex), some d.tokens.toJson, some (.bool d.failed)] :=
    fields?_record (fieldNames.zip
      [d.timestamp.toJson, text d.source, text d.authIndex, d.tokens.toJson, .bool d.failed]) hnames
  simp [ofJson?, hfields, required, Json.optional, Instant.ofJson?_toJson, Tokens.ofJson?_toJson,
    asText?, text, asBool?, settle]

theorem Detail.isReadable_toJson (d : Detail) : d.toJson.isReadable = true := by
  simp [toJson, fieldNames, Tokens.toJson, Tokens.fieldNames, Tokens.counts, Count.toJson,
    Instant.toJson, text, whole, isReadable]

/-! ### Tables -/

namespace Keyed

variable {β : Type}

theorem upsertEntries_of_lt {key : String} {entries : List (String × β)}
    (h : ∀ e ∈ entries, e.1 < key) (change : Option β → β) :
    upsertEntries key change entries = entries ++ [(key, change none)] := by
  induction entries with
  | nil => rfl
  | cons e entries ih =>
    have hlt : e.1 < key := h e List.mem_cons_self
    have hrest := ih fun e' he' => h e' (List.mem_cons_of_mem _ he')
    have hge : ¬key < e.1 := fun hgt => String.lt_irrefl _ (String.lt_trans hlt hgt)
    have hne : key ≠ e.1 := fun heq => String.lt_irrefl _ (heq ▸ hlt)
    rw [upsertEntries, if_neg hge, if_neg hne, hrest, List.cons_append]

theorem foldl_upsert_entries (rest : List (String × β)) (t : Keyed β)
    (hasc : (t.entries ++ rest).Pairwise fun a b => a.1 < b.1) :
    (rest.foldl (fun t (k, v) => t.upsert k fun _ => v) t).entries = t.entries ++ rest := by
  induction rest generalizing t with
  | nil => simp
  | cons e rest ih =>
    have hlt : ∀ e' ∈ t.entries, e'.1 < e.1 := by
      intro e' he'
      exact (List.pairwise_append.mp hasc).2.2 e' he' e List.mem_cons_self
    have hadded : (t.upsert e.1 fun _ => e.2).entries = t.entries ++ [e] :=
      upsertEntries_of_lt hlt fun _ => e.2
    have hsplit : (t.upsert e.1 fun _ => e.2).entries ++ rest = t.entries ++ e :: rest := by
      rw [hadded, List.append_assoc, List.singleton_append]
    rw [List.foldl_cons, ih _ (hsplit ▸ hasc), hsplit]

/-- **The entries of a table make up the table.** -/
theorem ofList_entries (t : Keyed β) : ofList t.entries = t :=
  ext_entries (foldl_upsert_entries t.entries empty t.ascending)

/-- A table is read back value by value. -/
theorem ofJson?_toJson {write : β → Json} {read : Json → Option β} {f : β → β}
    (h : ∀ v, read (write v) = some (f v)) (t : Keyed β) :
    ofJson? read (t.toJson write) = some (t.map f) := by
  have hentries : asTable? read (t.toJson write) = some (t.map f).entries := by
    rw [toJson, record, List.map_map, asTable?]
    refine mapM_map fun e _ => ?_
    simp [h]
  rw [ofJson?, hentries, Option.map_some, ofList_entries]

theorem isReadable_toJson {write : β → Json} (h : ∀ v, (write v).isReadable = true) (t : Keyed β) :
    (t.toJson write).isReadable = true := by
  simp [toJson, h]

end Keyed

/-! ### Snapshots -/

theorem Bucket.ofJson?_toJson (b : Bucket) : ofJson? (toJson b) = some (b.map Detail.settle) := by
  have hdetails : asList? Detail.ofJson? (.array (b.map Detail.toJson)) =
      some (b.map Detail.settle) :=
    mapM_map fun d _ => d.ofJson?_toJson
  simp [ofJson?, toJson, onlyField?_record, Json.optional, hdetails]

theorem Bucket.isReadable_toJson (b : Bucket) : (toJson b).isReadable = true := by
  simp [toJson, isReadable, Detail.isReadable_toJson]

namespace Snapshot

theorem modelsOfJson?_modelsToJson (models : Keyed Bucket) :
    modelsOfJson? (modelsToJson models) = some (models.map (·.map Detail.settle)) := by
  simp [modelsOfJson?, modelsToJson, onlyField?_record, Json.optional,
    Keyed.ofJson?_toJson Bucket.ofJson?_toJson]

/-- A snapshot is read back from the value that it is written as, settled. -/
theorem ofJson?_toJson (s : Snapshot) : ofJson? s.toJson = some s.settle := by
  simp [ofJson?, toJson, onlyField?_record, Json.optional, settle,
    Keyed.ofJson?_toJson modelsOfJson?_modelsToJson]

theorem isReadable_toJson (s : Snapshot) : s.toJson.isReadable = true := by
  have hmodels : ∀ models, (modelsToJson models).isReadable = true := fun models => by
    simp [modelsToJson, Keyed.isReadable_toJson Bucket.isReadable_toJson]
  simp [toJson, Keyed.isReadable_toJson hmodels]

/-- The text of the file that a snapshot is written to. -/
def fileText (s : Snapshot) : String :=
  s.toJson.pretty

/-- The snapshot that the text of a file holds, if it holds one. -/
def ofFileText? (content : String) : Option Snapshot :=
  (Json.parse? content).bind ofJson?

/-- **A snapshot is read back from its text**, settled. -/
theorem ofFileText?_fileText (s : Snapshot) : ofFileText? s.fileText = some s.settle := by
  rw [ofFileText?, fileText, Json.parse?_pretty s.isReadable_toJson, Option.bind_some,
    ofJson?_toJson]

end Snapshot

end UsageLedger
