import UsageLedger.Event
import UsageLedger.Proofs.SnapshotText

/-!
# What JSON keeps

Counts, details, events and snapshots travel as JSON texts, between processes and through files.
Each is read back from either of the texts that it is written as, whatever its strings, counts
and instants are, but for one thing: an instant that is not settled is written like the settled
one, and comes back as it. No reader makes such an instant.

The reader accepts more texts than the writer makes: fields in another order, fields missing or
unknown, records as arrays, other spellings of an instant.  What it accepts has one written form
nevertheless, which stays what it is when it is read and written again, and which two texts
share just when they are read as the same value.

## Main definitions

* `Event.settle`, `Event.Settled` — an event with the settled instant, and whether it has it.
* `Json.decode`, `Json.recode` — the value that a text is read as, and that value written again.
* `Json.RoundTrips` — what holds of a writer and a reader between which only settling changes a
  value.

## Main results

* `Event.ofJson?_toJson` — an event is read back, settled, from the value that it is written as.
* `Detail.settled_of_ofJson?`, `Event.settled_of_ofJson?`, `Snapshot.settled_of_ofJson?` — what
  is read is settled.
* `Json.roundTrips_of_readBack` — it is enough that values are read back, and have no unreadable
  string.
* `json_roundTrips` — **only settling changes counts, details, events and snapshots.**
-/

namespace UsageLedger

/-! ### Counts and events -/

theorem Tokens.isReadable_toJson (t : Tokens) : t.toJson.isReadable = true := by
  simp [toJson, fieldNames, counts, Count.toJson, Json.whole, Json.isReadable]

namespace Event

open Json

/-- The time of the event, if it has one, is settled. -/
def Settled (e : Event) : Prop :=
  ∀ t, e.requestedAt = some t → t.Settled

/-- The event with the settled instant. -/
def settle (e : Event) : Event :=
  { e with requestedAt := e.requestedAt.map Instant.settle }

theorem settle_eq_self_iff {e : Event} : e.settle = e ↔ e.Settled := by
  obtain ⟨requestedAt, apiKey, provider, model, source, authIndex, failed, tokens⟩ := e
  cases requestedAt <;> simp [settle, Settled, Instant.settle_eq_self_iff]

/-- A time is not written as `null`, which stands for none. -/
theorem requestedAtOfJson?_toJson (t : Option Instant) :
    requestedAtOfJson? (t.elim .null Instant.toJson) = some (t.map Instant.settle) := by
  cases t with
  | none => rfl
  | some t =>
    show (Instant.ofJson? t.toJson).map some = _
    rw [Instant.ofJson?_toJson, Option.map_some, Option.map_some]

/-- An event is read back from the value that it is written as, settled. -/
theorem ofJson?_toJson (e : Event) : ofJson? e.toJson = some e.settle := by
  have hnames : fieldNames.Nodup := by decide
  have hfields : e.toJson.fields? fieldNames = some [some (e.requestedAt.elim .null Instant.toJson),
      some (text e.apiKey), some (text e.provider), some (text e.model), some (text e.source),
      some (text e.authIndex), some (.bool e.failed), some e.tokens.toJson] :=
    fields?_record (fieldNames.zip
      [e.requestedAt.elim .null Instant.toJson, text e.apiKey, text e.provider, text e.model,
        text e.source, text e.authIndex, .bool e.failed, e.tokens.toJson]) hnames
  simp [ofJson?, hfields, Json.optional, requestedAtOfJson?_toJson, Tokens.ofJson?_toJson, asText?,
    text, asBool?, settle]

theorem isReadable_toJson (e : Event) : e.toJson.isReadable = true := by
  have htime : (e.requestedAt.elim .null Instant.toJson).isReadable = true := by
    cases e.requestedAt <;> rfl
  simp [toJson, fieldNames, htime, Tokens.isReadable_toJson, text, isReadable]

end Event

/-! ### What is read is settled -/

open Json

theorem Json.exists_of_required {α : Type} {read : Json → Option α} {field : Option Json} {a : α}
    (h : required read field = some a) : ∃ v, read v = some a := by
  cases field with
  | none => cases h
  | some v => exact ⟨v, h⟩

theorem Json.exists_of_optional {α : Type} {read : Json → Option α} {missing : α}
    {field : Option Json} {a : α} (h : optional read missing field = some a) :
    a = missing ∨ ∃ v, read v = some a := by
  cases field with
  | none => exact .inl (Option.some.inj h).symm
  | some v => exact .inr ⟨v, h⟩

theorem Instant.settled_of_ofJson? {v : Json} {t : Instant} (h : ofJson? v = some t) :
    t.Settled := by
  obtain ⟨text, -, hread⟩ := Option.bind_eq_some_iff.mp h
  exact settled_of_readLenient? hread

/-- What a reader of details makes of any value is settled. -/
theorem Detail.settled_of_ofJson? {v : Json} {d : Detail} (h : ofJson? v = some d) : d.Settled := by
  obtain ⟨fields, -, h⟩ := Option.bind_eq_some_iff.mp h
  split at h
  · -- no field but the first one has a say in the instant
    simp only [Option.bind_eq_bind, Option.bind_eq_some_iff, Option.some.injEq] at h
    obtain ⟨t, ht, -, -, -, -, -, -, -, -, rfl⟩ := h
    obtain ⟨v, hread⟩ := Json.exists_of_required ht
    exact Instant.settled_of_ofJson? hread
  · cases h

theorem Event.settled_of_requestedAtOfJson? {v : Json} {t : Instant}
    (h : requestedAtOfJson? v = some (some t)) : t.Settled := by
  rw [requestedAtOfJson?.eq_def] at h
  split at h
  · cases h
  · obtain ⟨t', ht', heq⟩ := Option.map_eq_some_iff.mp h
    exact Option.some.inj heq ▸ Instant.settled_of_ofJson? ht'

/-- What a reader of events makes of any value is settled. -/
theorem Event.settled_of_ofJson? {v : Json} {e : Event} (h : ofJson? v = some e) : e.Settled := by
  obtain ⟨fields, -, h⟩ := Option.bind_eq_some_iff.mp h
  split at h
  · simp only [Option.bind_eq_bind, Option.bind_eq_some_iff, Option.some.injEq] at h
    obtain ⟨requestedAt, hrequestedAt, -, -, -, -, -, -, -, -, -, -, -, -, -, -, rfl⟩ := h
    intro t ht
    obtain rfl : requestedAt = some t := ht
    rcases Json.exists_of_optional hrequestedAt with hnone | ⟨v, hread⟩
    · cases hnone
    · exact settled_of_requestedAtOfJson? hread
  · cases h

/-- What is read item by item comes from the items. -/
theorem Json.exists_of_mem_mapM {α β : Type} {read : α → Option β} {xs : List α} {ys : List β}
    (h : xs.mapM read = some ys) {y : β} (hy : y ∈ ys) : ∃ x ∈ xs, read x = some y := by
  induction xs generalizing ys with
  | nil =>
    cases h
    cases hy
  | cons x xs ih =>
    simp only [List.mapM_cons, Option.bind_eq_bind, Option.bind_eq_some_iff] at h
    obtain ⟨z, hz, zs, hzs, heq⟩ := h
    obtain rfl := Option.some.inj heq
    rcases List.mem_cons.mp hy with rfl | hy
    · exact ⟨x, List.mem_cons_self, hz⟩
    · obtain ⟨x', hx', hread⟩ := ih hzs hy
      exact ⟨x', List.mem_cons_of_mem _ hx', hread⟩

/-- The values of a table that is made entry by entry are those of the entries. -/
theorem Keyed.mem_of_get?_ofList {β : Type} {entries : List (String × β)} {k : String} {v : β}
    (h : (ofList entries).get? k = some v) : ∃ e ∈ entries, e.2 = v := by
  -- the keyed list is built up from the front, so the claim is about any start
  have hall : ∀ (entries : List (String × β)) (t : Keyed β),
      (entries.foldl (fun t e => t.upsert e.1 fun _ => e.2) t).get? k = some v →
        t.get? k = some v ∨ ∃ e ∈ entries, e.2 = v := by
    intro entries
    induction entries with
    | nil => exact fun t ht => .inl ht
    | cons e entries ih =>
      intro t ht
      rcases ih _ ht with hold | ⟨e', he', hv⟩
      · rw [get?_upsert] at hold
        split at hold
        · exact .inr ⟨e, List.mem_cons_self, Option.some.inj hold⟩
        · exact .inl hold
      · exact .inr ⟨e', List.mem_cons_of_mem _ he', hv⟩
  exact (hall entries empty h).resolve_left (by simp)

theorem Keyed.exists_of_ofJson? {β : Type} {read : Json → Option β} {v : Json} {t : Keyed β}
    (h : ofJson? read v = some t) {k : String} {b : β} (hb : t.get? k = some b) :
    ∃ v', read v' = some b := by
  obtain ⟨entries, hentries, rfl⟩ := Option.map_eq_some_iff.mp h
  obtain ⟨e, he, rfl⟩ := mem_of_get?_ofList hb
  cases v with
  | object fields =>
    obtain ⟨⟨name, v'⟩, -, hread⟩ := Json.exists_of_mem_mapM hentries he
    simp only [Option.bind_eq_bind, Option.bind_eq_some_iff, Option.some.injEq] at hread
    obtain ⟨-, -, b, hb, rfl⟩ := hread
    exact ⟨v', hb⟩
  | _ => cases hentries

theorem Bucket.settled_of_ofJson? {v : Json} {b : Bucket} (h : ofJson? v = some b) :
    ∀ d ∈ b, d.Settled := by
  intro d hd
  obtain ⟨field, -, hfield⟩ := Option.bind_eq_some_iff.mp h
  rcases Json.exists_of_optional hfield with rfl | ⟨v, hread⟩
  · cases hd
  · cases v with
    | array items =>
      obtain ⟨v, -, hv⟩ := Json.exists_of_mem_mapM hread hd
      exact Detail.settled_of_ofJson? hv
    | _ => cases hread

namespace Snapshot

theorem settled_of_modelsOfJson? {v : Json} {models : Keyed Bucket}
    (h : modelsOfJson? v = some models) {m : String} {b : Bucket} (hb : models.get? m = some b) :
    ∀ d ∈ b, d.Settled := by
  obtain ⟨field, -, hfield⟩ := Option.bind_eq_some_iff.mp h
  rcases Json.exists_of_optional hfield with rfl | ⟨v, hread⟩
  · cases hb
  · obtain ⟨v, hv⟩ := Keyed.exists_of_ofJson? hread hb
    exact Bucket.settled_of_ofJson? hv

/-- What a reader of snapshots makes of any value is settled. -/
theorem settled_of_ofJson? {v : Json} {s : Snapshot} (h : ofJson? v = some s) :
    ∀ r ∈ s.records, r.Settled := by
  intro r hr
  rw [ofJson?] at h
  simp only [Option.bind_eq_bind, Option.bind_eq_some_iff, Option.some.injEq] at h
  obtain ⟨field, -, apis, hfield, rfl⟩ := h
  obtain ⟨bucket, hbucket, hd⟩ : ∃ bucket, bucket? ⟨apis⟩ r.apiKey r.model = some bucket ∧
      r.detail ∈ bucket := by
    have hd := (mem_records_iff _ r).mp hr
    rw [details] at hd
    cases hb : bucket? ⟨apis⟩ r.apiKey r.model with
    | none =>
      rw [hb] at hd
      cases hd
    | some bucket => exact ⟨bucket, rfl, by rwa [hb] at hd⟩
  obtain ⟨models, hmodels, hbucket⟩ := Option.bind_eq_some_iff.mp hbucket
  -- a snapshot without the field has no levels, and so no records
  rcases Json.exists_of_optional hfield with rfl | ⟨v, hread⟩
  · cases hmodels
  · obtain ⟨v, hv⟩ := Keyed.exists_of_ofJson? hread hmodels
    exact settled_of_modelsOfJson? hv hbucket r.detail hd

end Snapshot

/-! ### Writers and readers -/

namespace Json

variable {α : Type} {write : α → Json} {read : Json → Option α} {settle : α → α}
    {Settled : α → Prop}

/-- The value that a text is read as. -/
def decode (read : Json → Option α) (content : String) : Option α :=
  (parse? content).bind read

/-- The value that a text is read as, written again. -/
def recode (write : α → Json) (read : Json → Option α) (layout : Json → String) (content : String) :
    Option String :=
  (decode read content).map fun a => layout (write a)

/-- Only settling changes a value between a writer and a reader. -/
structure RoundTrips (settle : α → α) (Settled : α → Prop) (write : α → Json)
    (read : Json → Option α) : Prop where
  /-- A value written on one line is read back, settled. -/
  decode_compact : ∀ a, decode read (write a).compact = some (settle a)
  /-- A value written over several lines is read back, settled. -/
  decode_pretty : ∀ a, decode read (write a).pretty = some (settle a)
  /-- Settled values, and no others, are read back as they are. -/
  settle_eq_iff : ∀ a, settle a = a ↔ Settled a
  /-- What is read from any text is settled. -/
  settled_of_decode : ∀ content a, decode read content = some a → Settled a
  /-- What a text is written as again stays what it is from then on. -/
  canonical : ∀ layout ∈ [compact, pretty], ∀ content content',
    recode write read layout content = some content' →
      recode write read layout content' = some content'
  /-- Two texts have one canonical form just when they are read as the same value. -/
  recode_eq_iff : ∀ layout ∈ [compact, pretty], ∀ content content',
    recode write read layout content = recode write read layout content' ↔
      decode read content = decode read content'

/-- **Only settling changes a value** where values are read back settled, nothing else is read,
and no value has an unreadable string. -/
theorem roundTrips_of_readBack (hread : ∀ a, read (write a) = some (settle a))
    (hsettle : ∀ a, settle a = a ↔ Settled a) (hsettled : ∀ v a, read v = some a → Settled a)
    (hreadable : ∀ a, (write a).isReadable = true) : RoundTrips settle Settled write read := by
  have hcompact : ∀ a, decode read (write a).compact = some (settle a) := by
    intro a
    rw [decode, parse?_compact (hreadable a), Option.bind_some, hread]
  have hpretty : ∀ a, decode read (write a).pretty = some (settle a) := by
    intro a
    rw [decode, parse?_pretty (hreadable a), Option.bind_some, hread]
  have hdecode : ∀ layout ∈ [compact, pretty], ∀ a, decode read (layout (write a)) =
      some (settle a) := by
    intro layout hlayout
    simp only [List.mem_cons, List.not_mem_nil, or_false] at hlayout
    rcases hlayout with rfl | rfl
    · exact hcompact
    · exact hpretty
  have hmade : ∀ content a, decode read content = some a → Settled a := by
    intro content a h
    obtain ⟨v, -, hv⟩ := Option.bind_eq_some_iff.mp h
    exact hsettled v a hv
  refine ⟨hcompact, hpretty, hsettle, hmade, fun layout hlayout content content' h => ?_,
    fun layout hlayout content content' => ⟨fun h => ?_, fun h => by rw [recode, h, recode]⟩⟩
  · obtain ⟨a, ha, rfl⟩ := Option.map_eq_some_iff.mp h
    rw [recode, hdecode layout hlayout a, (hsettle a).mpr (hmade content a ha), Option.map_some]
  · -- a canonical form is read as the value that it was made from, which is settled
    have hback : ∀ content, (recode write read layout content).bind (decode read) =
        decode read content := by
      intro content
      rw [recode]
      cases ha : decode read content with
      | none => rfl
      | some a =>
        rw [Option.map_some, Option.bind_some, hdecode layout hlayout a,
          (hsettle a).mpr (hmade content a ha)]
    rw [← hback content, h, hback content']

end Json

/-- **Only settling changes counts, details, events and snapshots** when they are written as
JSON, on one line or over several, and read again.  Whatever is read is settled, and so has one
canonical form in each of the two. -/
theorem json_roundTrips :
    Json.RoundTrips id (fun _ => True) Tokens.toJson Tokens.ofJson? ∧
      Json.RoundTrips Detail.settle Detail.Settled Detail.toJson Detail.ofJson? ∧
      Json.RoundTrips Event.settle Event.Settled Event.toJson Event.ofJson? ∧
      Json.RoundTrips Snapshot.settle (fun s => ∀ r ∈ s.records, r.Settled)
        Snapshot.toJson Snapshot.ofJson? := by
  refine ⟨?_, ?_, ?_, ?_⟩
  · exact Json.roundTrips_of_readBack Tokens.ofJson?_toJson (by simp) (by simp)
      Tokens.isReadable_toJson
  · exact Json.roundTrips_of_readBack Detail.ofJson?_toJson (fun _ => Detail.settle_eq_self_iff)
      (fun _ _ => Detail.settled_of_ofJson?) Detail.isReadable_toJson
  · exact Json.roundTrips_of_readBack Event.ofJson?_toJson (fun _ => Event.settle_eq_self_iff)
      (fun _ _ => Event.settled_of_ofJson?) Event.isReadable_toJson
  · exact Json.roundTrips_of_readBack Snapshot.ofJson?_toJson (fun _ => Snapshot.settle_eq_self_iff)
      (fun _ _ => Snapshot.settled_of_ofJson?) Snapshot.isReadable_toJson

/-- Counts in an array, of which the last ones are missing, have the canonical form of a record. -/
example : Json.recode Tokens.toJson Tokens.ofJson? Json.compact "[1, 2]" = some
    ("\x7b\"input_tokens\":1,\"output_tokens\":2,\"reasoning_tokens\":0," ++
      "\"cached_tokens\":0,\"total_tokens\":0\x7d") := by
  cbv

/-- **Not every detail comes back as it was written**: that of a second that is prolonged comes
back as one of the next second. -/
theorem decode_prolongedRecord :
    Json.decode Detail.ofJson? prolongedRecord.detail.toJson.compact =
        some nextSecondRecord.detail ∧
      nextSecondRecord.detail ≠ prolongedRecord.detail := by
  have hread : Json.decode Detail.ofJson? prolongedRecord.detail.toJson.compact =
      some prolongedRecord.detail.settle := by
    rw [Json.decode, Json.parse?_compact prolongedRecord.detail.isReadable_toJson, Option.bind_some,
      Detail.ofJson?_toJson]
  exact ⟨hread.trans (congrArg (fun r => some r.detail) settle_prolongedRecord), by decide⟩

end UsageLedger
