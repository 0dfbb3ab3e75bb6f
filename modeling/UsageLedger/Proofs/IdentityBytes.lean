import UsageLedger.Proofs.Settling
import UsageLedger.Proofs.TextBytes

/-!
# The bytes that identify a record

The key of a record is the digest of a row of bytes, in which texts of any length and any
content stand one behind the other.  As each of them comes behind its length, the row can be
taken apart again from the front: where a text ends does not depend on what it holds.  So the
row tells all records apart whose instants are settled, and two of them have one key only if the
digest collides.  An instant that is not settled is spelled out like the settled one, and cannot
be told from it.

## Main definitions

* `Delimits` — what is written of a value shows where it ends, whatever follows.
* `Record.TextsFit` — the lengths of the texts of a record fit into eight bytes.
* `Sha256.Collides` — two different rows of bytes have one digest.

## Main results

* `Delimits.flatMap` — values are told apart in a row of them.
* `delimits_framedText`, `Count.delimits_bytes` — a text behind its length and a count show
  where they end.
* `Record.identityBytes_eq_iff` — records with the same bytes are the same once they are settled.
* `key_eq_iff_collides` — **settled records are told apart by their bytes, and by their keys unless
  the digest collides.**
* `identityBytes_prolongedRecord` — a record and the settled one have the same bytes.
-/

namespace UsageLedger

/-! ### Rows that can be taken apart -/

/-- What is written of a value shows where it ends, whatever follows, and from it the value is
known. -/
def Delimits {α β : Type} (p : α → Prop) (write : α → List β) : Prop :=
  ∀ a b x y, p a → p b → write a ++ x = write b ++ y → a = b ∧ x = y

/-- **Values are told apart in a row of them**, if there are equally many. -/
theorem Delimits.flatMap {α β : Type} {p : α → Prop} {write : α → List β} (hw : Delimits p write)
    {as bs : List α} (hlength : as.length = bs.length) (has : ∀ a ∈ as, p a) (hbs : ∀ b ∈ bs, p b)
    {x y : List β} (h : as.flatMap write ++ x = bs.flatMap write ++ y) : as = bs ∧ x = y := by
  induction as generalizing bs with
  | nil =>
    obtain rfl : bs = [] := List.eq_nil_of_length_eq_zero hlength.symm
    exact ⟨rfl, h⟩
  | cons a as ih =>
    obtain ⟨b, bs, rfl⟩ := List.exists_cons_of_length_eq_add_one hlength.symm
    rw [List.flatMap_cons, List.flatMap_cons, List.append_assoc, List.append_assoc] at h
    obtain ⟨rfl, hrest⟩ := hw a b _ _ (has a List.mem_cons_self) (hbs b List.mem_cons_self) h
    obtain ⟨rfl, rfl⟩ := ih (Nat.succ.inj hlength) (fun a ha => has a (List.mem_cons_of_mem _ ha))
      (fun b hb => hbs b (List.mem_cons_of_mem _ hb)) hrest
    exact ⟨rfl, rfl⟩

@[simp] theorem length_littleEndian (n value : Nat) : (littleEndian n value).length = n := by
  induction n generalizing value with
  | zero => rfl
  | succ n ih => rw [littleEndian, List.length_cons, ih]

/-- A number is known from its bytes, if they are enough for it. -/
theorem littleEndian_inj {n a b : Nat} (ha : a < 256 ^ n) (hb : b < 256 ^ n)
    (h : littleEndian n a = littleEndian n b) : a = b := by
  induction n generalizing a b with
  | zero => omega
  | succ n ih =>
    rw [littleEndian, littleEndian] at h
    obtain ⟨hlow, hhigh⟩ := List.cons.inj h
    have hrest : a / 256 = b / 256 := by
      refine ih ?_ ?_ hhigh
      · exact Nat.div_lt_of_lt_mul (by rwa [Nat.mul_comm, ← Nat.pow_succ])
      · exact Nat.div_lt_of_lt_mul (by rwa [Nat.mul_comm, ← Nat.pow_succ])
    have hbyte : a % 256 = b % 256 := congrArg UInt8.toNat hlow
    omega

/-- A text behind its length shows where it ends. -/
theorem delimits_framedText : Delimits (fun s : String => s.utf8ByteSize < 2 ^ 64) framedText := by
  intro s t x y hs ht h
  have hframed : ∀ (s : String) (z : List UInt8), framedText s ++ z =
      littleEndian 8 (Text.bytes s).length ++ (Text.bytes s ++ z) :=
        fun s z => List.append_assoc _ _ z
  rw [hframed, hframed] at h
  -- the lengths are told apart first, and then the bytes, of which there are equally many
  obtain ⟨hlengths, hrest⟩ := List.append_inj h (by simp)
  have hlength : (Text.bytes s).length = (Text.bytes t).length := by
    refine littleEndian_inj ?_ ?_ hlengths
    · rw [Text.length_bytes]
      exact hs
    · rw [Text.length_bytes]
      exact ht
  obtain ⟨hbytes, rfl⟩ := List.append_inj hrest hlength
  exact ⟨Text.bytes_inj.mp hbytes, rfl⟩

/-- A count is eight bytes, from which it is known. -/
theorem Count.delimits_bytes : Delimits (fun _ => True) Count.bytes := by
  intro a b x y _ _ h
  obtain ⟨hbytes, rfl⟩ := List.append_inj h (by simp [bytes])
  have hvalue := littleEndian_inj a.toUInt64.toNat_lt b.toUInt64.toNat_lt hbytes
  exact ⟨congrArg Int64.ofUInt64 (UInt64.toNat_inj.mp hvalue), rfl⟩

/-! ### Digests -/

namespace Sha256

/-- Two different rows of bytes have one digest. -/
def Collides (bytes bytes' : List UInt8) : Prop :=
  bytes ≠ bytes' ∧ digest bytes = digest bytes'

theorem delimits_hexByte : Delimits (fun _ => True) hexByte := by
  have hdigit : ∀ d < 16, ∀ e < 16, d.digitChar = e.digitChar → d = e := by decide
  intro a b x y _ _ h
  simp only [hexByte, List.cons_append, List.nil_append, List.cons.injEq] at h
  obtain ⟨hhigh, hlow, rfl⟩ := h
  have ha := a.toNat_lt
  have hb := b.toNat_lt
  have hhigh := hdigit (a.toNat / 16) (by omega) (b.toNat / 16) (by omega) hhigh
  have hlow := hdigit (a.toNat % 16) (by omega) (b.toNat % 16) (by omega) hlow
  exact ⟨UInt8.toNat_inj.mp (by omega), rfl⟩

@[simp] theorem length_digest (bytes : List UInt8) : (digest bytes).length = 32 := by
  simp [digest, State.words, bytesOfWord]

theorem hexDigest_eq_iff {bytes bytes' : List UInt8} :
    hexDigest bytes = hexDigest bytes' ↔ digest bytes = digest bytes' := by
  refine ⟨fun h => ?_, fun h => by rw [hexDigest, h, hexDigest]⟩
  have hchars : (digest bytes).flatMap hexByte ++ [] = (digest bytes').flatMap hexByte ++ [] := by
    rw [List.append_nil, List.append_nil]
    exact String.ofList_injective h
  exact (delimits_hexByte.flatMap (by simp) (by simp) (by simp) hchars).1

end Sha256

/-! ### Records -/

theorem Text.length_digits_le (n : Nat) : (digits n).length ≤ n + 1 := by
  induction n using digits.induct with
  | case1 n hn => simp [digits_of_lt hn]
  | case2 n hn ih =>
    rw [digits_of_le (Nat.not_lt.mp hn), List.length_append, List.length_singleton]
    omega

/-- The stored form of an instant is not long. -/
theorem Instant.utf8ByteSize_stored (t : Instant) : t.stored.utf8ByteSize < 2 ^ 64 := by
  -- only the year has no fixed width, and it is bounded
  have hyear := t.year_inRange
  have hpadded : (Text.padded 4 t.reading.date.year.natAbs).length ≤ 262144 := by
    have hdigits := Text.length_digits_le t.reading.date.year.natAbs
    rw [Text.padded]
    split
    · simp
    · omega
  have hlength : t.stored.length ≤ 262180 := by
    rw [stored, String.length_ofList, storedText, Reading.secondText, yearText]
    split
    · simp
    · simp
      omega
  -- a character takes four bytes at most
  have hsize := Text.utf8ByteSize_le t.stored
  omega

/-- The lengths of the texts of a record fit into eight bytes. -/
def Record.TextsFit (r : Record) : Prop :=
  ∀ s ∈ [r.apiKey, r.model, r.detail.source, r.detail.authIndex], s.utf8ByteSize < 2 ^ 64

instance (r : Record) : Decidable r.TextsFit :=
  inferInstanceAs (Decidable (∀ s ∈ [r.apiKey, r.model, r.detail.source, r.detail.authIndex],
    s.utf8ByteSize < 2 ^ 64))

namespace Record

variable {r r' : Record}

/-- The texts of a record in the order in which they are spelled out. -/
def texts (r : Record) : List String :=
  [r.apiKey, r.model, r.detail.timestamp.stored, r.detail.source, r.detail.authIndex]

theorem TextsFit.texts (h : r.TextsFit) : ∀ s ∈ r.texts, s.utf8ByteSize < 2 ^ 64 := by
  intro s hs
  have hstored := r.detail.timestamp.utf8ByteSize_stored
  simp only [TextsFit, Record.texts, List.mem_cons, List.not_mem_nil, or_false] at h hs
  rcases hs with rfl | rfl | rfl | rfl | rfl
  · exact h _ (by simp)
  · exact h _ (by simp)
  · exact hstored
  · exact h _ (by simp)
  · exact h _ (by simp)

/-- The settled record is known from its texts, its counts and whether it failed. -/
theorem settle_eq_of_texts (htexts : r.texts = r'.texts)
    (hcounts : r.detail.tokens.counts = r'.detail.tokens.counts)
    (hfailed : r.detail.failed = r'.detail.failed) : r.settle = r'.settle := by
  obtain ⟨apiKey, model, timestamp, source, authIndex,
    ⟨input, output, reasoning, cached, total⟩, failed⟩ := r
  obtain ⟨apiKey', model', timestamp', source', authIndex',
    ⟨input', output', reasoning', cached', total'⟩, failed'⟩ := r'
  simp only [texts, Tokens.counts, List.cons.injEq, and_true, Instant.stored_inj]
    at htexts hcounts hfailed
  obtain ⟨rfl, rfl, htime, rfl, rfl⟩ := htexts
  obtain ⟨rfl, rfl, rfl, rfl, rfl⟩ := hcounts
  obtain rfl := hfailed
  simp only [settle, Detail.settle, htime]

/-- **Records with the same bytes are the same once their instants are settled.** -/
theorem identityBytes_eq_iff (hr : r.TextsFit) (hr' : r'.TextsFit) :
    r.identityBytes = r'.identityBytes ↔ r.settle = r'.settle := by
  refine ⟨fun h => ?_, fun h => ?_⟩
  · -- the row is taken apart from the front: five texts, five counts, and the last byte
    have hsplit : ∀ r : Record, r.identityBytes = r.texts.flatMap framedText ++
        (r.detail.tokens.counts.flatMap Count.bytes ++ [if r.detail.failed then 1 else 0]) :=
      fun r => List.append_assoc _ _ _
    rw [hsplit, hsplit] at h
    have htextsLength : r.texts.length = r'.texts.length := rfl
    have hcountsLength : r.detail.tokens.counts.length = r'.detail.tokens.counts.length := rfl
    obtain ⟨htexts, hrest⟩ := delimits_framedText.flatMap htextsLength hr.texts hr'.texts h
    obtain ⟨hcounts, hlast⟩ :=
      Count.delimits_bytes.flatMap hcountsLength (by simp) (by simp) hrest
    refine settle_eq_of_texts htexts hcounts ?_
    cases hfailed : r.detail.failed <;> cases hfailed' : r'.detail.failed <;>
      simp [hfailed, hfailed'] at hlast ⊢
  · rw [← r.identityBytes_settle, h, r'.identityBytes_settle]

end Record

/-- **Records are told apart by their bytes once their instants are settled**, and unless they are
the same then, they have one key just if the digest collides. -/
theorem key_eq_iff_collides {r r' : Record} (hr : r.TextsFit) (hr' : r'.TextsFit) :
    (r.identityBytes = r'.identityBytes ↔ r.settle = r'.settle) ∧
      (r.Settled → r'.Settled → (r.identityBytes = r'.identityBytes ↔ r = r')) ∧
      (r.settle ≠ r'.settle →
        (r.key = r'.key ↔ Sha256.Collides r.identityBytes r'.identityBytes)) := by
  have hbytes := Record.identityBytes_eq_iff hr hr'
  refine ⟨hbytes, fun hs hs' => ?_, fun hne => ?_⟩
  · rw [hbytes, Record.settle_of_settled hs, Record.settle_of_settled hs']
  · rw [Record.key, Record.key, Sha256.hexDigest_eq_iff, Sha256.Collides, ne_eq, hbytes]
    exact (and_iff_right hne).symm

/-- A request in a leap second of the year 10000, and one in the second behind it, with a boundary
between two texts moved. -/
def borderRecords : Record × Record :=
  (⟨"ab", "c", { timestamp := .of 253402300859 1000000000 (by decide) }⟩,
    ⟨"a", "bc", { timestamp := .of 253402300860 0 (by decide) }⟩)

/-- The two have different bytes, and would have one key only if the digest collided. -/
theorem key_of_borderRecords :
    borderRecords.1.identityBytes ≠ borderRecords.2.identityBytes ∧
      (borderRecords.1.key = borderRecords.2.key ↔
        Sha256.Collides borderRecords.1.identityBytes borderRecords.2.identityBytes) := by
  have hne : borderRecords.1.settle ≠ borderRecords.2.settle := by decide
  have hfirst : borderRecords.1.TextsFit := by decide
  have hsecond : borderRecords.2.TextsFit := by decide
  obtain ⟨hbytes, -, hkey⟩ := key_eq_iff_collides hfirst hsecond
  exact ⟨fun h => hne (hbytes.mp h), hkey hne⟩

/-- **The bytes do not tell all records apart.**  A request in a second that is prolonged and
one in the next second are different, and have the same bytes and so the same key. -/
theorem identityBytes_prolongedRecord :
    prolongedRecord ≠ nextSecondRecord ∧
      prolongedRecord.identityBytes = nextSecondRecord.identityBytes ∧
      prolongedRecord.key = nextSecondRecord.key := by
  rw [← settle_prolongedRecord]
  exact ⟨by decide, prolongedRecord.identityBytes_settle.symm, prolongedRecord.key_settle.symm⟩

end UsageLedger
