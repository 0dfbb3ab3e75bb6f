import UsageLedger.Text.Utf8

/-!
# Texts and their bytes

Keys, models and stored timestamps are texts, and files and databases hold their bytes.  A text
is known from its bytes, and it comes before another one, character by character, exactly when
its bytes come before those of the other one, byte by byte: so it does not matter by which of
the two a table or a column is sorted.

## Main results

* `Text.bytes_inj` — a text is known from its bytes.
* `Text.encodeChar_lt` — the bytes of a character come before those of a later one, whatever
  follows.
* `Text.bytes_lt_iff` — **the order of texts is that of their bytes.**
-/

namespace UsageLedger.Text

theorem toList_eq_data (bs : ByteArray) : bs.toList = bs.data.toList := by
  have hloop : ∀ i read, ByteArray.toList.loop bs i read =
      read.reverse ++ bs.data.toList.drop i := by
    intro i read
    fun_induction ByteArray.toList.loop bs i read with
    | case1 i read hi ih =>
      have hlt : i < bs.data.toList.length := hi
      have hfirst : bs.get! i = bs.data.toList[i] := getElem!_pos bs.data i hi
      rw [ih, hfirst, List.reverse_cons, List.append_assoc, List.singleton_append,
        ← List.drop_eq_getElem_cons hlt]
    | case2 i read hi =>
      have hle : bs.data.toList.length ≤ i := Nat.not_lt.mp hi
      rw [List.drop_eq_nil_of_le hle, List.append_nil]
  exact hloop 0 []

theorem bytes_eq_flatMap (s : String) : bytes s = s.toList.flatMap String.utf8EncodeChar := by
  have hencoded : s.toByteArray = s.toList.utf8Encode := by
    rw [← String.toByteArray_ofList, String.ofList_toList]
  rw [bytes, String.toUTF8, hencoded, toList_eq_data, List.utf8Encode, List.toList_data_toByteArray]

/-- **A text is known from its bytes.** -/
theorem bytes_inj {s t : String} : bytes s = bytes t ↔ s = t := by
  refine ⟨fun h => ?_, congrArg bytes⟩
  rw [bytes, bytes, toList_eq_data, toList_eq_data] at h
  exact String.toByteArray_inj.mp (ByteArray.ext (Array.toList_inj.mp h))

@[simp] theorem length_bytes (s : String) : (bytes s).length = s.utf8ByteSize := by
  rw [bytes, toList_eq_data]
  rfl

theorem utf8ByteSize_le (s : String) : s.utf8ByteSize ≤ 4 * s.length := by
  have hbytes : ∀ cs : List Char, (cs.flatMap String.utf8EncodeChar).length ≤ 4 * cs.length := by
    intro cs
    induction cs with
    | nil => exact Nat.le_refl 0
    | cons c cs ih =>
      have hsize := c.utf8Size_le_four
      rw [List.flatMap_cons, List.length_append, String.length_utf8EncodeChar, List.length_cons]
      omega
  rw [← length_bytes, bytes_eq_flatMap, ← String.length_toList]
  exact hbytes s.toList

/-! ### The order of texts -/

/-- **The bytes of a character come before those of a later one**, whatever follows. -/
theorem encodeChar_lt {c d : Char} (h : c < d) (x y : List UInt8) :
    String.utf8EncodeChar c ++ x < String.utf8EncodeChar d ++ y := by
  have hlt : c.val.toNat < d.val.toNat := h
  have hmax : d.val.toNat < 0x110000 := by
    rcases d.valid with hd | hd <;> omega
  unfold String.utf8EncodeChar
  dsimp only
  generalize c.val.toNat = v at *
  generalize d.val.toNat = w at *
  -- each byte but the first holds one place of the number in base sixty-four
  have hplaces : ∀ n : Nat, n / 4096 = n / 64 / 64 ∧ n / 262144 = n / 64 / 64 / 64 := by
    intro n
    omega
  simp only [(hplaces v).1, (hplaces v).2, (hplaces w).1, (hplaces w).2]
  -- a character of more bytes has a greater first byte, and of equally many the first
  -- that differ tell
  repeat' split
  all_goals
    simp only [List.cons_append, List.nil_append, List.cons_lt_cons_iff, UInt8.lt_iff_toNat_lt,
      ← UInt8.toNat_inj, UInt8.toNat_ofNat']
    omega

/-- A text that comes before another one has bytes that come before those of the other one. -/
theorem flatMap_encodeChar_lt {cs ds : List Char} (h : cs < ds) :
    cs.flatMap String.utf8EncodeChar < ds.flatMap String.utf8EncodeChar := by
  induction cs generalizing ds with
  | nil =>
    cases ds with
    | nil => exact absurd h (List.lt_irrefl [])
    | cons d ds =>
      obtain ⟨b, bs, hbs⟩ := List.exists_cons_of_ne_nil (String.utf8EncodeChar_ne_nil (c := d))
      rw [List.flatMap_cons, hbs]
      exact List.nil_lt_cons _ _
  | cons c cs ih =>
    cases ds with
    | nil => exact absurd h (List.not_lt_nil _)
    | cons d ds =>
      rw [List.flatMap_cons, List.flatMap_cons]
      -- the first character that differs decides, and so do its bytes
      rcases List.cons_lt_cons_iff.mp h with hc | ⟨rfl, hcs⟩
      · exact encodeChar_lt hc _ _
      · exact List.append_left_lt (ih hcs)

/-- **The order of texts is that of their bytes.** -/
theorem bytes_lt_iff {s t : String} : bytes s < bytes t ↔ s < t := by
  have hmono : ∀ {s t : String}, s < t → bytes s < bytes t := by
    intro s t h
    rw [bytes_eq_flatMap, bytes_eq_flatMap]
    exact flatMap_encodeChar_lt (String.lt_iff.mp h)
  refine ⟨fun h => ?_, hmono⟩
  refine String.not_le.mp fun hts => ?_
  rcases Decidable.em (t = s) with rfl | hne
  · exact List.lt_irrefl _ h
  · have hlt : t < s := String.not_le.mp fun hst => hne (String.le_antisymm hts hst)
    exact List.lt_irrefl _ (List.lt_trans h (hmono hlt))

end UsageLedger.Text
