import UsageLedger.Text.Basic

/-!
# Texts in UTF-8

A text is kept as the bytes of its characters in UTF-8.  Bytes that come from elsewhere need not
be those of a text; whoever reads them as one is told where they cease to be.

## Main definitions

* `Text.bytes`: the bytes of a text.
* `Text.Utf8Fault`, `Text.utf8Fault`: where bytes cease to be those of a text.
-/

namespace UsageLedger.Text

/-- The bytes of a text. -/
def bytes (s : String) : List UInt8 :=
  s.toUTF8.toList

/-- Where bytes cease to be those of a text. -/
structure Utf8Fault where
  /-- The number of bytes in front that are those of a text. -/
  valid : Nat
  /-- The number of bytes behind them with which no character begins, unless the bytes end
  inside of a character. -/
  wrong? : Option Nat
  deriving DecidableEq

/-- The wording of a fault. -/
def Utf8Fault.message (f : Utf8Fault) : String :=
  match f.wrong? with
  | some n => "invalid utf-8 sequence of " ++ ofNat n ++ " bytes from index " ++ ofNat f.valid
  | none => "incomplete utf-8 byte sequence from index " ++ ofNat f.valid

/-- How many bytes follow the first one of a character, and between which ends the next of them
lies; nothing if no character begins with the byte. -/
def following? (b : UInt8) : Option (Nat × UInt8 × UInt8) :=
  if b < 0x80 then some (0, 0x80, 0xBF)
  else if b < 0xC2 then none
  else if b < 0xE0 then some (1, 0x80, 0xBF)
  else if b = 0xE0 then some (2, 0xA0, 0xBF)
  else if b = 0xED then some (2, 0x80, 0x9F)
  else if b < 0xF0 then some (2, 0x80, 0xBF)
  else if b = 0xF0 then some (3, 0x90, 0xBF)
  else if b < 0xF4 then some (3, 0x80, 0xBF)
  else if b = 0xF4 then some (3, 0x80, 0x8F)
  else none

/-- Where bytes cease to be those of a text, behind `valid` bytes that are and `read` bytes of a
character of which others are missing, the next of them between `low` and `high`. -/
def utf8FaultFrom (valid read missing : Nat) (low high : UInt8) : List UInt8 → Utf8Fault
  | [] => ⟨valid, none⟩
  | b :: bs =>
    match missing with
    | 0 =>
      match following? b with
      | some (missing, low, high) => utf8FaultFrom (valid + read) 1 missing low high bs
      | none => ⟨valid + read, some 1⟩
    | missing + 1 =>
      if low ≤ b ∧ b ≤ high then utf8FaultFrom valid (read + 1) missing 0x80 0xBF bs
      else ⟨valid, some read⟩

/-- Where bytes that are not those of a text cease to be. -/
def utf8Fault (bs : List UInt8) : Utf8Fault :=
  utf8FaultFrom 0 0 0 0x80 0xBF bs

/-- The euro sign without its last byte, behind a letter. -/
example : utf8Fault [0x66, 0xE2, 0x82] = ⟨1, none⟩ := by decide

/-- Half of a pair of surrogates. -/
example : utf8Fault [0xED, 0xA0, 0x80] = ⟨0, some 1⟩ := by decide

end UsageLedger.Text
