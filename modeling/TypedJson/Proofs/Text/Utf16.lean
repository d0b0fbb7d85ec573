import TypedJson.Text.Utf16

/-!
Characters as UTF-16 and back. A character is one unit or a pair of surrogates, and a unit is two
bytes, so the bytes of a text are decoded as the text in either byte order.
-/

namespace TypedJson.Text.Utf16

/-- The bytes of a unit, in the order they stand. -/
def ByteOrder.bytes (order : ByteOrder) (unit : Nat) : List UInt8 :=
  match order with
  | .littleEndian => [UInt8.ofNat (unit % 256), UInt8.ofNat (unit / 256)]
  | .bigEndian => [UInt8.ofNat (unit / 256), UInt8.ofNat (unit % 256)]

/-- The units of a character: its code point where a unit has room for it, otherwise a pair of
surrogates that shares out what the code point has above that. -/
def unitsOfChar (c : Char) : List Nat :=
  if c.toNat < 0x10000 then [c.toNat]
  else [0xD800 + (c.toNat - 0x10000) / 1024, 0xDC00 + (c.toNat - 0x10000) % 1024]

/-- The bytes of a text. -/
def encode (order : ByteOrder) (cs : List Char) : List UInt8 :=
  (cs.flatMap unitsOfChar).flatMap order.bytes

variable {order : ByteOrder}

-----------------------------------------------------------------------------------------
-- Bytes and units
-----------------------------------------------------------------------------------------

theorem units_bytes {unit : Nat} (small : unit < 0x10000) (rest : List UInt8)
    : units order (order.bytes unit ++ rest) = some unit :: units order rest := by
  have high : (UInt8.ofNat (unit / 256)).toNat = unit / 256 :=
    UInt8.toNat_ofNat_of_lt' (by simp only [UInt8.size]; omega)
  have low : (UInt8.ofNat (unit % 256)).toNat = unit % 256 :=
    UInt8.toNat_ofNat_of_lt' (by simp only [UInt8.size]; omega)
  have whole : unit / 256 * 256 + unit % 256 = unit := Nat.div_add_mod' unit 256
  cases order <;>
    simp only [ByteOrder.bytes, List.cons_append, List.nil_append, units, ByteOrder.unit, high, low,
      whole]

theorem units_flatMap_bytes {sequence : List Nat} (small : ∀ unit ∈ sequence, unit < 0x10000)
    : units order (sequence.flatMap order.bytes) = sequence.map some := by
  induction sequence with
  | nil => rfl
  | cons unit rest ih =>
      rw [List.flatMap_cons, units_bytes (small unit (by simp)), List.map_cons,
        ih fun other hm => small other (by simp [hm])]

-----------------------------------------------------------------------------------------
-- Units and characters
-----------------------------------------------------------------------------------------

theorem lt_of_mem_unitsOfChar {c : Char} {unit : Nat} (mem : unit ∈ unitsOfChar c)
    : unit < 0x10000 := by
  have bound : c.toNat < 0x110000 := by
    have hvalid : c.toNat < 0xD800 ∨ 0xDFFF < c.toNat ∧ c.toNat < 0x110000 := c.valid
    omega
  unfold unitsOfChar at mem
  generalize c.toNat = n at bound mem
  split at mem
  · next small =>
      rw [List.mem_singleton.mp mem]
      exact small
  · simp only [List.mem_cons, List.not_mem_nil, or_false] at mem
    rcases mem with high | low
    · omega
    · omega

/-- The units of a character are decoded as it, by cases on how many there are. -/
theorem decodeUnits_unitsOfChar (c : Char) (rest : List (Option Nat))
    : decodeUnits none ((unitsOfChar c).map some ++ rest) = c :: decodeUnits none rest := by
  have hvalid : c.toNat < 0xD800 ∨ 0xDFFF < c.toNat ∧ c.toNat < 0x110000 := c.valid
  have hc : Char.ofNat c.toNat = c := Char.ofNat_toNat c
  unfold unitsOfChar
  generalize c.toNat = n at hvalid hc
  split
  · next small =>
      -- No character has the code point of a surrogate.
      have notHigh : isHigh n = false := by
        simp only [isHigh, Bool.and_eq_false_iff, decide_eq_false_iff_not]
        omega
      have notLow : isLow n = false := by
        simp only [isLow, Bool.and_eq_false_iff, decide_eq_false_iff_not]
        omega
      simp only [List.map_cons, List.map_nil, List.cons_append, List.nil_append, decodeUnits,
        notHigh, notLow, Bool.false_eq_true, if_false, hc]
  · next large =>
      have high : isHigh (0xD800 + (n - 0x10000) / 1024) = true := by
        simp only [isHigh, Bool.and_eq_true, decide_eq_true_eq]
        omega
      have low : isLow (0xDC00 + (n - 0x10000) % 1024) = true := by
        simp only [isLow, Bool.and_eq_true, decide_eq_true_eq]
        omega
      have code : 0x10000 + (n - 0x10000) / 1024 * 1024 + (n - 0x10000) % 1024 = n := by omega
      simp only [List.map_cons, List.map_nil, List.cons_append, List.nil_append, decodeUnits, high,
        low, if_true, pair, Nat.add_sub_cancel_left, code, hc]

theorem decodeUnits_flatMap (cs : List Char)
    : decodeUnits none ((cs.flatMap unitsOfChar).map some) = cs := by
  induction cs with
  | nil => rfl
  | cons c rest ih =>
      rw [List.flatMap_cons, List.map_append, decodeUnits_unitsOfChar, ih]

/-- The bytes of a text are decoded as the text. -/
theorem decodeLossy_encode (order : ByteOrder) (cs : List Char)
    : decodeLossy order (encode order cs) = cs := by
  have small : ∀ unit ∈ cs.flatMap unitsOfChar, unit < 0x10000 := by
    intro unit mem
    obtain ⟨c, _, hm⟩ := List.mem_flatMap.mp mem
    exact lt_of_mem_unitsOfChar hm
  rw [decodeLossy, encode, units_flatMap_bytes small, decodeUnits_flatMap]

end TypedJson.Text.Utf16
