import TypedJson.Text.Utf8

/-!
Characters as bytes and back. The bytes of a character are decoded as one piece, which is that
character, so the bytes of a text are decoded as the text.
-/

namespace TypedJson.Text.Utf8

variable {pending : Pending} {byte n : Nat}

-----------------------------------------------------------------------------------------
-- Byte by byte
-----------------------------------------------------------------------------------------

theorem piecesAfter_begin (small : byte < 256) (lead : begin byte = .inr pending)
    (rest : List UInt8)
    : piecesAfter none (UInt8.ofNat byte :: rest) = piecesAfter (some pending) rest := by
  rw [piecesAfter, UInt8.toNat_ofNat_of_lt' small, lead]

/-- A continuation byte that is not the last one of its character. -/
theorem piecesAfter_more (low : pending.low ≤ n + 0x80) (high : n + 0x80 ≤ pending.high)
    (small : n < 64) (owed : 1 < pending.owed) (rest : List UInt8)
    : piecesAfter (some pending) (UInt8.ofNat (n + 0x80) :: rest)
        = piecesAfter
            (some ⟨pending.owed - 1, 0x80, 0xBF, pending.code * 64 + n, pending.width + 1⟩)
            rest := by
  have hn : (UInt8.ofNat (n + 0x80)).toNat = n + 0x80 :=
    UInt8.toNat_ofNat_of_lt' (by simp only [UInt8.size]; omega)
  rw [piecesAfter, hn, if_pos ⟨low, high⟩, if_neg (Nat.not_le.mpr owed), Nat.add_sub_cancel]

/-- The last byte of a character. -/
theorem piecesAfter_last (low : pending.low ≤ n + 0x80) (high : n + 0x80 ≤ pending.high)
    (small : n < 64) (owed : pending.owed ≤ 1) (rest : List UInt8)
    : piecesAfter (some pending) (UInt8.ofNat (n + 0x80) :: rest)
        = .char (Char.ofNat (pending.code * 64 + n)) :: piecesAfter none rest := by
  have hn : (UInt8.ofNat (n + 0x80)).toNat = n + 0x80 :=
    UInt8.toNat_ofNat_of_lt' (by simp only [UInt8.size]; omega)
  rw [piecesAfter, hn, if_pos ⟨low, high⟩, if_pos owed, Nat.add_sub_cancel]

/-- The first of two bytes. -/
theorem begin_two (low : 0x80 ≤ n) (high : n < 0x800)
    : begin (n / 64 + 0xC0) = .inr ⟨1, 0x80, 0xBF, n / 64, 1⟩ := by
  unfold begin
  rw [if_neg (by omega), if_neg (by omega), if_pos (by omega), Nat.add_sub_cancel]

/-- The first of three bytes, of which the second one is bounded more tightly behind the least
and behind the one that surrogates would have. -/
theorem begin_three (low : 0x800 ≤ n) (high : n < 0x10000)
    (scalar : n < 0xD800 ∨ 0xDFFF < n)
    : ∃ least greatest, begin (n / 4096 + 0xE0) = .inr ⟨2, least, greatest, n / 4096, 1⟩
        ∧ least ≤ n / 64 % 64 + 0x80 ∧ n / 64 % 64 + 0x80 ≤ greatest := by
  unfold begin
  rw [if_neg (by omega), if_neg (by omega), if_neg (by omega)]
  by_cases hzero : n / 4096 = 0
  · rw [if_pos (by omega), hzero]
    exact ⟨_, _, rfl, by omega, by omega⟩
  · rw [if_neg (by omega)]
    by_cases hd : n / 4096 = 0xD
    · rw [if_pos (by omega), hd]
      exact ⟨_, _, rfl, by omega, by omega⟩
    · rw [if_neg (by omega), if_pos (by omega), Nat.add_sub_cancel]
      exact ⟨_, _, rfl, by omega, by omega⟩

/-- The first of four bytes, of which the second one is bounded more tightly behind the least and
the greatest. -/
theorem begin_four (low : 0x10000 ≤ n) (high : n < 0x110000)
    : ∃ least greatest, begin (n / 262144 + 0xF0) = .inr ⟨3, least, greatest, n / 262144, 1⟩
        ∧ least ≤ n / 4096 % 64 + 0x80 ∧ n / 4096 % 64 + 0x80 ≤ greatest := by
  unfold begin
  rw [if_neg (by omega), if_neg (by omega), if_neg (by omega), if_neg (by omega),
    if_neg (by omega), if_neg (by omega)]
  by_cases hzero : n / 262144 = 0
  · rw [if_pos (by omega), hzero]
    exact ⟨_, _, rfl, by omega, by omega⟩
  · rw [if_neg (by omega)]
    by_cases hd : n / 262144 < 4
    · rw [if_pos (by omega), Nat.add_sub_cancel]
      exact ⟨_, _, rfl, by omega, by omega⟩
    · have hfour : n / 262144 = 4 := by omega
      rw [if_neg (by omega), if_pos (by omega), hfour]
      exact ⟨_, _, rfl, by omega, by omega⟩

-----------------------------------------------------------------------------------------
-- Characters and texts
-----------------------------------------------------------------------------------------

/-- The bytes of a character are one piece, by cases on how many there are. -/
theorem piecesAfter_utf8EncodeChar (c : Char) (rest : List UInt8)
    : piecesAfter none (String.utf8EncodeChar c ++ rest) = .char c :: piecesAfter none rest := by
  have hvalid : c.toNat < 0xD800 ∨ 0xDFFF < c.toNat ∧ c.toNat < 0x110000 := c.valid
  have hc : Char.ofNat c.toNat = c := Char.ofNat_toNat c
  have hval : c.val.toNat = c.toNat := rfl
  unfold String.utf8EncodeChar
  simp only [hval]
  generalize c.toNat = n at hvalid hc
  split
  · next hone =>
      have hbegin : begin n = .inl (.char c) := by
        rw [begin, if_pos (by omega), hc]
      have hn : (UInt8.ofNat n).toNat = n :=
        UInt8.toNat_ofNat_of_lt' (by simp only [UInt8.size]; omega)
      simp only [List.cons_append, List.nil_append, piecesAfter, hn, hbegin]
  · split
    · next hone htwo =>
        rw [Nat.mod_eq_of_lt (by omega : n / 64 < 0x20)]
        simp only [List.cons_append, List.nil_append]
        rw [piecesAfter_begin (by omega) (begin_two (by omega) (by omega)),
          piecesAfter_last (by simp only; omega) (by simp only; omega) (by omega) (by simp),
          Nat.div_add_mod', hc]
    · split
      · next hone htwo hthree =>
          obtain ⟨least, greatest, hbegin, hlow, hhigh⟩ :=
            begin_three (by omega) (by omega) (hvalid.imp id And.left : n < 0xD800 ∨ 0xDFFF < n)
          rw [Nat.mod_eq_of_lt (by omega : n / 4096 < 0x10)]
          simp only [List.cons_append, List.nil_append]
          rw [piecesAfter_begin (by omega) hbegin,
            piecesAfter_more hlow hhigh (by omega) (by simp),
            piecesAfter_last (by simp only; omega) (by simp only; omega) (by omega) (by simp)]
          have hcode : (n / 4096 * 64 + n / 64 % 64) * 64 + n % 64 = n := by omega
          rw [hcode, hc]
      · next hone htwo hthree =>
          obtain ⟨least, greatest, hbegin, hlow, hhigh⟩ := begin_four (n := n) (by omega) (by omega)
          rw [Nat.mod_eq_of_lt (by omega : n / 262144 < 0x08)]
          simp only [List.cons_append, List.nil_append]
          rw [piecesAfter_begin (by omega) hbegin,
            piecesAfter_more hlow hhigh (by omega) (by simp),
            piecesAfter_more (by simp only; omega) (by simp only; omega) (by omega) (by simp),
            piecesAfter_last (by simp only; omega) (by simp only; omega) (by omega) (by simp)]
          have hcode : ((n / 262144 * 64 + n / 4096 % 64) * 64 + n / 64 % 64) * 64 + n % 64
              = n := by omega
          rw [hcode, hc]

theorem pieces_encode (cs : List Char) : pieces (encode cs) = cs.map .char := by
  induction cs with
  | nil => rfl
  | cons c rest ih =>
      rw [encode, List.flatMap_cons, pieces, piecesAfter_utf8EncodeChar]
      exact congrArg (Piece.char c :: ·) ih

/-- The bytes of a text are decoded as the text. -/
theorem decodeLossy_encode (cs : List Char) : decodeLossy (encode cs) = cs := by
  rw [decodeLossy, pieces_encode, List.map_map]
  exact List.map_id cs

/-- The bytes of a text are its characters, one symbol each. -/
theorem symbols_encode (cs : List Char) : symbols (encode cs) = cs.map some := by
  rw [symbols, pieces_encode, List.flatMap_map]
  exact List.map_eq_flatMap.symm

theorem decode?_encode (cs : List Char) : decode? (encode cs) = some cs := by
  rw [decode?, pieces_encode]
  induction cs with
  | nil => rfl
  | cons c rest ih => rw [List.map_cons, List.mapM_cons, ih]; rfl

theorem encode_ne_nil {cs : List Char} (h : cs ≠ []) : encode cs ≠ [] := by
  obtain ⟨c, rest, rfl⟩ := List.exists_cons_of_ne_nil h
  simp [encode, String.utf8EncodeChar_ne_nil]

-----------------------------------------------------------------------------------------
-- ASCII
-----------------------------------------------------------------------------------------

theorem utf8Size_of_ascii {c : Char} (ascii : c.toNat < 0x80) : c.utf8Size = 1 :=
  Char.utf8Size_eq_one_iff.mpr (UInt32.le_iff_toNat_le.mpr (Nat.le_of_lt_succ ascii))

/-- A text in ASCII takes one byte for each character. -/
theorem size_of_ascii {cs : List Char} (ascii : ∀ c ∈ cs, c.toNat < 0x80)
    : size cs = cs.length := by
  induction cs with
  | nil => rfl
  | cons c rest ih =>
      rw [size, utf8Size_of_ascii (ascii c (by simp)),
        ih fun d hd => ascii d (List.mem_cons_of_mem c hd), List.length_cons, Nat.add_comm]

/-- And the byte is the number of the character. -/
theorem encode_of_ascii {cs : List Char} (ascii : ∀ c ∈ cs, c.toNat < 0x80)
    : encode cs = cs.map fun c => UInt8.ofNat c.toNat := by
  induction cs with
  | nil => rfl
  | cons c rest ih =>
      rw [encode, List.flatMap_cons,
        String.utf8EncodeChar_eq_singleton (utf8Size_of_ascii (ascii c (by simp)))]
      exact congrArg (_ :: ·) (ih fun d hd => ascii d (List.mem_cons_of_mem c hd))

-----------------------------------------------------------------------------------------
-- Offsets
-----------------------------------------------------------------------------------------

theorem size_append (front rest : List Char) : size (front ++ rest) = size front + size rest := by
  induction front with
  | nil => simp [size]
  | cons c front ih => rw [List.cons_append, size, size, ih, Nat.add_assoc]

theorem size_toList (text : String) : size text.toList = text.utf8ByteSize := by
  suffices h : ∀ cs : List Char, (String.ofList cs).utf8ByteSize = size cs by
    rw [← h, String.ofList_toList]
  intro cs
  induction cs with
  | nil => rfl
  | cons c rest ih =>
      rw [String.ofList_cons, String.utf8ByteSize_append, ih, String.utf8ByteSize_singleton, size]

/-- A text in two parts, if a character ends behind its first so many bytes. -/
def split? : Nat → List Char → Option (List Char × List Char)
  | 0, text => some ([], text)
  | _ + 1, [] => none
  | n + 1, c :: rest =>
      if c.utf8Size ≤ n + 1 then
        (split? (n + 1 - c.utf8Size) rest).map fun (front, rest) => (c :: front, rest)
      else none

/-- A text is parted behind any of its fronts, by induction on the front. -/
theorem split?_append (front rest : List Char)
    : split? (size front) (front ++ rest) = some (front, rest) := by
  induction front with
  | nil => rw [size, split?, List.nil_append]
  | cons c front ih =>
      obtain ⟨n, hn⟩ := Nat.exists_eq_succ_of_ne_zero (Nat.ne_of_gt c.utf8Size_pos)
      have hsize : size (c :: front) = n + size front + 1 := by rw [size, hn]; omega
      have hleft : n + size front + 1 - c.utf8Size = size front := by omega
      rw [List.cons_append, hsize, split?, if_pos (by omega), hleft, ih]
      rfl

/-- And nowhere else. -/
theorem split?_eq_some_iff {n : Nat} {text front rest : List Char}
    : split? n text = some (front, rest) ↔ text = front ++ rest ∧ size front = n := by
  constructor
  · intro h
    induction n, text using split?.induct generalizing front rest with
    | case1 text =>
        rw [split?] at h
        obtain ⟨rfl, rfl⟩ := Prod.mk.inj (Option.some.inj h)
        exact ⟨rfl, rfl⟩
    | case2 => cases h
    | case3 n c text fits ih =>
        rw [split?, if_pos fits, Option.map_eq_some_iff] at h
        obtain ⟨⟨front, rest⟩, hs, he⟩ := h
        obtain ⟨rfl, rfl⟩ := Prod.mk.inj he
        obtain ⟨rfl, hsize⟩ := ih hs
        exact ⟨rfl, by rw [size]; omega⟩
    | case4 n c text fits =>
        rw [split?, if_neg fits] at h
        cases h
  · rintro ⟨rfl, rfl⟩
    exact split?_append front rest

/-- Behind a front of the text is a place between its characters. -/
theorem isValid_of_append {text : String} {front rest : List Char}
    (h : text.toList = front ++ rest)
    : (⟨size front⟩ : String.Pos.Raw).IsValid text := by
  rw [String.Pos.Raw.isValid_iff_exists_append]
  refine ⟨String.ofList front, String.ofList rest, ?_, ?_⟩
  · rw [← String.ofList_append, ← h, String.ofList_toList]
  · rw [String.Pos.Raw.ext_iff, String.byteIdx_rawEndPos, ← size_toList, String.toList_ofList]

end TypedJson.Text.Utf8
