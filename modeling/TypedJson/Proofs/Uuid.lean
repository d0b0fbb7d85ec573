import Mathlib.Data.Nat.Digits.Lemmas
import TypedJson.Proofs.Text.Digits
import TypedJson.Proofs.Text.Utf8
import TypedJson.Uuid

/-!
Identifiers as texts. Of the spellings in which an identifier is read, one is the form in which
every identifier is written: 32 digits in lower case, in five groups with hyphens between. It
takes 36 bytes, so it is read by its groups, and the digits are the places of the number.
-/

namespace TypedJson.Uuid

-----------------------------------------------------------------------------------------
-- Places of a number
-----------------------------------------------------------------------------------------

/-- The last places of a number in base sixteen, so many of them. -/
def places (width n : Nat) : List Nat :=
  (List.range width).map fun i => n >>> (4 * (width - 1 - i)) % 16

theorem places_succ (width n : Nat)
    : places (width + 1) n = places width (n / 16) ++ [n % 16] := by
  have last : n >>> (4 * (width + 1 - 1 - width)) % 16 = n % 16 := by
    rw [Nat.add_sub_cancel, Nat.sub_self, Nat.mul_zero, Nat.shiftRight_zero]
  have earlier : ∀ i ∈ List.range width,
      n >>> (4 * (width + 1 - 1 - i)) % 16 = (n / 16) >>> (4 * (width - 1 - i)) % 16 := by
    intro i hi
    have below : i < width := List.mem_range.mp hi
    have hshift : 4 * (width + 1 - 1 - i) = 4 + 4 * (width - 1 - i) := by omega
    rw [hshift, Nat.shiftRight_add, Nat.shiftRight_eq_div_pow n 4]
  rw [places, List.range_succ, List.map_append, List.map_singleton, last, places,
    List.map_congr_left earlier]

theorem length_places (width n : Nat) : (places width n).length = width := by
  rw [places, List.length_map, List.length_range]

theorem lt_of_mem_places {width n v : Nat} (h : v ∈ places width n) : v < 16 := by
  obtain ⟨i, _, rfl⟩ := List.mem_map.mp h
  exact Nat.mod_lt _ (by decide)

/-- The places of a number that has no more of them make up the number, by induction from the
last place. -/
theorem ofDigits_places {width n : Nat} (small : n < 16 ^ width)
    : Nat.ofDigits 16 (places width n).reverse = n := by
  induction width generalizing n with
  | zero =>
      obtain rfl : n = 0 := by simpa using small
      rfl
  | succ width ih =>
      have rest : n / 16 < 16 ^ width := Nat.div_lt_of_lt_mul (Nat.pow_succ' ▸ small)
      rw [places_succ, List.reverse_append, List.reverse_singleton, List.singleton_append,
        Nat.ofDigits_cons, ih rest]
      exact Nat.mod_add_div n 16

theorem ofDigits_lt {values : List Nat} (small : ∀ v ∈ values, v < 16)
    : Nat.ofDigits 16 values.reverse < 16 ^ values.length := by
  rw [← List.length_reverse]
  exact Nat.ofDigits_lt_base_pow_length (by decide) fun v hv => small v (List.mem_reverse.mp hv)

/-- They are the only places of it. -/
theorem eq_places {values : List Nat} (small : ∀ v ∈ values, v < 16)
    : values = places values.length (Nat.ofDigits 16 values.reverse) := by
  refine List.reverse_injective (Nat.ofDigits_inj_of_len_eq (show 1 < 16 by decide) ?_ ?_ ?_ ?_)
  · rw [List.length_reverse, List.length_reverse, length_places]
  · exact fun v hv => small v (List.mem_reverse.mp hv)
  · exact fun v hv => lt_of_mem_places (List.mem_reverse.mp hv)
  · exact (ofDigits_places (ofDigits_lt small)).symm

-----------------------------------------------------------------------------------------
-- The form of an identifier
-----------------------------------------------------------------------------------------

/-- Digits in five groups. -/
def hyphenated (digits : List Char) : List Char :=
  digits.take 8 ++ '-' :: (digits.drop 8).take 4 ++ '-' :: (digits.drop 12).take 4
    ++ '-' :: (digits.drop 16).take 4 ++ '-' :: digits.drop 20

/-- The form in which identifiers are written: 32 digits in lower case, in five groups. -/
def Form (text : List Char) : Prop :=
  ∃ values : List Nat, values.length = 32 ∧ (∀ v ∈ values, v < 16)
    ∧ text = hyphenated (values.map Text.hexDigit)

theorem digits_eq_map_places (id : Uuid)
    : id.digits = (places 32 id.value.toNat).map Text.hexDigit := by
  rw [digits, places, List.map_map]
  rfl

theorem form_text (id : Uuid) : Form id.text :=
  ⟨places 32 id.value.toNat, length_places 32 _, fun _ => lt_of_mem_places,
    congrArg hyphenated id.digits_eq_map_places⟩

-----------------------------------------------------------------------------------------
-- Reading the form
-----------------------------------------------------------------------------------------

theorem groups_append {run : List Char} (joined : ∀ c ∈ run, c ≠ '-') (rest : List Char)
    : groups (run ++ '-' :: rest) = run :: groups rest := by
  induction run with
  | nil => rfl
  | cons c run ih =>
      rw [List.cons_append, groups, if_neg (joined c (by simp)),
        ih fun d hd => joined d (List.mem_cons_of_mem c hd)]

theorem groups_joined {run : List Char} (joined : ∀ c ∈ run, c ≠ '-') : groups run = [run] := by
  induction run with
  | nil => rfl
  | cons c run ih =>
      rw [groups, if_neg (joined c (by simp)), ih fun d hd => joined d (List.mem_cons_of_mem c hd)]

theorem groups_hyphenated {digits : List Char} (joined : ∀ c ∈ digits, c ≠ '-')
    : groups (hyphenated digits) = [digits.take 8, (digits.drop 8).take 4,
        (digits.drop 12).take 4, (digits.drop 16).take 4, digits.drop 20] := by
  have run (i k : Nat) : ∀ c ∈ (digits.drop i).take k, c ≠ '-' :=
    fun c hc => joined c (List.mem_of_mem_drop (List.mem_of_mem_take hc))
  simp only [hyphenated, List.append_assoc, List.cons_append]
  rw [groups_append fun c hc => joined c (List.mem_of_mem_take hc), groups_append (run 8 4),
    groups_append (run 12 4), groups_append (run 16 4),
    groups_joined fun c hc => joined c (List.mem_of_mem_drop hc)]

theorem flatten_groups_hyphenated {digits : List Char} (joined : ∀ c ∈ digits, c ≠ '-')
    : (groups (hyphenated digits)).flatten = digits := by
  have step (k : Nat) : (digits.drop k).take 4 ++ digits.drop (k + 4) = digits.drop k := by
    rw [← List.drop_drop]
    exact List.take_append_drop 4 _
  rw [groups_hyphenated joined]
  simp only [List.flatten_cons, List.flatten_nil, List.append_nil]
  rw [step 16, step 12, step 8, List.take_append_drop]

theorem mem_hyphenated {digits : List Char} {c : Char} (h : c ∈ hyphenated digits)
    : c = '-' ∨ c ∈ digits := by
  have run (i k : Nat) (h : c ∈ (digits.drop i).take k) : c = '-' ∨ c ∈ digits :=
    .inr (List.mem_of_mem_drop (List.mem_of_mem_take h))
  simp only [hyphenated, List.mem_append, List.mem_cons, or_assoc] at h
  rcases h with h | h | h | h | h | h | h | h | h
  · exact .inr (List.mem_of_mem_take h)
  · exact .inl h
  · exact run 8 4 h
  · exact .inl h
  · exact run 12 4 h
  · exact .inl h
  · exact run 16 4 h
  · exact .inl h
  · exact .inr (List.mem_of_mem_drop h)

/-- Digits in five groups are read as the number of the digits. -/
theorem ofText_hyphenated {values : List Nat} (length : values.length = 32)
    (small : ∀ v ∈ values, v < 16)
    : ofText (hyphenated (values.map Text.hexDigit))
        = .ok ⟨BitVec.ofNat 128 (Nat.ofDigits 16 values.reverse)⟩ := by
  have digit : ∀ v < 16, Text.hexDigit v ≠ '-' ∧ (Text.hexDigit v).toNat < 0x80 := by decide
  have plain : ∀ c ∈ values.map Text.hexDigit, c ≠ '-' ∧ c.toNat < 0x80 := by
    intro c hc
    obtain ⟨v, hv, rfl⟩ := List.mem_map.mp hc
    exact digit v (small v hv)
  have joined : ∀ c ∈ values.map Text.hexDigit, c ≠ '-' := fun c hc => (plain c hc).1
  have size : Text.Utf8.size (hyphenated (values.map Text.hexDigit)) = 36 := by
    rw [Text.Utf8.size_of_ascii]
    · simp [hyphenated, length]
    · intro c hc
      rcases mem_hyphenated hc with rfl | hc
      · decide
      · exact (plain c hc).2
  have lengths : (groups (hyphenated (values.map Text.hexDigit))).map List.length
      = groupLengths := by
    rw [groups_hyphenated joined]
    simp [length, groupLengths]
  have found : ofGroups? (hyphenated (values.map Text.hexDigit))
      = some ⟨BitVec.ofNat 128 (Nat.ofDigits 16 values.reverse)⟩ := by
    rw [ofGroups?, if_pos lengths, flatten_groups_hyphenated joined, ofDigits?,
      if_pos (by rw [List.length_map, length]), Text.hexNumber?_map_hexDigit small, Option.map_some]
  -- The length in bytes alone selects the grouped form, whatever the text may be wrapped in.
  rw [ofText, size, found]
  rfl

/-- An identifier is read from its own text. -/
theorem ofText_text (id : Uuid) : ofText id.text = .ok id := by
  have read := ofText_hyphenated (length_places 32 id.value.toNat) fun _ => lt_of_mem_places
  rw [ofDigits_places id.value.isLt, BitVec.ofNat_toNat, BitVec.setWidth_eq,
    ← digits_eq_map_places] at read
  exact read

/-- A text in the form of identifiers is the text of the identifier that it is read as. -/
theorem Form.eq_text {text : List Char} (form : Form text) {id : Uuid}
    (read : ofText text = .ok id)
    : text = id.text := by
  obtain ⟨values, length, small, rfl⟩ := form
  rw [ofText_hyphenated length small] at read
  obtain rfl := Except.ok.inj read
  have bound := ofDigits_lt small
  rw [length] at bound
  have number : (BitVec.ofNat 128 (Nat.ofDigits 16 values.reverse)).toNat
      = Nat.ofDigits 16 values.reverse := Nat.mod_eq_of_lt bound
  have same : values = places 32 (Nat.ofDigits 16 values.reverse) := length ▸ eq_places small
  rw [Uuid.text, digits_eq_map_places, number, ← same]
  rfl

end TypedJson.Uuid
