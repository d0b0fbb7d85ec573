import TypedJson.Json.Printer
import TypedJson.Proofs.Json.Cursor

/-!
Strings of a document. Every character is written so that it is read as itself, whether it is
escaped or not, and the first quote that is not escaped is the closing one.
-/

namespace TypedJson.Json.Token

variable {rest : List Symbol}

-----------------------------------------------------------------------------------------
-- Escapes
-----------------------------------------------------------------------------------------

/-- So many characters of one byte end so many bytes further, by induction on the characters. -/
theorem afterBytes?_ascii {text : List Char} (ascii : ∀ c ∈ text, c.utf8Size = 1) (place : Place)
    : place.afterBytes? text.length (symbolsOfText text ++ rest) = some (place.behind text) := by
  induction text generalizing place with
  | nil => cases rest <;> rfl
  | cons c text ih =>
      have hc : symbolSize (some c) = 1 := ascii c (by simp)
      have h := ih (fun b hb => ascii b (by simp [hb])) (place.after (some c))
      simp only [List.length_cons, symbolsOfText_cons, List.cons_append, Place.afterBytes?, hc,
        Nat.le_add_left, if_true, Nat.add_sub_cancel, h, Place.behind_cons]

theorem utf8Size_hexDigit {n : Nat} (h : n < 16) : (Text.hexDigit n).utf8Size = 1 := by
  decide +revert

/-- Two hexadecimal digits behind two zeros are taken as the number of a byte. -/
theorem takes_hexFour {n : Nat} (h : n < 256)
    : Reader.Takes hexFour ['0', '0', Text.hexDigit (n / 16), Text.hexDigit (n % 16)] n rest := by
  intro place
  have hascii : ∀ c ∈ ['0', '0', Text.hexDigit (n / 16), Text.hexDigit (n % 16)],
      c.utf8Size = 1 := by
    have hhigh : (Text.hexDigit (n / 16)).utf8Size = 1 := utf8Size_hexDigit (by omega)
    have hlow : (Text.hexDigit (n % 16)).utf8Size = 1 := utf8Size_hexDigit (by omega)
    simp [hhigh, hlow]
    decide
  have hplace : place.afterBytes? 4
      (Cursor.at place ['0', '0', Text.hexDigit (n / 16), Text.hexDigit (n % 16)] rest).rest
      = some (place.behind ['0', '0', Text.hexDigit (n / 16), Text.hexDigit (n % 16)]) :=
    afterBytes?_ascii hascii place
  have hnumber := Text.hexNumber?_byte h
  simp only [hexFour, Cursor.place_at, hplace]
  simp only [Cursor.at, symbolsOfText, List.map_cons, List.map_nil, List.cons_append,
    List.nil_append, hnumber]

/-- An escape by the code point of a control character is taken as that character. -/
theorem takes_unicodeEscape {c : Char} (control : c.toNat < 0x20)
    : Reader.Takes escape
        ['u', '0', '0', Text.hexDigit (c.toNat / 16), Text.hexDigit (c.toNat % 16)] c rest := by
  intro place
  have hfour : Reader.Takes hexFour _ c.toNat rest := takes_hexFour (by omega)
  have hfour := hfour (place.after (some 'u'))
  have hlow : Text.Utf16.isLow c.toNat = false := by
    simp only [Text.Utf16.isLow, Bool.and_eq_false_iff, decide_eq_false_iff_not]
    omega
  have hhigh : Text.Utf16.isHigh c.toNat = false := by
    simp only [Text.Utf16.isHigh, Bool.and_eq_false_iff, decide_eq_false_iff_not]
    omega
  simp only [escape, Cursor.rest_cons, Cursor.advance_cons, unicodeEscape, hfour, bind,
    Except.bind, hlow, hhigh, Bool.false_eq_true, if_false, Char.ofNat_toNat, Place.behind_cons]

theorem takes_shortEscape {letter c : Char} (short : shortEscape? letter = some c)
    : Reader.Takes escape [letter] c rest := by
  intro place
  have hu : letter ≠ 'u' := by
    intro he
    subst he
    cases short
  unfold escape
  rw [Cursor.rest_cons]
  split
  · next h => cases h
  · next h => exact absurd (Option.some.inj (List.cons.inj h).1) hu
  · next symbol _ _ h =>
      obtain rfl := (List.cons.inj h).1
      simp only [Option.bind_some, short]
      rfl

-----------------------------------------------------------------------------------------
-- Characters and strings
-----------------------------------------------------------------------------------------

/-- The body of a string goes on behind an escape. -/
theorem stringBody_escape {c : Char} {text : List Char} (taken : Reader.Takes escape text c rest)
    (bound : Nat) (place : Place)
    : stringBody (bound + 1) (.at place ('\\' :: text) rest)
        = (stringBody bound ⟨place.behind ('\\' :: text), rest⟩).map
            fun (symbols, cursor) => (some c :: symbols, cursor) := by
  have h := taken (place.after (some '\\'))
  rw [stringBody, Cursor.rest_cons]
  simp only [Cursor.advance_cons, h, bind, Except.bind, Place.behind_cons]
  cases stringBody bound ⟨(place.after (some '\\')).behind text, rest⟩ <;> rfl

/-- The body of a string goes on behind a character, however that is written. -/
theorem stringBody_writeChar (c : Char) (bound : Nat) (place : Place)
    : stringBody (bound + 1) (.at place (writeChar c) rest)
        = (stringBody bound ⟨place.behind (writeChar c), rest⟩).map
            fun (symbols, cursor) => (some c :: symbols, cursor) := by
  have hcode : ∀ n, c.toNat = n → c = Char.ofNat n := fun n h => by rw [← h, Char.ofNat_toNat]
  unfold writeChar
  split
  · next h => exact stringBody_escape (takes_shortEscape (by rw [h]; rfl)) bound place
  split
  · next h => exact stringBody_escape (takes_shortEscape (by rw [h]; rfl)) bound place
  split
  · next h => exact stringBody_escape (takes_shortEscape (by rw [hcode _ h]; rfl)) bound place
  split
  · next h => exact stringBody_escape (takes_shortEscape (by rw [hcode _ h]; rfl)) bound place
  split
  · next h => exact stringBody_escape (takes_shortEscape (by rw [hcode _ h]; rfl)) bound place
  split
  · next h => exact stringBody_escape (takes_shortEscape (by rw [hcode _ h]; rfl)) bound place
  split
  · next h => exact stringBody_escape (takes_shortEscape (by rw [hcode _ h]; rfl)) bound place
  split
  · next control => exact stringBody_escape (takes_unicodeEscape control) bound place
  · next hquote hbackslash _ _ _ _ _ hplain =>
      have hany : (some c : Symbol).any (·.toNat < 0x20) = false := by simpa using hplain
      rw [stringBody, Cursor.rest_cons]
      split
      · next h => cases h
      · next h => exact absurd (Option.some.inj (List.cons.inj h).1) hquote
      · next h => exact absurd (Option.some.inj (List.cons.inj h).1) hbackslash
      · next symbol _ _ _ h =>
          obtain rfl := (List.cons.inj h).1
          rw [hany]
          simp only [Bool.false_eq_true, if_false, bind, Except.bind, Cursor.advance_cons,
            Cursor.at_nil, Place.behind_cons, Place.behind_nil]
          cases stringBody bound ⟨place.after (some c), rest⟩ <;> rfl

/-- The body of a string is taken up to its closing quote, by induction on the characters. -/
theorem takes_stringBody {cs : List Char} {bound : Nat} (enough : cs.length < bound)
    : Reader.Takes (stringBody bound) (cs.flatMap writeChar) (cs.map some)
        (some '"' :: rest) := by
  intro place
  induction cs generalizing bound place with
  | nil =>
      obtain ⟨bound, rfl⟩ := Nat.exists_eq_succ_of_ne_zero (Nat.ne_of_gt enough)
      rfl
  | cons c cs ih =>
      obtain ⟨bound, rfl⟩ := Nat.exists_eq_succ_of_ne_zero (Nat.ne_of_gt (Nat.zero_lt_of_lt enough))
      have h := ih (Nat.lt_of_succ_lt_succ enough) (place.behind (writeChar c))
      simp only [Cursor.at] at h
      rw [List.flatMap_cons, Cursor.at_append, Nat.succ_eq_add_one, stringBody_writeChar, h,
        Place.behind_append]
      rfl

theorem length_le_flatMap_writeChar (cs : List Char)
    : cs.length ≤ (cs.flatMap writeChar).length := by
  induction cs with
  | nil => exact Nat.le_refl 0
  | cons c cs ih =>
      have hc : 1 ≤ (writeChar c).length := by
        unfold writeChar
        repeat' split
        all_goals simp
      simp only [List.flatMap_cons, List.length_append, List.length_cons]
      omega

/-- A string is taken behind its opening quote. -/
theorem takes_string (s : String)
    : Reader.Takes string (s.toList.flatMap writeChar ++ ['"']) s rest := by
  intro place
  have hbody : Reader.Takes (stringBody
      (Cursor.at place (s.toList.flatMap writeChar ++ ['"']) rest).rest.length)
      (s.toList.flatMap writeChar) (s.toList.map some) (some '"' :: rest) := by
    apply takes_stringBody
    have hlen := length_le_flatMap_writeChar s.toList
    simp only [Cursor.at, symbolsOfText, List.length_append, List.length_map, List.length_singleton]
    omega
  have h := hbody place
  have hat : Cursor.at place (s.toList.flatMap writeChar) (some '"' :: rest)
      = Cursor.at place (s.toList.flatMap writeChar ++ ['"']) rest := by
    rw [Cursor.at_append]
    rfl
  have hid : (s.toList.map some).mapM id = some s.toList := by
    rw [List.mapM_map]
    exact (List.mapM_pure (m := Option)).trans (congrArg some (List.map_id _))
  rw [hat] at h
  simp only [string, h, bind, Except.bind, hid, String.ofList_toList, Place.behind_append]
  rfl

end TypedJson.Json.Token
