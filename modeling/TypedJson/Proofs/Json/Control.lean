import TypedJson.Proofs.Json.Document

/-!
Control characters of documents. Strings are written with theirs escaped, so that what is written
for a tree has no control characters but the line breaks of its layout.
-/

namespace TypedJson.Json

/-- The text has no control characters but line breaks. -/
def Clear (text : List Char) : Prop :=
  ∀ c ∈ text, c = '\n' ∨ 0x20 ≤ c.toNat

@[simp]
theorem clear_nil : Clear [] :=
  nofun

@[simp]
theorem clear_cons {c : Char} {text : List Char}
    : Clear (c :: text) ↔ (c = '\n' ∨ 0x20 ≤ c.toNat) ∧ Clear text :=
  List.forall_mem_cons

@[simp]
theorem clear_append {first second : List Char}
    : Clear (first ++ second) ↔ Clear first ∧ Clear second :=
  List.forall_mem_append

-----------------------------------------------------------------------------------------
-- Strings and numbers
-----------------------------------------------------------------------------------------

/-- Control characters are escaped, and escapes are made of visible characters. -/
theorem clear_writeChar (c : Char) : Clear (writeChar c) := by
  have digit : ∀ n, n < 16 → 0x20 ≤ (Text.hexDigit n).toNat := by decide
  by_cases control : c.toNat < 0x20
  · have high := digit (c.toNat / 16) (by omega)
    have low := digit (c.toNat % 16) (by omega)
    rw [writeChar]
    -- Every branch is an escape but the last one, which control characters do not reach.
    repeat' split
    all_goals simp_all
  · rw [writeChar]
    repeat' split
    all_goals simp [not_lt.mp control]

theorem clear_writeString (s : String) : Clear (writeString s) := by
  have body : Clear (s.toList.flatMap writeChar) := by
    intro c hc
    obtain ⟨d, _, hd⟩ := List.mem_flatMap.mp hc
    exact clear_writeChar d c hd
  simp [writeString, body]

theorem clear_of_isDigit {digits : List Char} (all : ∀ c ∈ digits, Text.isDigit c = true)
    : Clear digits := by
  intro c hc
  obtain ⟨low, _⟩ := Text.isDigit_iff.mp (all c hc)
  exact .inr (by omega)

/-- A number is written in pieces, which are digits and a few signs. -/
theorem clear_writeNumber (n : Number) : Clear (writeNumber n) := by
  obtain ⟨⟨negative, whole, part, exponent⟩, lawful, hwrite, _⟩ := Token.NumberText.exists_write n
  have sign : Clear (if negative then ['-'] else []) := by split <;> simp
  have hpart : Clear (Token.NumberText.partText part) := by
    rw [Token.NumberText.partText]
    split
    · exact clear_nil
    · simp [clear_of_isDigit lawful.part]
  have hexponent : Clear (Token.NumberText.exponentText exponent) := by
    cases exponent with
    | none => exact clear_nil
    | some e =>
        have digits : Clear (Text.digitsOf e.natAbs) :=
          clear_of_isDigit fun _ => Text.isDigit_of_mem_digitsOf
        by_cases negative : e < 0 <;> simp [Token.NumberText.exponentText, negative, digits]
  rw [← hwrite, Token.NumberText.write, clear_append, clear_append, clear_append]
  exact ⟨sign, clear_of_isDigit lawful.whole, hpart, hexponent⟩

-----------------------------------------------------------------------------------------
-- Trees
-----------------------------------------------------------------------------------------

@[simp]
theorem clear_newLine (layout : Layout) : Clear layout.newLine := by
  cases layout with
  | compact => exact clear_nil
  | indented depth =>
      refine clear_cons.mpr ⟨.inl rfl, fun c hc => ?_⟩
      rw [List.eq_of_mem_replicate hc]
      decide

@[simp]
theorem clear_colon (layout : Layout) : Clear layout.colon := by
  cases layout <;> simp [Layout.colon]

theorem clear_writeItems {layout : Layout} {items : List Json}
    (below : ∀ item ∈ items, Clear (write layout item))
    : Clear (writeItems layout items) := by
  induction items with
  | nil => exact clear_nil
  | cons item rest ih =>
      obtain ⟨hitem, hrest⟩ := List.forall_mem_cons.mp below
      simp [writeItems, hitem, ih hrest]

theorem clear_writeMembers {layout : Layout} {members : List (String × Json)}
    (below : ∀ member ∈ members, Clear (write layout member.2))
    : Clear (writeMembers layout members) := by
  induction members with
  | nil => exact clear_nil
  | cons member rest ih =>
      obtain ⟨hvalue, hrest⟩ := List.forall_mem_cons.mp below
      simp [writeMembers, clear_writeString, hvalue, ih hrest]

/-- What is written for a tree is clear in every layout, by induction on the tree. -/
theorem clear_write (layout : Layout) (json : Json) : Clear (write layout json) := by
  induction json using Json.byChildren generalizing layout with
  | step json ih =>
      cases json with
      | null => simp [write]
      | bool b => cases b <;> simp [write]
      | number n => exact clear_writeNumber n
      | string s => exact clear_writeString s
      | array items =>
          cases items with
          | nil => simp [write]
          | cons item rest =>
              have below : ∀ other ∈ rest, Clear (write layout.deeper other) := fun other hm =>
                ih other (List.mem_cons_of_mem item hm) layout.deeper
              simp [write, ih item List.mem_cons_self, clear_writeItems below]
      | object members =>
          cases members with
          | nil => simp [write]
          | cons member rest =>
              have hvalue := ih member.2 (List.mem_map_of_mem List.mem_cons_self) layout.deeper
              have below : ∀ other ∈ rest, Clear (write layout.deeper other.2) := fun other hm =>
                ih other.2 (List.mem_map_of_mem (List.mem_cons_of_mem member hm)) layout.deeper
              simp [write, clear_writeString, hvalue, clear_writeMembers below]

theorem clear_text (pretty : Bool) (json : Json) : Clear (json.text pretty).toList := by
  rw [text, String.toList_ofList]
  exact clear_write _ json

end TypedJson.Json
