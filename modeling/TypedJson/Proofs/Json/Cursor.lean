import TypedJson.Json.Reader
import TypedJson.Proofs.Text.Digits

/-!
What a reader takes from a document. A reader takes a text as a value when it gives that value
wherever the text stands, with the cursor behind the text; what follows may matter only to where
a run of digits ends.
-/

namespace TypedJson.Json

theorem symbolsOfText_append (first second : List Char)
    : symbolsOfText (first ++ second) = symbolsOfText first ++ symbolsOfText second :=
  List.map_append

theorem symbolsOfText_cons (c : Char) (rest : List Char)
    : symbolsOfText (c :: rest) = some c :: symbolsOfText rest :=
  rfl

namespace Place

/-- The place behind a text. -/
def behind (place : Place) (text : List Char) : Place :=
  place.afterAll (symbolsOfText text)

@[simp]
theorem behind_nil (place : Place) : place.behind [] = place :=
  rfl

theorem behind_cons (place : Place) (c : Char) (rest : List Char)
    : place.behind (c :: rest) = (place.after (some c)).behind rest :=
  rfl

theorem behind_append (place : Place) (first second : List Char)
    : place.behind (first ++ second) = (place.behind first).behind second := by
  simp [behind, afterAll, symbolsOfText_append]

end Place

/-- A cursor at a text, with symbols behind the text. -/
def Cursor.at (place : Place) (text : List Char) (rest : List Symbol) : Cursor :=
  ⟨place, symbolsOfText text ++ rest⟩

/-- The reader takes the text as the value when `rest` follows it. -/
def Reader.Takes {α : Type} (reader : Reader α) (text : List Char) (value : α)
    (rest : List Symbol) : Prop :=
  ∀ place, reader (.at place text rest) = .ok (value, ⟨place.behind text, rest⟩)

namespace Cursor

variable {place : Place} {rest : List Symbol}

theorem at_nil : Cursor.at place [] rest = ⟨place, rest⟩ :=
  rfl

theorem place_at (text : List Char) : (Cursor.at place text rest).place = place :=
  rfl

theorem at_append (first second : List Char)
    : Cursor.at place (first ++ second) rest
        = Cursor.at place first (symbolsOfText second ++ rest) := by
  simp [Cursor.at, symbolsOfText_append]

theorem advance_cons (c : Char) (text : List Char)
    : (Cursor.at place (c :: text) rest).advance = Cursor.at (place.after (some c)) text rest :=
  rfl

theorem rest_cons (c : Char) (text : List Char)
    : (Cursor.at place (c :: text) rest).rest = some c :: (symbolsOfText text ++ rest) :=
  rfl

/-- A reader that takes the front of a text leaves its cursor at what is behind. -/
theorem read_append {α : Type} {reader : Reader α} {value : α} {text more : List Char}
    (takes : Reader.Takes reader text value (symbolsOfText more ++ rest)) (place : Place)
    : reader (.at place (text ++ more) rest)
        = .ok (value, Cursor.at (place.behind text) more rest) := by
  rw [at_append]
  exact takes place

/-- Blanks are skipped up to a symbol that is none, by induction on the blanks. -/
theorem skipBlanks_append {blanks : List Char} (all : ∀ c ∈ blanks, isBlank c = true)
    (stop : ∀ c, rest.head? = some (some c) → isBlank c = false) (place : Place)
    : (Cursor.at place blanks rest).skipBlanks = ⟨place.behind blanks, rest⟩ := by
  induction blanks generalizing place with
  | nil =>
      cases rest with
      | nil => rfl
      | cons symbol rest =>
          cases symbol with
          | none => rfl
          | some c =>
              have hc := stop c rfl
              simp [Cursor.at, skipBlanks, symbolsOfText, skipBlanksFrom, hc]
  | cons c blanks ih =>
      have hc := all c (by simp)
      have h := ih (fun b hb => all b (by simp [hb])) (place.after (some c))
      simp only [Cursor.at, skipBlanks, symbolsOfText_cons, List.cons_append, skipBlanksFrom, hc,
        if_true] at h ⊢
      exact h

/-- Digits are taken up to a symbol that is none, by induction on the digits. -/
theorem digits_append {digits : List Char} (all : ∀ c ∈ digits, Text.isDigit c = true)
    (stop : ∀ c, rest.head? = some (some c) → Text.isDigit c = false) (place : Place)
    : (Cursor.at place digits rest).digits = (digits, ⟨place.behind digits, rest⟩) := by
  induction digits generalizing place with
  | nil =>
      cases rest with
      | nil => rfl
      | cons symbol rest =>
          cases symbol with
          | none => rfl
          | some c =>
              have hc := stop c rfl
              simp [Cursor.at, Cursor.digits, symbolsOfText, digitsFrom, hc]
  | cons c digits ih =>
      have hc := all c (by simp)
      have h := ih (fun b hb => all b (by simp [hb])) (place.after (some c))
      simp only [Cursor.at, Cursor.digits, symbolsOfText_cons, List.cons_append, digitsFrom, hc,
        if_true] at h ⊢
      rw [h]
      rfl

end Cursor

end TypedJson.Json
