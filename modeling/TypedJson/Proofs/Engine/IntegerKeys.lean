import TypedJson.Proofs.Engine.Conform
import TypedJson.Proofs.Engine.Steps
import TypedJson.Proofs.Text.Digits

/-!
Keys that are integers. The type `integer` admits whatever one 64-bit word can hold, signed or
unsigned, but as the type of keys it admits only what a signed word can hold: a key beyond that is
refused, though it writes an integer that would be read as a value.
-/

namespace TypedJson

namespace Engine

variable {engine : Engine} {bindings inner : Bindings} {keyType : Descriptor}

-----------------------------------------------------------------------------------------
-- Integers as values and as keys
-----------------------------------------------------------------------------------------

/-- The type `integer` admits the integer: some document is read as a value that holds it. -/
def AdmitsInteger (engine : Engine) (n : Int) : Prop :=
  ∃ json value, engine.read json .integer = .ok value ∧ value.integral? = some n

theorem admitsInteger_iff {n : Int}
    : engine.AdmitsInteger n ↔ -0x8000000000000000 ≤ n ∧ n < 0x10000000000000000 := by
  have form : engine.form? .integer [] = some .integer := rfl
  constructor
  · rintro ⟨json, value, read, holds⟩
    cases hnull : json.isNull with
    | true =>
        rw [Json.eq_null_of_isNull hnull, Engine.read, engine.readNode_null] at read
        obtain rfl := Except.ok.inj read
        cases holds
    | false =>
        obtain ⟨_, form', reads⟩ := (engine.readNode_eq_ok_iff hnull .integer [] value).mp read
        obtain rfl := Option.some.inj (form.symm.trans form')
        obtain ⟨w, _, rfl⟩ := reads
        obtain rfl := Option.some.inj ((Number.integral?_toValue w).symm.trans holds)
        exact ⟨w.lower, w.upper⟩
  · rintro ⟨lower, upper⟩
    refine ⟨.number (.integer ⟨n, lower, upper⟩), _, ?_, Number.integral?_toValue ⟨n, lower, upper⟩⟩
    exact (engine.readNode_eq_ok_iff rfl .integer [] _).mpr ⟨.integer, form, _, rfl, rfl⟩

theorem isInteger_iff {key : String}
    : isInteger key = true ↔
        ∃ n, Text.Numeral key.toList n ∧ -0x8000000000000000 ≤ n ∧ n < 0x8000000000000000 := by
  simp only [isInteger, Option.any_eq_true, Text.integerOf?_eq_some_iff, Bool.and_eq_true,
    decide_eq_true_eq]

theorem readNode_key_of_integer (engine : Engine) (key : String)
    (integral : keyType.resolve bindings = .ok (.integer, inner)) (type : Descriptor)
    : engine.readNode (.object [(key, .null)]) (.map keyType type) bindings
        = if isInteger key then .ok (.map [(key, .null)])
          else .error ⟨[.key key], .mismatch (.key .integer) .key⟩ := by
  rw [readNode_soleKey, engine.checkKey_eq, integral]
  cases h : isInteger key <;> simp only [acceptsKey, h] <;> rfl

/-- A map whose key type stands for `integer`, by itself or as what a parameter is bound to, is read
with a key just when the key writes an integer that a signed word can hold, and otherwise the key is
to blame. So of the integers that the type admits as values those of the upper half of an unsigned
word are refused as keys. -/
theorem read_key_iff_of_integer (engine : Engine) (key : String)
    (integral : keyType.resolve bindings = .ok (.integer, inner)) (type : Descriptor)
    : let outcome := engine.readNode (.object [(key, .null)]) (.map keyType type) bindings
      let refused := ReadError.mk [.key key] (.mismatch (.key .integer) .key)
      ((∃ value, outcome = .ok value) ↔
          ∃ n, Text.Numeral key.toList n ∧ engine.AdmitsInteger n ∧ n < 0x8000000000000000)
        ∧ ((∀ value, outcome ≠ .ok value) → outcome = .error refused)
        ∧ ∀ n, Text.Numeral key.toList n → 0x8000000000000000 ≤ n → n < 0x10000000000000000 →
            engine.AdmitsInteger n ∧ outcome = .error refused := by
  intro outcome refused
  have checked : outcome = if isInteger key then .ok (.map [(key, .null)]) else .error refused :=
    engine.readNode_key_of_integer key integral type
  refine ⟨?_, fun never => ?_, fun n numeral low high => ⟨?_, ?_⟩⟩
  · have accepted : (∃ value, outcome = .ok value) ↔ isInteger key = true := by
      rw [checked]
      cases isInteger key <;> simp
    rw [accepted, isInteger_iff]
    refine exists_congr fun n => and_congr_right fun _ => ?_
    rw [admitsInteger_iff]
    omega
  · rw [checked] at never ⊢
    cases h : isInteger key with
    | true => exact absurd (by rw [h]; rfl) (never (.map [(key, .null)]))
    | false => rfl
  · exact admitsInteger_iff.mpr ⟨by omega, high⟩
  · have large : isInteger key = false := by
      rw [Bool.eq_false_iff]
      intro h
      obtain ⟨m, other, _, small⟩ := isInteger_iff.mp h
      have same := (Text.integerOf?_eq_some_iff.mpr numeral).symm.trans
        (Text.integerOf?_eq_some_iff.mpr other)
      obtain rfl := Option.some.inj same
      omega
    rw [checked, large]
    rfl

/-- Keys at both ends of the signed word, by way of a parameter, and the first key beyond it. -/
theorem read_key_iff_of_integer_seats
    : Descriptor.resolve [("Seat", .integer)] (.var "Seat") = .ok (.integer, [])
        ∧ (∃ value, ({} : Engine).readNode (.object [("-09223372036854775808", .null)])
            (.map (.var "Seat") .any) [("Seat", .integer)] = .ok value)
        ∧ ({} : Engine).AdmitsInteger 9223372036854775808
        ∧ ({} : Engine).readNode (.object [("+9223372036854775808", .null)])
            (.map (.var "Seat") .any) [("Seat", .integer)]
          = .error ⟨[.key "+9223372036854775808"], .mismatch (.key .integer) .key⟩ := by
  have bound : Descriptor.resolve [("Seat", .integer)] (.var "Seat") = .ok (.integer, []) := rfl
  have numeral : ∀ (s : String) (n : Int), Text.integerOf? s.toList = some n →
      Text.Numeral s.toList n := fun s n => Text.integerOf?_eq_some_iff.mp
  obtain ⟨accepts, _, _⟩ := read_key_iff_of_integer {} "-09223372036854775808" bound .any
  obtain ⟨_, _, refuses⟩ := read_key_iff_of_integer {} "+9223372036854775808" bound .any
  obtain ⟨admitted, error⟩ := refuses 9223372036854775808
    (numeral _ _ (by decide +kernel)) (by decide) (by decide)
  refine ⟨bound, accepts.mpr ⟨-9223372036854775808, numeral _ _ (by decide +kernel), ?_, by decide⟩,
    admitted, error⟩
  exact admitsInteger_iff.mpr ⟨by decide, by decide⟩

end Engine

end TypedJson
