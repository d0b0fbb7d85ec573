import TypedJson.Proofs.Codec
import TypedJson.Proofs.Engine.Untyped

/-!
Decoding as a type and decoding as a tree. Both take the same text from a response and read it by
the same rules; the tree is then read as the type. Without a type that changes nothing but the
form: the value holds the whole tree, which is written again from the one as from the other.
-/

namespace TypedJson

-----------------------------------------------------------------------------------------
-- Trees and their values
-----------------------------------------------------------------------------------------

/-- A value holds all of the tree whose value it is, as it is written as that tree. -/
theorem Json.toValue_injective : Function.Injective Json.toValue := by
  intro json other same
  have hjson : ({} : Engine).writeShape json.toValue = .ok json := Engine.writeShape_toValue _ _
  rw [same, Engine.writeShape_toValue] at hjson
  exact (Except.ok.inj hjson).symm

theorem Engine.read_any (engine : Engine) (json : Json)
    : engine.read json .any = .ok json.toValue := by
  cases json <;> rfl

namespace Encoder

variable (encoder : Encoder) (json : Json) (start : Http.Request)

theorem encodeTyped_ok
    : encoder.encodeTyped (.ok json) start
        = .ok (start.setBody (encoder.engine.bytesOf json) .utf8 Http.jsonMediaType) :=
  rfl

/-- The value of a tree is encoded as the tree is, by its shape or as bytes. -/
theorem encode_toValue {type : Descriptor} (untyped : type = .any ∨ type = .bytes)
    : encoder.encode json.toValue type start = encoder.encodeTyped (.ok json) start := by
  have hwrite : encoder.engine.write json.toValue type = .ok json := by
    rcases untyped with rfl | rfl
    · exact (Engine.writeNode_any _ _ _).trans (Engine.writeShape_toValue _ json)
    · exact (Engine.writeNode_bytes _ _ _).trans (Engine.writeShape_toValue _ json)
  rw [encode, Engine.writeBytes, hwrite]
  rfl

end Encoder

-----------------------------------------------------------------------------------------
-- One response, two ways
-----------------------------------------------------------------------------------------

namespace Decoder

variable (decoder : Decoder) (response : Http.Response)

/-- What comes of a tree, or of no payload, when the tree is read as a type. -/
def decodeTree (type : Descriptor) : Option Json → Except DecodeError Decoded
  | none => .ok .absent
  | some json => ((decoder.engine.read json type).mapError .shape).map .value

/-- Decoding as a type is decoding as a tree and reading the tree as the type. -/
theorem decode_eq_bind_decodeTyped {type : Descriptor} (typed : type.isBytes = false)
    : decoder.decode response type
        = decoder.decodeTyped Typed.tree response >>= decoder.decodeTree type := by
  have hread : ∀ text, Typed.ofText Typed.tree text = Json.ofText text := fun _ => rfl
  rw [decode, decodeTyped]
  cases decoder.payload? response with
  | none =>
      have hempty : Decoded.empty type = .absent := by simp [Decoded.empty, typed]
      rw [hempty]
      rfl
  | some payload =>
      simp only [typed, Bool.false_eq_true, if_false, Engine.readText, hread]
      cases Json.ofText (decoder.text response.headers payload) with
      | error problem => rfl
      | ok json => rfl

/-- Decoding as a tree fails only where the text is no document. -/
theorem exists_problem_of_decodeTyped {α : Type} {reader : Typed.TextReader α} {e : DecodeError}
    (error : decoder.decodeTyped reader response = .error e)
    : ∃ problem, e = .document problem := by
  unfold decodeTyped at error
  split at error
  · cases error
  · split at error
    · cases error
    · next problem _ => exact ⟨problem, (Except.error.inj error).symm⟩

/-- Without a type the value is that of the tree. -/
theorem decode_any
    : decoder.decode response .any
        = (decoder.decodeTyped Typed.tree response).map fun json? =>
            json?.elim .absent fun json => .value json.toValue := by
  rw [decode_eq_bind_decodeTyped decoder response rfl]
  rcases decoder.decodeTyped Typed.tree response with e | _ | json
  · rfl
  · rfl
  · rw [ok_bind, decodeTree, Engine.read_any]
    rfl

end Decoder

namespace Codec

/-- Decoding without a type and decoding as a tree agree on every response: both find no payload,
both fail, with the same error, or the one gives the value of the tree that the other gives. That
value is then encoded, by its shape or as bytes, into just the request that the tree is. As any
type but that of bytes, a response is decoded to nothing or to the error wherever it is as a
tree. -/
theorem decode_any_iff_decodeTyped (codec : Codec) (response : Http.Response)
    : (codec.decoder.decodeTyped Typed.tree response = .ok none ↔
          codec.decoder.decode response .any = .ok .absent)
        ∧ (∀ e, codec.decoder.decodeTyped Typed.tree response = .error e ↔
          codec.decoder.decode response .any = .error e)
        ∧ (∀ e, codec.decoder.decodeTyped Typed.tree response = .error e →
          ∃ problem, e = .document problem)
        ∧ (∀ json, codec.decoder.decodeTyped Typed.tree response = .ok (some json) ↔
          codec.decoder.decode response .any = .ok (.value json.toValue))
        ∧ (∀ json, codec.decoder.decodeTyped Typed.tree response = .ok (some json) →
          ∀ start, ∃ sent, codec.encoder.encodeTyped (.ok json) start = .ok sent
            ∧ codec.encoder.encode json.toValue .any start = .ok sent
            ∧ codec.encoder.encode json.toValue .bytes start = .ok sent)
        ∧ ∀ type, type.isBytes = false →
          (codec.decoder.decodeTyped Typed.tree response = .ok none →
            codec.decoder.decode response type = .ok .absent)
          ∧ ∀ e, codec.decoder.decodeTyped Typed.tree response = .error e →
            codec.decoder.decode response type = .error e := by
  refine ⟨?_, fun e => ?_, fun e => Decoder.exists_problem_of_decodeTyped _ _,
    fun json => ?_, ?_, ?_⟩
  · rw [Decoder.decode_any, map_eq_ok_iff]
    refine ⟨fun h => ⟨none, h, rfl⟩, ?_⟩
    rintro ⟨_ | json, h, he⟩
    · exact h
    · cases he
  · rw [Decoder.decode_any, map_eq_error_iff]
  · rw [Decoder.decode_any, map_eq_ok_iff]
    refine ⟨fun h => ⟨some json, h, rfl⟩, ?_⟩
    rintro ⟨_ | other, h, he⟩
    · cases he
    · obtain rfl := Json.toValue_injective (Decoded.value.inj he)
      exact h
  · exact fun json _ start => ⟨_, Encoder.encodeTyped_ok _ json start,
      Encoder.encode_toValue _ json start (.inl rfl),
      Encoder.encode_toValue _ json start (.inr rfl)⟩
  · intro type typed
    rw [Decoder.decode_eq_bind_decodeTyped _ _ typed]
    refine ⟨fun h => ?_, fun e h => ?_⟩
    · rw [h]
      rfl
    · rw [h]
      rfl

/-- The greatest integer, the negative zero, and an object with a null member. -/
def ledger : Json :=
  .array
    [.number (.integer (.ofUInt64 0xFFFFFFFFFFFFFFFF)), .number (.real (.zero true) (by decide)),
      .object [("b", .null), ("a", .string "1.0")]]

/-- The ledger is decoded to its value and as itself, and encoded from either into one body; an
empty body is nothing, whatever it is decoded as. -/
theorem decode_any_iff_decodeTyped_ledger
    : (ofEngine {} {}).decoder.decodeTyped Typed.tree
            (bareResponse (({} : Engine).bytesOf ledger)) = .ok (some ledger)
        ∧ (ofEngine {} {}).decoder.decode (bareResponse (({} : Engine).bytesOf ledger)) .any
          = .ok (.value ledger.toValue)
        ∧ (∃ sent, (ofEngine {} {}).encoder.encodeTyped (.ok ledger) bareRequest = .ok sent
          ∧ (ofEngine {} {}).encoder.encode ledger.toValue .any bareRequest = .ok sent
          ∧ (ofEngine {} {}).encoder.encode ledger.toValue .bytes bareRequest = .ok sent)
        ∧ (ofEngine {} {}).decoder.decodeTyped Typed.tree (bareResponse []) = .ok none
        ∧ (ofEngine {} {}).decoder.decode (bareResponse []) (.named "Zone") = .ok .absent := by
  have distinct : ledger.Distinct := by simp [ledger, Json.Distinct, Members.Distinct]
  have decoded : (ofEngine {} {}).decoder.decode
      (bareResponse (({} : Engine).bytesOf ledger)) .any = .ok (.value ledger.toValue) :=
    (decode_of_carries distinct (carries_bareResponse _) rfl).1 (by decide)
  have empty : (ofEngine {} {}).decoder.decodeTyped Typed.tree (bareResponse []) = .ok none := rfl
  obtain ⟨_, _, _, reads, encoded, _⟩ := decode_any_iff_decodeTyped (ofEngine {} {})
    (bareResponse (({} : Engine).bytesOf ledger))
  obtain ⟨_, _, _, _, _, typed⟩ :=
    decode_any_iff_decodeTyped (ofEngine {} {}) (bareResponse [])
  have read := (reads ledger).mpr decoded
  exact ⟨read, decoded, encoded ledger read bareRequest, empty,
    (typed (.named "Zone") rfl).1 empty⟩

end Codec

end TypedJson
