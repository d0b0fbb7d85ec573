import TypedJson.Engine.Basic
import TypedJson.Engine.Error
import TypedJson.Text.Digits

/-!
Which strings a map may have as keys. Keys are strings in every document; a key type other than
`string` and `any` restricts what they may say.
-/

namespace TypedJson.Engine

/-- The text of an integer that a signed word holds. -/
def isInteger (key : String) : Bool :=
  (Text.integerOf? key.toList).any fun n =>
    -0x8000000000000000 ≤ n && n < 0x8000000000000000

/-- A key that a type other than a parameter accepts. -/
def acceptsKey (engine : Engine) (key : String) : Descriptor → Bool
  | .string | .any => true
  | .integer => isInteger key
  | .named name =>
      match engine.registry.lookup name with
      | some (.adapter adapter) => (adapter.read (.string key)).toOption.isSome
      | _ => false
  | _ => false

/-- Checks a key against a key type, which may be a parameter. What a parameter stands for is
taken by itself, so a parameter in it stands for nothing. -/
def checkKey (engine : Engine) (key : String) (type : Descriptor) (bindings : Bindings)
    : Except ReadCause Unit :=
  match type with
  | .var parameter =>
      match bindings.lookup parameter with
      | none => .error (.unbound parameter)
      | some (.var inner) => .error (.unbound inner)
      | some bound =>
          if engine.acceptsKey key bound then .ok () else .error (.mismatch (.key bound) .key)
  | _ => if engine.acceptsKey key type then .ok () else .error (.mismatch (.key type) .key)

end TypedJson.Engine
