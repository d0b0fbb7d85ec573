import TypedJson.Descriptor.Basic

/-!
Binding: the parameters of a descriptor are replaced by what they stand for, all at once. The
first parameter that stands for nothing is the answer when there is one.
-/

namespace TypedJson.Descriptor

mutual
/-- The descriptor with every parameter replaced. -/
def bind (bindings : Bindings) : Descriptor → Except String Descriptor
  | .var name =>
      match bindings.lookup name with
      | some descriptor => .ok descriptor
      | none => .error name
  | .list item => do .ok (.list (← bind bindings item))
  | .map key value => do
      let key ← bind bindings key
      let value ← bind bindings value
      .ok (.map key value)
  | .generic name arguments => do .ok (.generic name (← bindArguments bindings arguments))
  | descriptor => .ok descriptor

/-- The arguments with every parameter inside them replaced. -/
def bindArguments (bindings : Bindings)
    : List (String × Descriptor) → Except String (List (String × Descriptor))
  | [] => .ok []
  | (name, argument) :: rest => do
      let argument ← bind bindings argument
      let rest ← bindArguments bindings rest
      .ok ((name, argument) :: rest)
end

end TypedJson.Descriptor
