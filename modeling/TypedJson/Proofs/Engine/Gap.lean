import TypedJson.Proofs.Engine.Steps

/-!
One step of reading and writing where nothing definite is asked of a node: a parameter stands for
nothing, a name is unknown, or a schema lacks an argument. Together with the forms this says what
becomes of every node other than null.
-/

namespace TypedJson

/-- Why nothing definite is asked of a node. -/
inductive Gap where
  | unbound (parameter : String)
  | unknownType (name : String)
  | missingArgument (typeName parameter : String)

/-- Why a node with this gap is not read. -/
def Gap.readCause : Gap → ReadCause
  | .unbound parameter => .unbound parameter
  | .unknownType name => .unknownType name
  | .missingArgument typeName parameter => .missingArgument typeName parameter

/-- Why a value with this gap is not written. -/
def Gap.writeCause : Gap → WriteCause
  | .unbound parameter => .unbound parameter
  | .unknownType name => .unknownType name
  | .missingArgument typeName parameter => .missingArgument typeName parameter

namespace Engine

/-- What a name asks for, or why it asks for nothing. -/
def askedOfName (engine : Engine) (name : String) (bindings : Bindings) : Except Gap Form :=
  match engine.registry.lookup name with
  | none => .error (.unknownType name)
  | some (.adapter a) => .ok (.adapter name a)
  | some (.object schema) =>
      match missingArgument? schema bindings with
      | some parameter => .error (.missingArgument name parameter)
      | none => .ok (.record name schema bindings)

/-- What a type asks for under the bindings, or why it asks for nothing. -/
def asked (engine : Engine) (type : Descriptor) (bindings : Bindings) : Except Gap Form :=
  match type.resolve bindings with
  | .error parameter => .error (.unbound parameter)
  | .ok (shape, bindings) =>
      match shape with
      | .bytes | .any => .ok .natural
      | .bool => .ok .bool
      | .integer => .ok .integer
      | .float => .ok .float
      | .string => .ok .string
      | .list item => .ok (.list item bindings)
      | .map key value => .ok (.map key value bindings)
      | .named name => engine.askedOfName name []
      | .generic name arguments =>
          match Descriptor.bindArguments bindings arguments with
          | .error parameter => .error (.unbound parameter)
          | .ok bound => engine.askedOfName name bound
      | .var parameter => .error (.unbound parameter)

variable {engine : Engine} {type : Descriptor} {bindings : Bindings}

theorem toOption_askedOfName (engine : Engine) (name : String) (bindings : Bindings)
    : (engine.askedOfName name bindings).toOption = engine.formOfName? name bindings := by
  simp only [askedOfName, formOfName?]
  cases engine.registry.lookup name with
  | none => rfl
  | some entry =>
      cases entry with
      | adapter a => rfl
      | object schema =>
          dsimp only
          cases missingArgument? schema bindings <;> rfl

/-- The form that a type stands for is what it asks for. -/
theorem toOption_asked (engine : Engine) (type : Descriptor) (bindings : Bindings)
    : (engine.asked type bindings).toOption = engine.form? type bindings := by
  simp only [asked, form?]
  cases type.resolve bindings with
  | error parameter => rfl
  | ok resolved =>
      obtain ⟨shape, inner⟩ := resolved
      cases shape with
      | named name => exact engine.toOption_askedOfName name []
      | generic name arguments =>
          dsimp only
          cases Descriptor.bindArguments inner arguments with
          | error parameter => rfl
          | ok bound => exact engine.toOption_askedOfName name bound
      | _ => rfl

/-- What a parameter asks for is what the type that it stands for asks for by itself. -/
theorem asked_var {parameter : String} {bound : Descriptor}
    (known : bindings.lookup parameter = some bound)
    : engine.asked (.var parameter) bindings = engine.asked bound [] := by
  simp only [asked, resolve_var known]

theorem form?_of_asked {form : Form} (h : engine.asked type bindings = .ok form)
    : engine.form? type bindings = some form := by
  rw [← toOption_asked, h]
  rfl

-----------------------------------------------------------------------------------------
-- Reading
-----------------------------------------------------------------------------------------

theorem readNamed_of_gap {json : Json} {members : Option (List (String × Option Pending))}
    {name : String} {gap : Gap} (h : engine.askedOfName name bindings = .error gap)
    : engine.readNamed json members name bindings = .error ⟨[], gap.readCause⟩ := by
  simp only [askedOfName] at h
  split at h
  · next hl =>
      obtain rfl := Except.error.inj h
      simp only [readNamed, hl, Gap.readCause]
  · cases h
  · next schema hl =>
      split at h
      · next missing =>
          obtain rfl := Except.error.inj h
          simp only [readNamed, hl, readObject, missing, Gap.readCause]
      · cases h

/-- A node of which nothing definite is asked is refused for just that. -/
theorem readNode_of_gap {json : Json} (present : json.isNull = false) {gap : Gap}
    (h : engine.asked type bindings = .error gap)
    : engine.readNode json type bindings = .error ⟨[], gap.readCause⟩ := by
  rw [readNode.eq_def, if_neg (by simp [present])]
  simp only [asked] at h
  cases hr : type.resolve bindings with
  | error parameter =>
      rw [hr] at h
      obtain rfl := Except.error.inj h
      rfl
  | ok resolved =>
      obtain ⟨shape, inner⟩ := resolved
      rw [hr] at h
      dsimp only at h ⊢
      cases shape with
      | named name => exact readNamed_of_gap h
      | generic name arguments =>
          dsimp only at h ⊢
          cases hb : Descriptor.bindArguments inner arguments with
          | error parameter =>
              rw [hb] at h
              obtain rfl := Except.error.inj h
              rfl
          | ok bound =>
              rw [hb] at h
              exact readNamed_of_gap h
      | var parameter =>
          obtain rfl := Except.error.inj h
          rfl
      | _ => cases h

/-- What becomes of a node other than null that is read. -/
theorem readNode_eq {json : Json} (present : json.isNull = false)
    : engine.readNode json type bindings =
        match engine.asked type bindings with
        | .ok form => form.readWith engine engine.readNode json
        | .error gap => .error ⟨[], gap.readCause⟩ := by
  cases h : engine.asked type bindings with
  | ok form => exact engine.readNode_of_form present (form?_of_asked h)
  | error gap => exact readNode_of_gap present h

-----------------------------------------------------------------------------------------
-- Writing
-----------------------------------------------------------------------------------------

theorem writeNamed_of_gap {value : Value} {members : Option (List (String × Option Waiting))}
    {name : String} {gap : Gap} (h : engine.askedOfName name bindings = .error gap)
    : engine.writeNamed value members name bindings = .error ⟨[], gap.writeCause⟩ := by
  simp only [askedOfName] at h
  split at h
  · next hl =>
      obtain rfl := Except.error.inj h
      simp only [writeNamed, hl, Gap.writeCause]
  · cases h
  · next schema hl =>
      split at h
      · next missing =>
          obtain rfl := Except.error.inj h
          simp only [writeNamed, hl, missing, Gap.writeCause]
      · cases h

/-- A value of which nothing definite is asked is refused for just that. -/
theorem writeNode_of_gap {value : Value} (present : value.isNull = false) {gap : Gap}
    (h : engine.asked type bindings = .error gap)
    : engine.writeNode value type bindings = .error ⟨[], gap.writeCause⟩ := by
  rw [writeNode.eq_def, if_neg (by simp [present])]
  simp only [asked] at h
  cases hr : type.resolve bindings with
  | error parameter =>
      rw [hr] at h
      obtain rfl := Except.error.inj h
      rfl
  | ok resolved =>
      obtain ⟨shape, inner⟩ := resolved
      rw [hr] at h
      dsimp only at h ⊢
      cases shape with
      | named name => exact writeNamed_of_gap h
      | generic name arguments =>
          dsimp only at h ⊢
          cases hb : Descriptor.bindArguments inner arguments with
          | error parameter =>
              rw [hb] at h
              obtain rfl := Except.error.inj h
              rfl
          | ok bound =>
              rw [hb] at h
              exact writeNamed_of_gap h
      | var parameter =>
          obtain rfl := Except.error.inj h
          rfl
      | _ => cases h

/-- What becomes of a value other than null that is written. -/
theorem writeNode_eq {value : Value} (present : value.isNull = false)
    : engine.writeNode value type bindings =
        match engine.asked type bindings with
        | .ok form => form.writeWith engine engine.writeNode value
        | .error gap => .error ⟨[], gap.writeCause⟩ := by
  cases h : engine.asked type bindings with
  | ok form => exact engine.writeNode_of_form present (form?_of_asked h)
  | error gap => exact writeNode_of_gap present h

end Engine

end TypedJson
