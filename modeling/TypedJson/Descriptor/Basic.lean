import TypedJson.Directory

/-!
Type descriptors: the shape that a document is read as or written as. A descriptor is plain
data, so that the arguments of a generic type survive up to the place where they are needed.
-/

namespace TypedJson

/-- The shape of a value. A `var` refers to a type parameter of the schema it stands in; the
arguments of a `generic` type are a directory, kept in the order of their names. -/
inductive Descriptor where
  | bytes
  | any
  | bool
  | integer
  | float
  | string
  | list (item : Descriptor)
  | map (key value : Descriptor)
  | named (name : String)
  | generic (name : String) (arguments : List (String × Descriptor))
  | var (name : String)
  deriving Repr

namespace Descriptor

mutual
/-- The two descriptors are the same. -/
def same : Descriptor → Descriptor → Bool
  | .bytes, .bytes | .any, .any | .bool, .bool | .integer, .integer | .float, .float
  | .string, .string => true
  | .list a, .list b => same a b
  | .map k v, .map k' v' => same k k' && same v v'
  | .named a, .named b => a == b
  | .generic a args, .generic b args' => a == b && sameArguments args args'
  | .var a, .var b => a == b
  | _, _ => false

/-- The two lists of arguments are the same. -/
def sameArguments : List (String × Descriptor) → List (String × Descriptor) → Bool
  | [], [] => true
  | (a, d) :: rest, (b, d') :: rest' => a == b && same d d' && sameArguments rest rest'
  | _, _ => false
end

mutual
theorem same_self (d : Descriptor) : same d d = true := by
  cases d with
  | list item => simpa [same] using same_self item
  | map key value => simpa [same] using ⟨same_self key, same_self value⟩
  | generic name arguments => simpa [same] using sameArguments_self arguments
  | _ => simp [same]

theorem sameArguments_self (arguments : List (String × Descriptor))
    : sameArguments arguments arguments = true := by
  match arguments with
  | [] => rfl
  | (_, d) :: rest => simpa [sameArguments] using ⟨same_self d, sameArguments_self rest⟩
end

mutual
theorem eq_of_same (d d' : Descriptor) (h : same d d' = true) : d = d' := by
  cases d <;> cases d' <;> simp only [same, Bool.and_eq_true, beq_iff_eq] at h <;>
    try contradiction
  case list.list a b => rw [eq_of_same a b h]
  case map.map k v k' v' => rw [eq_of_same k k' h.1, eq_of_same v v' h.2]
  case generic.generic a args b args' => rw [h.1, eq_of_sameArguments args args' h.2]
  all_goals simp_all

theorem eq_of_sameArguments (args args' : List (String × Descriptor))
    (h : sameArguments args args' = true)
    : args = args' := by
  match args, args' with
  | [], [] => rfl
  | (a, d) :: rest, (b, d') :: rest' =>
      simp only [sameArguments, Bool.and_eq_true, beq_iff_eq] at h
      rw [h.1.1, eq_of_same d d' h.1.2, eq_of_sameArguments rest rest' h.2]
  | [], _ :: _ | _ :: _, [] => simp [sameArguments] at h
end

theorem same_eq_true_iff (d d' : Descriptor) : same d d' = true ↔ d = d' :=
  ⟨eq_of_same d d', fun h => h ▸ same_self d⟩

instance : DecidableEq Descriptor := fun d d' =>
  decidable_of_iff _ (same_eq_true_iff d d')

end Descriptor

/-- Type parameters and the descriptors they stand for. -/
abbrev Bindings := Directory Descriptor

namespace Descriptor

instance : Inhabited Descriptor := ⟨.any⟩

/-- The shape of a body that is not read as a document. -/
def isBytes : Descriptor → Bool
  | .bytes => true
  | _ => false

/-- A map whose keys are plain strings. -/
def stringMap (value : Descriptor) : Descriptor :=
  .map .string value

/-- A generic type with the given arguments; of two for one parameter the later one counts. -/
def ofArguments (name : String) (arguments : List (String × Descriptor)) : Descriptor :=
  .generic name (Directory.ofList arguments)

/-- A key type that the textual form can express. -/
def isKey : Descriptor → Bool
  | .string | .any | .integer | .named _ | .var _ => true
  | _ => false

end Descriptor

end TypedJson
