import TypedJson.Descriptor.Basic
import TypedJson.Text.NameChar

/-!
The textual form of descriptors. A name stands bare when it is a run of name characters and no
keyword; any other name stands in quotes, where a backslash comes before quotes and backslashes.
-/

namespace TypedJson.Descriptor

/-- The words of the textual form that mean something other than a named type. -/
def keywords : List String :=
  ["bytes", "any", "bool", "boolean", "integer", "int", "long", "float", "double", "number",
    "string", "list", "map"]

/-- A name that may stand without quotes. -/
def isBare (name : String) : Bool :=
  !name.toList.isEmpty && name.toList.all Text.isNameChar && !keywords.contains name

/-- A character between quotes. -/
def writeQuotedChar (c : Char) : List Char :=
  if c = '"' || c = '\\' then ['\\', c] else [c]

/-- A name, in quotes where it needs them. -/
def writeName (name : String) : List Char :=
  if isBare name then name.toList
  else '"' :: name.toList.flatMap writeQuotedChar ++ ['"']

mutual
/-- The textual form of a descriptor. -/
def write : Descriptor → List Char
  | .bytes => "bytes".toList
  | .any => "any".toList
  | .bool => "bool".toList
  | .integer => "integer".toList
  | .float => "float".toList
  | .string => "string".toList
  | .list item => "list<".toList ++ write item ++ ['>']
  | .map key value => "map<".toList ++ write key ++ ", ".toList ++ write value ++ ['>']
  | .named name => writeName name
  | .generic name arguments => writeName name ++ '<' :: writeArguments arguments ++ ['>']
  | .var name => '$' :: writeName name

/-- The arguments of a generic type, with a comma between each two. -/
def writeArguments : List (String × Descriptor) → List Char
  | [] => []
  | (name, argument) :: rest =>
      writeName name ++ " = ".toList ++ write argument ++ writeMoreArguments rest

/-- The arguments after the first, each behind a comma. -/
def writeMoreArguments : List (String × Descriptor) → List Char
  | [] => []
  | (name, argument) :: rest =>
      ", ".toList ++ writeName name ++ " = ".toList ++ write argument
        ++ writeMoreArguments rest
end

/-- The textual form of a descriptor. -/
def text (descriptor : Descriptor) : String :=
  String.ofList descriptor.write

end TypedJson.Descriptor
