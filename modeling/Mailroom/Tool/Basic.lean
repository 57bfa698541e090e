import Mailroom.Json.Basic

/-!
# Tools

What a caller is told about a tool: its name, what it does, and a schema of its arguments.
-/

namespace Mailroom

inductive ArgumentKind where
  | string
  | integer
  | boolean
  | strings
deriving DecidableEq, Repr

namespace ArgumentKind

def name : ArgumentKind → String
  | string => "string"
  | integer => "integer"
  | boolean => "boolean"
  | strings => "array"

end ArgumentKind

/-- An argument that a tool knows. The bounds are told to callers; who reads the argument checks
it. -/
structure Parameter where
  name : String
  kind : ArgumentKind
  description : Option String := none
  bounds : Option (Int × Int) := none
  default : Option Json := none

namespace Parameter

def schema (p : Parameter) : Json :=
  .object <| [("type", .string p.kind.name)] ++
    (if p.kind = .strings then [("items", .object [("type", .string "string")])] else []) ++
    (p.description.map fun d => ("description", Json.string d)).toList ++
    (match p.bounds with
      | some (low, high) => [("minimum", .integer low), ("maximum", .integer high)]
      | none => []) ++
    (p.default.map fun d => ("default", d)).toList

end Parameter

structure Tool where
  name : String
  description : String
  parameters : List Parameter
  required : List String

namespace Tool

def parameter? (t : Tool) (name : String) : Option Parameter :=
  t.parameters.find? (·.name == name)

def schema (t : Tool) : Json :=
  .object <| [("type", .string "object"),
    ("properties", .object (t.parameters.map fun p => (p.name, p.schema))),
    ("additionalProperties", .bool false)] ++
    (if t.required.isEmpty then [] else [("required", Json.strings t.required)])

end Tool

end Mailroom
