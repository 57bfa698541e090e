/-!
# JSON values

The dynamic values that tool arguments and answers are made of. Objects keep their fields in the
order in which they were written; whole numbers and numbers with a fraction or an exponent are
different kinds.
-/

namespace Mailroom

/-- A JSON value. A number with a fraction or an exponent is kept as it was written. -/
inductive Json where
  | null
  | bool (b : Bool)
  | integer (n : Int)
  | decimal (text : String)
  | string (s : String)
  | array (items : List Json)
  | object (fields : List (String × Json))
deriving Inhabited

namespace Json

/-- The value of an object's field; of several fields with one name the last counts. -/
def field? (j : Json) (name : String) : Option Json :=
  match j with
  | .object fields => (fields.reverse.find? (·.1 == name)).map (·.2)
  | _ => none

def isNull : Json → Bool
  | .null => true
  | _ => false

def bool? : Json → Option Bool
  | .bool b => some b
  | _ => none

def int? : Json → Option Int
  | .integer n => some n
  | _ => none

def string? : Json → Option String
  | .string s => some s
  | _ => none

def array? : Json → Option (List Json)
  | .array items => some items
  | _ => none

def object? : Json → Option (List (String × Json))
  | .object fields => some fields
  | _ => none

def optional {α : Type} (f : α → Json) : Option α → Json
  | none => .null
  | some a => f a

def strings (ss : List String) : Json :=
  .array (ss.map .string)

def nat (n : Nat) : Json :=
  .integer n

end Json

end Mailroom
