import Stencil.Decimal.Shortest
/-!
# JSON values

Numbers keep the distinction that their text made: a whole number written without point and exponent, within
64 bits, is an integer; every other number is a double. Objects keep their members in ascending order of the
UTF-8 bytes of the names, one member for each name.
-/

namespace Stencil

/-- A JSON number. -/
inductive Json.Number where
  | integer (value : Int)
  | float (negative : Bool) (magnitude : Binary64)
deriving DecidableEq, Repr

/-- A JSON value. -/
inductive Json where
  | null
  | bool (value : Bool)
  | number (value : Json.Number)
  | string (value : String)
  | array (items : List Json)
  | object (members : List (String × Json))
deriving Repr

namespace Json

/-! ## Numbers -/

/-- The text of a magnitude in the range of positional notation of JSON: exponents from -5 to 15. -/
def Number.layout (d : Decimal) : String :=
  if d.digits = 0 then "0.0"
  else if -5 ≤ d.scientificExponent ∧ d.scientificExponent ≤ 15 then d.positional ".0"
  else d.scientific

/-- The text of a number: integers plainly, doubles with the fewest digits that read back. -/
def Number.text : Number → String
  | .integer value => toString value
  | .float negative (.finite m e) => (if negative then "-" else "") ++ layout (Decimal.shortest m e)
  | .float negative .infinite => (if negative then "-" else "") ++ "inf"

/-! ## Objects -/

/-- The order of names by their UTF-8 bytes, which is the order by code points. -/
def nameBefore (a b : String) : Bool := decide (a < b)

/-- Adds a member, in its place; a later member of the same name replaces an earlier one. -/
def insertMember (name : String) (value : Json) : List (String × Json) → List (String × Json)
  | [] => [(name, value)]
  | (n, v) :: rest =>
    if n = name then (name, value) :: rest
    else if nameBefore name n then (name, value) :: (n, v) :: rest
    else (n, v) :: insertMember name value rest

/-- The object with the given members, in ascending order of names. -/
def ofMembers (members : List (String × Json)) : Json :=
  .object (members.foldl (fun sorted m => insertMember m.1 m.2 sorted) [])

/-- The member of that name of an object. -/
def member? (name : String) : Json → Option Json
  | .object members => (members.find? (fun m => m.1 = name)).map (·.2)
  | _ => none

/-- The text of a string value. -/
def string? : Json → Option String
  | .string s => some s
  | _ => none

/-- What a value is, in the words of an error message. -/
def describe : Json → String
  | .null => "null"
  | .bool b => "boolean `" ++ toString b ++ "`"
  | .number n => "number `" ++ n.text ++ "`"
  | .string _ => "a string"
  | .array _ => "an array"
  | .object _ => "a mapping"

end Json

end Stencil
