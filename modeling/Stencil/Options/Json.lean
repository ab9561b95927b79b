import Stencil.Options
import Stencil.Text.Quoted
/-!
# Options in JSON

Options are an object with the fields by name, or an array with the fields in order. They are read as the text
goes, so the first fault in the text is the one reported. Fields that are left out have their defaults, and
other names are passed over.
-/

namespace Stencil.Options

/-- The fields that have been read. -/
structure Draft where
  directive? : Option String := none
  substitution? : Option SubstitutionPolicy := none
  duplicates? : Option DuplicatePolicy := none
  minify? : Option Bool := none

/-- The options of a draft; what is missing has its default. -/
def Draft.complete (draft : Draft) : Options :=
  let initial : Options := {}
  { directive := draft.directive?.getD initial.directive
    substitution := draft.substitution?.getD initial.substitution
    duplicates := draft.duplicates?.getD initial.duplicates
    minify := draft.minify?.getD initial.minify }

/-- The names of the substitution policies, for messages. -/
def substitutionNames : String := "`all` or `first`"

/-- The names of the duplicate policies, for messages. -/
def duplicateNames : String := "`last-wins` or `error`"

namespace OfJson

open Json (Read)
open Json.Read

/-- A number in the words of a message. -/
def describeNumber : Json.Number → String
  | .integer value => "integer `" ++ toString value ++ "`"
  | .float negative magnitude => "floating point `" ++ (Json.Number.float negative magnitude).text ++ "`"

/-- Fails on a value of the wrong type. -/
def unexpectedType {α : Type} (wanted : String) : Read α := do
  match ← next with
  | none => failNext .endInValue
  | some 'n' =>
    skip
    letters ['u', 'l', 'l']
    fail (.invalidType "null" wanted)
  | some 't' =>
    skip
    letters ['r', 'u', 'e']
    fail (.invalidType "boolean `true`" wanted)
  | some 'f' =>
    skip
    letters ['a', 'l', 's', 'e']
    fail (.invalidType "boolean `false`" wanted)
  | some '"' =>
    let found ← string
    fail (.invalidType ("string " ++ Text.quoted found) wanted)
  | some '[' => fail (.invalidType "sequence" wanted)
  | some '\x7b' => fail (.invalidType "map" wanted)
  | some c =>
    if c = '-' ∨ c.isDigit then
      let found ← number
      fail (.invalidType (describeNumber found) wanted)
    else failNext .expectedValue

/-- A text. -/
def text (wanted : String) : Read String := do
  match ← next with
  | some '"' => string
  | _ => unexpectedType wanted

/-- A truth value. -/
def boolean : Read Bool := do
  match ← next with
  | some 't' =>
    skip
    letters ['r', 'u', 'e']
    return true
  | some 'f' =>
    skip
    letters ['a', 'l', 's', 'e']
    return false
  | _ => unexpectedType "a boolean"

/-- Nothing, which is what a policy holds. -/
def unit : Read Unit := do
  match ← next with
  | some 'n' =>
    skip
    letters ['u', 'l', 'l']
  | _ => unexpectedType "unit"

/-- The name of a policy. -/
def policyName {α : Type} (allowed : String) (ofName? : String → Option α) : Read α := do
  let name ← text "variant identifier"
  match ofName? name with
  | some policy => return policy
  | none => fail (.unknownVariant name allowed)

/-- A policy: its name, or an object with its name and nothing as its value. -/
def policy {α : Type} (allowed : String) (ofName? : String → Option α) : Read α := do
  match ← next with
  | some '"' => policyName allowed ofName?
  | some '\x7b' =>
    skip
    let result ← policyName allowed ofName?
    colon
    unit
    match ← next with
    | some '\x7d' =>
      skip
      return result
    | some _ => fail .expectedValue
    | none => fail .endInObject
  | some _ => failNext .expectedValue
  | none => failNext .endInValue

/-- Reads the directive. -/
def directive (draft : Draft) : Read Draft := do
  return { draft with directive? := some (← text "a string") }

/-- Reads the substitution policy. -/
def substitution (draft : Draft) : Read Draft := do
  return { draft with substitution? := some (← policy substitutionNames SubstitutionPolicy.ofName?) }

/-- Reads the duplicate policy. -/
def duplicates (draft : Draft) : Read Draft := do
  return { draft with duplicates? := some (← policy duplicateNames DuplicatePolicy.ofName?) }

/-- Reads whether to minify. -/
def minify (draft : Draft) : Read Draft := do
  return { draft with minify? := some (← boolean) }

/-! ## Objects -/

/-- Reads the value of a field, which must not have been there before. -/
def field (name : String) (isKnown : Bool) (step : Read Draft) : Read Draft := do
  if isKnown then
    if (← next) = some '\x7d' then skip
    fail (.duplicateField name)
  else
    colon
    step

/-- Reads the value of a member by its name. -/
def member (name : String) (draft : Draft) : Read Draft := do
  if name = "directive" then field name draft.directive?.isSome (directive draft)
  else if name = "substitution" then field name draft.substitution?.isSome (substitution draft)
  else if name = "duplicates" then field name draft.duplicates?.isSome (duplicates draft)
  else if name = "minify" then field name draft.minify?.isSome (minify draft)
  else
    colon
    pass ((← get).rest.length + 1)
    return draft

/-- Reads the members of an object up to its end. -/
def members : Nat → Bool → Draft → Read Draft
  | 0, _, _ => failNext .endInObject
  | steps + 1, isFirst, draft => do
    match ← next with
    | none => failNext .endInObject
    | some '\x7d' =>
      skip
      return draft
    | some c =>
      if !isFirst then
        if c != ',' then failNext .expectedObjectEnd
        skip
        if (← next) = some '\x7d' then failNext .trailingComma
      match ← next with
      | none => failNext .endInValue
      | some '"' =>
        let name ← string
        members steps false (← member name draft)
      | some _ => failNext .keyNotString

/-! ## Arrays -/

/-- Whether another element follows. -/
def hasElement (isFirst : Bool) : Read Bool := do
  match ← next with
  | none => failNext .endInList
  | some ']' => return false
  | some c =>
    if isFirst then return true
    else if c != ',' then failNext .expectedListEnd
    else
      skip
      match ← next with
      | some ']' => failNext .trailingComma
      | some _ => return true
      | none => failNext .endInValue

/-- The end of an array. -/
def endArray : Read Unit := do
  match ← next with
  | some ']' => skip
  | some ',' =>
    skip
    if (← next) = some ']' then failNext .trailingComma else failNext .trailingCharacters
  | some _ => failNext .trailingCharacters
  | none => failNext .endInList

/-- Reads the fields in order, as many as there are. -/
def elements : List (Draft → Read Draft) → Bool → Draft → Read Draft
  | [], _, draft => do
    endArray
    return draft
  | step :: rest, isFirst, draft => do
    if ← hasElement isFirst then elements rest false (← step draft)
    else
      endArray
      return draft

/-- Reads options. -/
def options : Read Options := do
  match ← next with
  | some '[' =>
    skip
    return (← elements [directive, substitution, duplicates, minify] true {}).complete
  | some '\x7b' =>
    skip
    return (← members (← get).rest.length true {}).complete
  | _ => unexpectedType "struct TemplateOptions"

end OfJson

/-- The options that a JSON text holds. -/
def ofJson (text : String) : Except Error Options := do
  let reading : Json.Read Options := do
    let result ← OfJson.options
    Json.Read.finish
    return result
  match reading.run' (Json.Cursor.start text) with
  | .error fault => .error (.malformedOptions (.json fault))
  | .ok options => options.checked

end Stencil.Options
