import Stencil.Options.Json
import Stencil.Yaml.Document
/-!
# Options in YAML

Options are a mapping with the fields by name; an empty document gives the defaults. A directive is any scalar,
whatever it looks like, and a truth value is a plain word.
-/

namespace Stencil.Options

namespace OfYaml

/-- The text of a scalar. -/
def text : Yaml → Except Yaml.Fault String
  | .scalar text _ => .ok text
  | .tagged _ (.scalar text _) => .ok text
  | value => .error (.invalidType value.describe "a string")

/-- The truth value that a plain word stands for. -/
def boolean : Yaml → Except Yaml.Fault Bool
  | .scalar word true =>
    if ["true", "True", "TRUE"].contains word then .ok true
    else if ["false", "False", "FALSE"].contains word then .ok false
    else .error (.invalidType (Yaml.scalar word true).describe "a boolean")
  | .tagged _ (.scalar word true) => boolean (.scalar word true)
  | value => .error (.invalidType value.describe "a boolean")

/-- The words for nothing, the empty one among them. -/
def nullWords : List String := ["", "~", "null", "Null", "NULL"]

/-- The name of a policy, which a scalar gives, or a tag with nothing behind it. Tags that begin with a second
mark are those of the schema and name no policy. -/
def policyName? : Yaml → Option String
  | .scalar name _ => some name
  | .tagged tag (.scalar text isPlain) =>
    if tag.toList.head? = some '!' then some text
    else if isPlain && nullWords.contains text then some tag
    else none
  | _ => none

/-- A policy by its name. -/
def policy {α : Type} (allowed : String) (ofName? : String → Option α) (value : Yaml) : Except Yaml.Fault α :=
  match policyName? value with
  | none => .error (.invalidType value.describe "a YAML tag starting with '!'")
  | some name =>
    match ofName? name with
    | some result => .ok result
    | none => .error (.unknownVariant name allowed)

/-- Reads the value of a field, which must not have been there before. -/
def field (name : String) (isKnown : Bool) (result : Except Yaml.Fault Draft) : Except Yaml.Fault Draft :=
  if isKnown then .error (.duplicateField name) else result

/-- Adds an entry of the mapping to a draft. -/
def entry (draft : Draft) (key value : Yaml) : Except Yaml.Fault Draft := do
  let name ← text key
  if name = "directive" then
    field name draft.directive?.isSome do
      return { draft with directive? := some (← text value) }
  else if name = "substitution" then
    field name draft.substitution?.isSome do
      return { draft with substitution? := some (← policy substitutionNames SubstitutionPolicy.ofName? value) }
  else if name = "duplicates" then
    field name draft.duplicates?.isSome do
      return { draft with duplicates? := some (← policy duplicateNames DuplicatePolicy.ofName? value) }
  else if name = "minify" then
    field name draft.minify?.isSome do
      return { draft with minify? := some (← boolean value) }
  else return draft

/-- The options of a document. -/
def options : Yaml → Except Yaml.Fault Options
  | .mapping entries => do
    let draft ← entries.foldlM (fun draft pair => entry draft pair.1 pair.2) ({} : Draft)
    return draft.complete
  | .scalar "" true => .ok {}
  | .tagged _ value => options value
  | value => .error (.invalidType value.describe "struct TemplateOptions")

end OfYaml

/-- The options that a YAML text holds. -/
def ofYaml (text : String) : Except Error Options :=
  match Yaml.parse text >>= OfYaml.options with
  | .error fault => .error (.malformedOptions (.yaml fault))
  | .ok options => options.checked

end Stencil.Options
