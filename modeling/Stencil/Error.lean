import Stencil.Flavor
import Stencil.Json.Reader
import Stencil.Script.Fault
import Stencil.Yaml.Value
/-!
# Errors

What can go wrong when a template is made and when it is rendered. The first kind is for the author of the
template, the second for the one who supplies the arguments.
-/

namespace Stencil

/-- What can be wrong with options that could be read. -/
inductive OptionsDefect where
  | emptyDirective
  | blankInDirective
deriving DecidableEq, Repr

/-- The wording of a defect. -/
def OptionsDefect.message : OptionsDefect → String
  | .emptyDirective => "directive must not be empty"
  | .blankInDirective => "directive must not contain whitespace"

/-- Why a text holds no options. -/
inductive OptionsFault where
  | json (fault : Json.Fault)
  | yaml (fault : Yaml.Fault)
deriving DecidableEq, Repr

/-- The wording of a fault. -/
def OptionsFault.message : OptionsFault → String
  | .json fault => fault.message
  | .yaml fault => fault.message

/-- What can go wrong. -/
inductive Error where
  /-- The template is no script. -/
  | malformedTemplate (fault : Script.Fault)
  /-- The text of a flavor is no script. -/
  | malformedArgument (flavor : Flavor) (fault : Script.Fault)
  /-- A placeholder in use has no argument. -/
  | missingArgument (name : String)
  /-- An argument leads back to its own placeholder. -/
  | recursiveArgument (name : String)
  /-- Neither the flavor nor a default is given as text. -/
  | undefinedFlavor (flavor : Flavor)
  /-- An argument is neither text nor a mapping. -/
  | illegalArgument (name found : String)
  /-- The arguments are no mapping. -/
  | illegalArguments (found : String)
  /-- A placeholder is declared again although that is forbidden. -/
  | duplicateDeclaration (name : String)
  /-- The text of the options cannot be read. -/
  | malformedOptions (fault : OptionsFault)
  /-- The options make no sense. -/
  | illegalOptions (defect : OptionsDefect)
deriving DecidableEq, Repr

namespace Error

/-- The wording of an error. -/
def message : Error → String
  | .malformedTemplate fault => "Failed to parse template: " ++ fault.message ++ "."
  | .malformedArgument flavor fault =>
    "Failed to parse the '" ++ flavor.name ++ "' flavor of an argument: " ++ fault.message ++ "."
  | .missingArgument name => "Template argument '" ++ name ++ "' is required."
  | .recursiveArgument name => "Template argument '" ++ name ++ "' expands into itself."
  | .undefinedFlavor flavor => "Undefined or illegal flavor '" ++ flavor.name ++ "'."
  | .illegalArgument name found =>
    "Illegal argument '" ++ name ++ "': expected a string or a flavor mapping, got " ++ found ++ "."
  | .illegalArguments found => "Illegal template arguments: expected a mapping, got " ++ found ++ "."
  | .duplicateDeclaration name => "Placeholder '" ++ name ++ "' is declared more than once."
  | .malformedOptions fault => "Failed to parse template options. Original error: " ++ fault.message
  | .illegalOptions defect => "Invalid template options: " ++ defect.message ++ "."

/-- Whether the error arises when a template is made, and not when it is rendered. -/
def isConstruction : Error → Bool
  | .malformedTemplate _ | .duplicateDeclaration _ | .malformedOptions _ | .illegalOptions _ => true
  | _ => false

end Error

end Stencil
