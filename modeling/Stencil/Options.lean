import Stencil.Error
import Stencil.Text.CharClass
/-!
# Options

How a template is made and printed: the word that declares placeholders, what happens with several tokens in
one text and with a second declaration, and whether the text is minified.
-/

namespace Stencil

/-- Which tokens of one text are substituted. -/
inductive SubstitutionPolicy where
  | all
  /-- Only the first token is looked at, declared or not. -/
  | first
deriving DecidableEq, Repr

/-- What happens when a placeholder is declared again. -/
inductive DuplicatePolicy where
  /-- The later description replaces the earlier one. -/
  | lastWins
  /-- No template is made. -/
  | error
deriving DecidableEq, Repr

namespace SubstitutionPolicy

/-- The name of a policy. -/
def name : SubstitutionPolicy → String
  | .all => "all"
  | .first => "first"

/-- The policy of that name. -/
def ofName? (name : String) : Option SubstitutionPolicy := [all, first].find? fun p => p.name = name

end SubstitutionPolicy

namespace DuplicatePolicy

/-- The name of a policy. -/
def name : DuplicatePolicy → String
  | .lastWins => "last-wins"
  | .error => "error"

/-- The policy of that name. -/
def ofName? (name : String) : Option DuplicatePolicy := [lastWins, error].find? fun p => p.name = name

end DuplicatePolicy

/-- The options of a template. -/
structure Options where
  /-- The word that begins a declaration. -/
  directive : String := "@ming"
  substitution : SubstitutionPolicy := .all
  duplicates : DuplicatePolicy := .lastWins
  minify : Bool := false
deriving DecidableEq, Repr

namespace Options

/-- What is wrong with options: the directive has to be a word without blanks. -/
def defect? (options : Options) : Option OptionsDefect :=
  if options.directive.isEmpty then some .emptyDirective
  else if options.directive.toList.any Text.isBlank then some .blankInDirective
  else none

/-- Checks options. -/
def validate (options : Options) : Except Error Unit :=
  match options.defect? with
  | some defect => .error (.illegalOptions defect)
  | none => .ok ()

/-- The options, if nothing is wrong with them. -/
def checked (options : Options) : Except Error Options := do
  options.validate
  return options

end Options

end Stencil
