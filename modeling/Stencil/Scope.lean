import Stencil.Argument
import Stencil.Registry
/-!
# Scopes

What one rendering looks at: the declared placeholders, the arguments and the substitution policy; and the
substitution of tokens inside one text.
-/

namespace Stencil

/-- What one rendering looks at. -/
structure Scope where
  registry : Registry
  arguments : Arguments
  policy : SubstitutionPolicy := .all

namespace Scope

/-- The argument of a placeholder in use. -/
def argument (scope : Scope) (name : String) : Except Error Argument :=
  match scope.arguments.find? name with
  | some argument => .ok argument
  | none => .error (.missingArgument name)

/-- The text for a flavor of a placeholder in use. -/
def textOf (scope : Scope) (flavor : Flavor) (name : String) : Except Error String := do
  (← scope.argument name).toText flavor

/-! ## Substitution -/

open Token

/-- A text with its tokens replaced, and whether one was. -/
structure Substituted where
  text : List Char
  changed : Bool

/-- Puts characters in front. -/
def Substituted.prepend (front : List Char) (changed : Bool) (s : Substituted) : Substituted :=
  ⟨front ++ s.text, changed || s.changed⟩

/-- Pieces as they stand. -/
def verbatim (segments : List Segment) : List Char := segments.flatMap Segment.text

/-- Replaces the tokens of declared placeholders. Other tokens stay, and under the policy `first` whatever
follows the first token stays. -/
def substituteSegments (scope : Scope) (flavor : Flavor) : List Segment → Except Error Substituted
  | [] => .ok ⟨[], false⟩
  | .char c :: rest => do return (← scope.substituteSegments flavor rest).prepend [c] false
  | .token name :: rest => do
    let isDeclared := scope.registry.contains name
    let front ← if isDeclared then (do return (← scope.textOf flavor name).toList)
      else .ok (Token.text name).toList
    match scope.policy with
    | .all => return (← scope.substituteSegments flavor rest).prepend front isDeclared
    | .first => return Substituted.prepend front isDeclared ⟨verbatim rest, false⟩

/-- A text with its tokens replaced; none if nothing was. -/
def substitute (scope : Scope) (flavor : Flavor) (text : String) : Except Error (Option String) := do
  let result ← scope.substituteSegments flavor (segments text.toList)
  return if result.changed then some (String.ofList result.text) else none

end Scope

end Stencil
