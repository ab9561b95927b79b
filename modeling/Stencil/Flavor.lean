/-!
# Flavors

An argument may give a text of its own for each kind of place in a script; the default one stands in for those
it does not give.
-/

namespace Stencil

/-- The kinds of texts that an argument may give. -/
inductive Flavor where
  /-- Stands in for a flavor that is not given. -/
  | default
  /-- For a whole statement. -/
  | statement
  /-- For a whole expression. -/
  | expression
  /-- Inside identifiers and property names. -/
  | identifier
  /-- Inside string literals. -/
  | literal
deriving DecidableEq, Repr

namespace Flavor

/-- All flavors. -/
def all : List Flavor := [.default, .statement, .expression, .identifier, .literal]

/-- The name of a flavor. -/
def name : Flavor → String
  | .default => "default"
  | .statement => "statement"
  | .expression => "expression"
  | .identifier => "identifier"
  | .literal => "literal"

/-- The flavor of that name. -/
def ofName? (name : String) : Option Flavor := all.find? fun flavor => flavor.name = name

end Flavor

end Stencil
