import Stencil.Declaration
import Stencil.Journal
import Stencil.Options
import Stencil.Token
/-!
# Registries

The placeholders that a template declares, in the order of their first declarations.
-/

namespace Stencil

/-- The declared placeholders with their descriptions. -/
structure Registry where
  entries : List (String × String) := []
deriving DecidableEq, Repr

namespace Registry

/-- The declared names. -/
def names (r : Registry) : List String := r.entries.map Prod.fst

/-- Whether a name is declared. -/
def contains (r : Registry) (name : String) : Bool := r.names.contains name

theorem contains_iff {r : Registry} {name : String} : r.contains name = true ↔ name ∈ r.names := by
  simp [contains]

/-- The description of a declared name. -/
def description? (r : Registry) (name : String) : Option String :=
  (r.entries.find? fun entry => entry.1 = name).map Prod.snd

/-- The entries with a description set; a new name comes last. -/
def setEntry (name description : String) : List (String × String) → List (String × String)
  | [] => [(name, description)]
  | entry :: rest =>
    if entry.1 = name then (name, description) :: rest else entry :: setEntry name description rest

/-- Declares a name, or replaces its description. -/
def insert (r : Registry) (d : Declaration) : Registry := ⟨setEntry d.name d.description r.entries⟩

/-- The name of a text that is one token of a declared placeholder and nothing else. -/
def wholeToken? (r : Registry) (text : String) : Option String :=
  (Token.whole? text).filter r.contains

theorem wholeToken?_eq_some_iff {r : Registry} {text name : String} :
    r.wholeToken? text = some name ↔ r.contains name = true ∧ Token.whole? text = some name := by
  rw [wholeToken?, Option.filter_eq_some_iff, and_comm]

/-- Whether two registries declare the same names with the same descriptions, in any order. -/
def sameAs (r s : Registry) : Bool :=
  r.entries.length = s.entries.length &&
    r.entries.all fun entry => s.description? entry.1 = some entry.2

/-- Declares a name under a duplicate policy. -/
def declare (policy : DuplicatePolicy) (r : Registry) (d : Declaration) : Logged Registry := do
  if r.contains d.name then
    match policy with
    | .error => Logged.fail (.duplicateDeclaration d.name)
    | .lastWins =>
      Logged.warn ("Placeholder '" ++ d.name ++ "' is declared again, keeping the last description")
  Logged.debug ("Declared placeholder '" ++ d.name ++ "': " ++ d.description)
  return r.insert d

/-- Adds the declaration of a comment, if it makes one. -/
def addComment (options : Options) (r : Registry) (comment : String) : Logged Registry :=
  match Declaration.ofComment? options.directive comment with
  | some d => declare options.duplicates r d
  | none => return r

/-- The placeholders that comments declare. A directive is matched as it is written, and none is refused here: that a
pattern for it can be made is an assumption. A pattern engine may refuse one that is longer than its limits allow,
and making a template would then fail as for options that are not valid. -/
def ofComments (options : Options) (comments : List String) : Logged Registry :=
  comments.foldlM (addComment options) {}

end Registry

end Stencil
