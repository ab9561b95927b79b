import Stencil.Text.CharClass
/-!
# Placeholder tokens

A token is a name between dollar signs. Tokens are found from the left and do not overlap: the dollar sign that
ends one cannot begin the next.
-/

namespace Stencil.Token

/-- A piece of a text: a character by itself, or a token. -/
inductive Segment where
  | char (c : Char)
  | token (name : String)
deriving DecidableEq, Repr

/-- The pieces of a text. -/
def segments : List Char → List Segment
  | [] => []
  | c :: rest =>
    let name := rest.takeWhile Text.isWord
    if c = '$' ∧ name ≠ [] ∧ (rest.drop name.length).head? = some '$' then
      .token (String.ofList name) :: segments (rest.drop (name.length + 1))
    else .char c :: segments rest
termination_by cs => cs.length
decreasing_by all_goals (simp [List.length_drop]; try omega)

/-- The text of a token. -/
def text (name : String) : String := "$" ++ name ++ "$"

/-- The text of a piece. -/
def Segment.text : Segment → List Char
  | .char c => [c]
  | .token name => (Token.text name).toList

/-- The name of a text that is one token and nothing else: the text begins with a dollar sign, and the one behind the
name ends it. -/
def whole? (text : String) : Option String :=
  match text.toList with
  | [] => none
  | c :: rest =>
    let name := rest.takeWhile Text.isWord
    if c = '$' ∧ name ≠ [] ∧ rest.drop name.length = ['$'] then some (String.ofList name) else none

end Stencil.Token
