import Stencil.Text.CharClass
/-!
# Declarations

A line comment declares a placeholder when it begins with the directive, a name and perhaps a description, each
after blanks. The description runs to the end of the comment and holds no line feed.
-/

namespace Stencil

/-- A placeholder that a comment declares. -/
structure Declaration where
  name : String
  description : String
deriving DecidableEq, Repr

namespace Declaration

/-- What follows the name of a declaration: nothing, or a description after blanks. -/
def description? (rest : List Char) : Option String :=
  match rest with
  | [] => some ""
  | c :: _ =>
    let text := rest.dropWhile Text.isBlank
    if Text.isBlank c && !text.contains '\n' then some (Text.trimEnd (String.ofList text)) else none

/-- What follows the directive of a declaration: blanks, the name and the description. -/
def afterDirective? (rest : List Char) : Option Declaration :=
  let text := rest.dropWhile Text.isBlank
  let name := text.takeWhile Text.isWord
  if (rest.head?).any Text.isBlank && !name.isEmpty then
    (description? (text.dropWhile Text.isWord)).map fun description => ⟨String.ofList name, description⟩
  else none

/-- The declaration of a text that begins with the directive. -/
def fromDirective? (directive text : List Char) : Option Declaration :=
  if directive.isPrefixOf text then afterDirective? (text.drop directive.length) else none

/-- The declaration that a comment makes. The blanks in front of the directive are as many as possible. -/
def ofComment? (directive comment : String) : Option Declaration :=
  let text := comment.toList
  let blanks := (text.takeWhile Text.isBlank).length
  (List.range (blanks + 1)).reverse.findSome? fun count => fromDirective? directive.toList (text.drop count)

end Declaration

end Stencil
