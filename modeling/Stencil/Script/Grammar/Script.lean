import Stencil.Script.Grammar.Statement
/-!
# Scripts

The grammar tied together, and the reading of a whole text. Every production is a step of its own, so the
depth of the grammar is bounded by the length of the text. A flaw that ends the reading is reported before
those that were only recorded, and of these the first one.
-/

namespace Stencil.Script

namespace Grammar

/-- The grammar as one table, given the productions of smaller depth. -/
def production (parse : Productions) : Productions
  | .expression => expression parse
  | .assignment => assignment parse
  | .unary => unary parse
  | .member => member parse
  | .leftHandSide => leftHandSide parse
  | .statement declares outermost => statement parse declares outermost
  | .binding => bindingPattern parse

/-- The grammar up to a depth. -/
def productions : Nat → Productions
  | 0 => fun _ => fail .nestedTooDeeply
  | depth + 1 => production (productions depth)

/-- A depth that no text of that length exceeds. -/
def depthBound (length : Nat) : Nat := 4 * length + 16

/-- All statements of a script. -/
def scriptStatements (parse : Productions) : Parse (List Node) :=
  bodyStatements (return !(← isDone)) (parse (.statement true true))

/-- The first line of a script that names its interpreter. -/
def shebang? (source : List Char) : Option (List Char) :=
  match source with
  | '#' :: '!' :: rest => some (rest.takeWhile fun c => !Text.isLineEnd c)
  | _ => none

/-- The state before the first token; the place counts as the start of a line. -/
def State.initial (source : List Char) (start : Nat) (allowsReturn : Bool) : State :=
  let first := Scan.lexeme false ⟨start, source.drop start⟩ true
  { current := first
    lastStart := start
    size := source.length
    comments := first.comments
    flaws := first.flaws.reverse
    context := { allowsReturn := allowsReturn }
    labels := []
    arrowStart := none }

end Grammar

/-- A script with the texts of its line comments in source order. -/
structure Parsed where
  script : Node
  comments : List String

open Grammar in
/-- Reads a script; `allowsReturn` lets it return from its outermost level. -/
def parse (source : String) (allowsReturn : Bool) : Except Fault Parsed :=
  let text := source.toList
  let shebang := shebang? text
  let start := (shebang.map (·.length + 2)).getD 0
  let steps := scriptStatements (productions (depthBound text.length))
  match steps.run (State.initial text start allowsReturn) with
  | .error flaw _ => .error (flaw.locate text)
  | .ok statements final =>
    let script := .node (.script (shebang.map String.ofList)) statements
    match final.flaws.getLast? with
    | some flaw => .error (flaw.locate text)
    | none => .ok ⟨script, final.comments.reverse.map Comment.text⟩

end Stencil.Script
