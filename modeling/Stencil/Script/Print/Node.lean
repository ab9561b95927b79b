import Stencil.Script.Print.Form
/-!
# Printed scripts

The text of a tree, indented or minified.
-/

namespace Stencil.Script.Node

mutual

/-- The layout of a tree. -/
def layout (minify : Bool) : Node → Layout
  | .ref id => .text id
  | .binding id => .text id
  | .name id => .text id
  | .shorthand id => .text id
  | .text value raw => Print.string minify value raw
  | .atom a => Print.atom minify a
  | .node kind parts => Print.form minify kind (layouts minify parts)

/-- The parts of a tree with their layouts. -/
def layouts (minify : Bool) : List Node → List Print.Part
  | [] => []
  | part :: rest => ⟨part, part.layout minify⟩ :: layouts minify rest

end

/-- The text of a tree, without blanks at its end. -/
def print (minify : Bool) (tree : Node) : String := (tree.layout minify).render

end Stencil.Script.Node
