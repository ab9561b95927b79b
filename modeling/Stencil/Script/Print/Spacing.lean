import Stencil.Script.Layout
import Stencil.Script.Tree
/-!
# Spaces between words

Two words need a space between them. A form that begins or ends with a word is told by its shape: by its
leftmost part at the start, by its outermost form at the end.
-/

namespace Stencil.Script

namespace Node

/-- Whether the text of a literal begins with a word. -/
def atomStartsWord : Atom → Bool
  | .absent | .hole | .empty | .regex _ _ | .privateName _ | .emptyMember => false
  | _ => true

/-- Whether the text of a node begins with a word. -/
def startsWord : Node → Bool
  | .ref _ | .binding _ | .name _ | .shorthand _ => true
  | .text _ _ => false
  | .atom a => atomStartsWord a
  | .node kind (first :: rest) =>
    match kind with
    | .block | .array | .object | .paren | .template _ | .arrayPattern | .objectPattern | .spread _ | .rest
    | .computed => false
    | .unary op => op.isWord
    | .update isPrefix _ => !isPrefix && first.startsWord
    | .arrow isAsync => isAsync || first.startsWord
    | .parameters => rest.isEmpty && first.startsWord
    | .expressionStatement | .binary _ | .assign _ | .conditional | .sequence | .dot _ | .index _ | .call _
    | .tagged _ | .defaulted => first.startsWord
    | _ => true
  | .node kind [] =>
    match kind with
    | .block | .array | .object | .template _ | .arrayPattern | .objectPattern | .parameters => false
    | _ => true

/-- Whether the text of a node ends with a word, as far as its outermost form tells. -/
def endsWord : Node → Bool
  | .text _ _ => false
  | .node kind parts =>
    match kind, parts with
    | .array, _ | .object, _ | .paren, _ | .index .plain, _ | .arrayPattern, _ | .objectPattern, _ => false
    | .variableList _, declarators => lastEndsWord declarators
    | .declarator, [pattern, value] => if value.isAbsent then pattern.endsWord else value.endsWord
    | _, _ => true
  | _ => true
where
  /-- Whether the last of the nodes ends with a word. -/
  lastEndsWord : List Node → Bool
    | [] => true
    | [last] => last.endsWord
    | _ :: rest => lastEndsWord rest

end Node

end Stencil.Script
