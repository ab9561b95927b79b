import Stencil.Script.Grammar.Literal
/-!
# Arrow functions and parentheses

What stands in parentheses is read as expressions; an arrow behind them makes it the parameters of a function.
An arrow is only possible where an assignment expression begins. Without one, an object literal that is no
expression is noticed if it stands directly in the parentheses.
-/

namespace Stencil.Script.Grammar

/-- The operator at the current token. -/
def binaryOperator? : Parse (Option BinaryOp) := do
  match ← token with
  | .punctuator text => return BinaryOp.ofText? text
  | .word "in" false => return if (← context).allowsIn then some .inside else none
  | .word "instanceof" false => return some .instanceOf
  | _ => return none

/-- An arrow function, from behind its arrow. -/
def arrowFrom (parse : Productions) (isAsync : Bool) (params : List Node) : Parse Node := do
  let calling : Calling := { isAsync := isAsync }
  let isBlock ← isAt "\x7b"
  let body ← withinBody (fun c => { bodyContext calling c with allowsIn := c.allowsIn })
    (if isBlock then functionBlock parse false params else parse .assignment)
  if isBlock && (← binaryOperator?).isSome then recordHere (.expected ")" (← token).describe)
  return .node (.arrow isAsync) [.node .parameters params, body]

/-- What was read in parentheses as parameters; they may have names that strict code does not assign to. -/
def toParameters? (items : List Node) : Option (List Node) := do
  let params ← Node.toElements? false items
  if params.all Node.isBindingPattern then some params else none

/-- What was read in parentheses as an expression. -/
def closeParentheses (start : Nat) (items : List Node) : Parse Node := do
  if items.isEmpty then failAt start .emptyParentheses
  if items.any Node.isSpread then failAt start .spreadInParentheses
  match items with
  | [item] => return .parenthesized item
  | _ => return .parenthesized (.node .sequence items)

/-- Records an object literal with a default value that no pattern can be made of any more. -/
def checkDefaults (start : Nat) (items : List Node) : Parse Unit := do
  if items.any Node.hasCoverInitializer then record start .defaultOutsidePattern

/-- Something in parentheses: an expression, the parameters of an arrow function, or the arguments of a call
of `async`. -/
def parentheses (parse : Productions) (start : Nat) (isAsync canBeArrow : Bool) : Parse Node := do
  expect "("
  let items ← many (return !(← isDone) && !(← isAt ")")) (do separated ")" (← spreadable parse))
  expect ")"
  if ← isAt "=>" then
    if ← afterLine then failAt start .lineBreakBeforeArrow
    if !canBeArrow then failAt start .arrowNotAllowed
    advance
    match toParameters? items with
    | some params => arrowFrom parse isAsync params
    | none => failAt start .invalidParameter
  else
    checkDefaults start items
    if isAsync then return .node (.call .plain) (.ref "async" :: items) else closeParentheses start items

/-- Whether the word `of` here belongs to a loop that awaits its values, and is not the parameter of an arrow
function. -/
def isAtAwaitedOf : Parse Bool := do
  return (← context).inAwaitingHead && (← isAtWord "of") && (← nextLexeme).token != .punctuator "=>"

/-- An identifier, or an arrow function that it is the parameter of. -/
def identifierOperand (parse : Productions) (name : String) (canBeArrow : Bool) : Parse Node := do
  let start ← startOffset
  advance
  checkArguments start name
  if canBeArrow && !(← afterLine) then
    if name = "async" && (← isAtAwaitedOf) then return .ref name
    else if name = "async" && (← isAtIdentifier) then
      let param ← identifier
      expect "=>"
      arrowFrom parse true [.binding param]
    else if ← take "=>" then arrowFrom parse false [.binding name]
    else return .ref name
  else return .ref name

/-- What the word `async` begins: a function, an arrow function, a call, or the identifier. -/
def asyncOperand (parse : Productions) (start : Nat) (canBeArrow : Bool) : Parse Node := do
  let next ← nextLexeme
  if next.token = .word "function" false && !next.afterLine then
    advance
    function parse true true
  else if canBeArrow && next.token = .punctuator "(" && !next.afterLine then
    advance
    parentheses parse start true canBeArrow
  else identifierOperand parse "async" canBeArrow

end Stencil.Script.Grammar
