import Stencil.Script.Grammar.Arrow
import Stencil.Script.Grammar.Class
/-!
# Operands

The forms without operators: literals, identifiers, parentheses, and chains of member accesses, calls and
tagged templates. A chain after `?.` stays optional up to its end.
-/

namespace Stencil.Script.Grammar

/-- An expression that begins no chain. -/
def primary (parse : Productions) : Parse Node := do
  let start ← startOffset
  let canBeArrow := (← get).arrowStart = some start
  match ← token with
  | .word "this" false => constant .thisObject
  | .word "null" false => constant .nullLiteral
  | .word "true" false => constant (.boolean true)
  | .word "false" false => constant (.boolean false)
  | .word "function" false => function parse false true
  | .word "class" false => classFrom parse true
  | .word "async" false => asyncOperand parse start canBeArrow
  | .number raw => constant (.number raw)
  | .bigInt raw => constant (.bigInt raw)
  | .privateName name => constant (.privateName name)
  | .string value raw =>
    advance
    return .text value (some raw)
  | .punctuator "[" => arrayLiteral parse
  | .punctuator "\x7b" => objectLiteral parse
  | .punctuator "(" => parentheses parse start false canBeArrow
  | .punctuator "/" => regularExpression
  | .punctuator "/=" => regularExpression
  | .punctuator "`" => template parse
  | .word name _ =>
    if name = "let" || (← isAtIdentifier) then identifierOperand parse name canBeArrow
    else fail .expressionExpected
  | _ => fail .expressionExpected
where
  /-- A literal of one token. -/
  constant (value : Atom) : Parse Node := do
    advance
    return .atom value

/-! ## Chains -/

/-- The arguments of a call. A comma behind the last one is not allowed in those of an import. -/
def arguments (parse : Productions) (isImport : Bool) : Parse (List Node) := do
  expect "("
  let items ← many (return !(← isDone) && !(← isAt ")")) do
    let item ← spreadable parse
    let hasComma ← take ","
    if hasComma && isImport && (← isAt ")") then fail .importTrailingComma
    if !hasComma && !(← isDone) then separator ")"
    return item
  expect ")"
  return items

/-- Checks that the chain may go on with a member: `super` only in methods and without private members, a
dynamic import not before its call. -/
def checkMember (object name : Node) : Parse Unit := do
  match object, name with
  | .atom .superObject, .atom (.privateName _) => fail .superOutsideMethod
  | .atom .superObject, _ => if !(← context).allowsSuper then fail .superOutsideMethod
  | .atom (.importCallee _), _ => fail .importIncomplete
  | _, _ => return ()

/-- The name of a member after a dot. -/
def memberName : Parse Node := do
  match ← token with
  | .privateName name =>
    advance
    return .atom (.privateName name)
  | _ => return .name (← identifierName)

/-- Whether an expression is the callee of a dynamic import. -/
def isImportCallee (object : Node) : Bool := object matches .atom (.importCallee _)

/-- Gives up on `super` and `import` where what they need does not follow. -/
def checkComplete (object : Node) : Parse Unit := do
  match object with
  | .atom .superObject => fail .superOutsideMethod
  | .atom (.importCallee _) => fail .importIncomplete
  | _ => return ()

/-- The chain with one more link, if one follows; `calls` says whether calls may. -/
def subscript? (parse : Productions) (calls : Bool) (object : Node) : Parse (Option Node) := do
  let isOptional ← take "?."
  if isOptional then checkComplete object
  let link : Link := if isOptional then .optional else if object.isOptionalChain then .chained else .plain
  if ← take "[" then
    let key ← withIn (parse .expression)
    expect "]"
    checkMember object key
    return some (.node (.index link) [object, key])
  else if (isOptional || calls) && (← isAt "(") then
    let items ← arguments parse (isImportCallee object)
    return some (.node (.call link) (object :: items))
  else if isOptional || (← take ".") then
    let name ← memberName
    checkMember object name
    return some (.node (.dot link) [object, name])
  else if ← isAt "`" then
    checkComplete object
    if object.isOptionalChain then fail .optionalTemplate
    return some (← taggedTemplate parse object)
  else
    checkComplete object
    return none

/-- The chain with all links that follow. -/
def subscripts (parse : Productions) (calls : Bool) : Nat → Node → Parse Node
  | 0, object => return object
  | steps + 1, object => do
    match ← subscript? parse calls object with
    | some longer => subscripts parse calls steps longer
    | none => return object

/-- The chain with all links that follow. -/
def chain (parse : Productions) (calls : Bool) (object : Node) : Parse Node := do
  subscripts parse calls (← stepsLeft) object

/-- What a chain begins with. -/
def chainBase (parse : Productions) : Parse Node := do
  if ← takeWord "super" then return .atom .superObject
  else if ← isAtWord "import" then
    let start ← startOffset
    advance
    if ← take "." then
      match ← identifierName with
      | "source" => return .atom (.importCallee .source)
      | "defer" => return .atom (.importCallee .deferred)
      | _ => failAt start .importOutsideModule
    else return .atom (.importCallee .evaluation)
  else primary parse

/-! ## New -/

/-- What follows the word `new`. -/
def newExpression (parse : Productions) : Parse Node := do
  let start ← startOffset
  expectWord "new"
  if ← take "." then
    if ← takeWord "target" then
      if !(← context).allowsNewTarget then record start .newTargetOutsideFunction
      chain parse false (.atom .newTarget)
    else failUnexpected "target"
  else
    let callee ← parse .member
    if callee.isOptionalChain then fail .optionalConstructor
    if ← isAt "(" then
      chain parse false (.node (.new true) (callee :: (← arguments parse false)))
    else return .node (.new false) [callee]

/-- An expression without calls. -/
def member (parse : Productions) : Parse Node := do
  if ← isAtWord "new" then newExpression parse
  else
    let base ← chainBase parse
    if base.isArrow then return base else chain parse false base

/-- An expression without operators. -/
def leftHandSide (parse : Productions) : Parse Node := do
  if (← isAtWord "super") || (← isAtWord "import") then chain parse true (← chainBase parse)
  else
    let callee ← member parse
    match callee with
    | .node (.new false) _ => return callee
    | .node (.arrow _) _ => return callee
    | _ => if ← isAt "(" then chain parse true callee else return callee

end Stencil.Script.Grammar
