import Stencil.Script.Grammar.Operand
/-!
# Expressions

Operators around operands: prefix and update operators, binary operators by their strength, conditionals,
assignments and sequences. An operand that cannot be read before a binary operator is a recorded flaw.
-/

namespace Stencil.Script.Grammar

/-! ## Prefix and update operators -/

/-- Records an operand that an update operator cannot assign to. -/
def checkUpdateTarget (start : Nat) (operand : Node) : Parse Unit := do
  if !operand.isSimpleTarget (← context).strict then record start .invalidTarget

/-- An update operator in front of its operand. -/
def updateBefore (parse : Productions) (isIncrement : Bool) : Parse Node := do
  advance
  let start ← here
  let operand ← parse .unary
  checkUpdateTarget start operand
  return .node (.update true isIncrement) [operand]

/-- A prefix operator with its operand; an operand that cannot be read is a recorded flaw. -/
def unaryFrom (parse : Productions) (op : UnaryOp) : Parse Node := do
  advance
  match ← attempt (parse .unary) with
  | .ok operand => return .node (.unary op) [operand]
  | .error flaw =>
    recordFlaw flaw
    return .node (.unary op) [.absent]

/-- The word `await` with its operand; where nothing can be awaited it is an identifier. -/
def awaitFrom (parse : Productions) : Parse Node := do
  let start ← startOffset
  advance
  let c ← context
  if !c.isAsync && ((← isAtOne [")", "]", ","]) || (← atStatementEnd)) then return .ref "await"
  else
    if !c.isAsync then record start .awaitOutsideAsync
    else if c.inParameters && !c.inFunction then record start .awaitInParameters
    return .node .await [← parse .unary]

/-- The prefix operator at the current token. -/
def unaryOperator? : Parse (Option UnaryOp) := do
  match ← token with
  | .punctuator text => return UnaryOp.ofText? text
  | .word name false => return UnaryOp.ofText? name
  | _ => return none

/-- An operand with the update operator behind it, if there is one on the same line. -/
def updated (parse : Productions) : Parse Node := do
  let start ← here
  let operand ← leftHandSide parse
  if operand.isArrow || (← afterLine) then return operand
  else if ← isAtOne ["++", "--"] then
    checkUpdateTarget start operand
    let isIncrement ← isAt "++"
    advance
    return .node (.update false isIncrement) [operand]
  else return operand

/-- An operand of a binary operator. -/
def unary (parse : Productions) : Parse Node := do
  match ← unaryOperator? with
  | some op => unaryFrom parse op
  | none =>
    if ← isAt "++" then updateBefore parse true
    else if ← isAt "--" then updateBefore parse false
    else if ← isAtWord "await" then awaitFrom parse
    else updated parse

/-! ## Binary operators -/

/-- Whether an expression is one that `**` may not follow. -/
def isUnaryForm (operand : Node) : Bool :=
  match operand.kind? with
  | some (.unary _) => true
  | some .await => true
  | _ => false

/-- The operator of a binary expression that is not in parentheses. -/
def bareOperator? (operand : Node) : Option BinaryOp :=
  match operand.kind? with
  | some (.binary op) => some op
  | _ => none

/-- Whether the operator may not stand beside the other without parentheses. -/
def mixes (op : BinaryOp) (other : Option BinaryOp) : Bool :=
  match op, other with
  | .coalesce, some .logicOr => true
  | .coalesce, some .logicAnd => true
  | .logicOr, some .coalesce => true
  | .logicAnd, some .coalesce => true
  | _, _ => false

/-- Goes on with operators that bind more strongly than `least`. -/
def binaryRest (parse : Productions) : Nat → Nat → Node → Parse Node
  | 0, _, left => return left
  | steps + 1, least, left => do
    match ← binaryOperator? with
    | none => return left
    | some op =>
      if op.strength ≤ least then return left
      else
        advance
        if op = .power && isUnaryForm left then fail .unaryBeforePower
        let operand ← parse .unary
        let right ← binaryRest parse steps (if op = .power then op.strength - 1 else op.strength) operand
        if mixes op (bareOperator? left) || mixes op (bareOperator? right) then recordHere .mixedCoalescing
        binaryRest parse steps least (.node (.binary op) [left, right])

/-- Operands and binary operators. -/
def binary (parse : Productions) : Parse Node := do
  match ← attempt (unary parse) with
  | .ok left => if left.isArrow then return left else binaryRest parse (← stepsLeft) 0 left
  | .error flaw =>
    discard requireToken
    if (← binaryOperator?).isSome then
      recordHere .expressionExpected
      binaryRest parse (← stepsLeft) 0 .absent
    else throw flaw

/-- A test with two alternatives, or only an operand. -/
def conditional (parse : Productions) : Parse Node := do
  let test ← binary parse
  if test.isArrow then return test
  else if ← take "?" then
    let consequent ← withIn (parse .assignment)
    expect ":"
    return .node .conditional [test, consequent, ← parse .assignment]
  else return test

/-! ## Assignment -/

/-- Words that may begin an expression although they are keywords. -/
def startingKeywords : List String :=
  ["function", "this", "super", "class", "new", "import", "typeof", "void", "delete", "null", "true", "false"]

/-- Punctuators that may begin an expression. -/
def startingPunctuators : List String :=
  ["(", "[", "\x7b", "+", "-", "!", "~", "++", "--", "/", "/=", "`", "<"]

/-- Whether an expression may begin with the token. -/
def startsExpression : Token → Bool
  | .word name _ => !keywords.contains name || startingKeywords.contains name
  | .punctuator text => startingPunctuators.contains text
  | .done => false
  | _ => true

/-- The word `yield` and its argument, which may be left out. -/
def yieldFrom (parse : Productions) : Parse Node := do
  advance
  let c ← context
  if c.inParameters && !c.inFunction then fail .yieldInParameters
  if ← atStatementEnd then return .node (.yield false) [.absent]
  else if ← take "*" then return .node (.yield true) [← parse .assignment]
  else if startsExpression (← token) then return .node (.yield false) [← parse .assignment]
  else return .node (.yield false) [.absent]

/-- The assignment operator at the current token. -/
def assignOperator? : Parse (Option AssignOp) := do
  match ← token with
  | .punctuator text => return AssignOp.ofText? text
  | _ => return none

/-- Goes on with an assignment to what was read. -/
def assignmentFrom (parse : Productions) (start : Nat) (left : Node) : Parse Node := do
  match ← assignOperator? with
  | none => return left
  | some .plain =>
    match left.toTarget? (← context).strict with
    | none => failAt start .invalidTarget
    | some target =>
      advance
      return .node (.assign .plain) [target, ← parse .assignment]
  | some op =>
    if !left.isSimpleTarget (← context).strict then record start .invalidTarget
    advance
    let target := match left with
      | .ref name => .binding name
      | _ => left
    return .node (.assign op) [target, ← parse .assignment]

/-- Whether an expression is no target that an assignment could follow. -/
def endsAssignment (operand : Node) : Bool :=
  match operand.kind? with
  | some (.arrow _) | some .conditional | some (.binary _) | some (.unary _) | some (.update _ _) => true
  | _ => false

/-- An assignment expression. -/
def assignment (parse : Productions) : Parse Node := do
  if (← context).isGenerator && (← isAtWord "yield") then yieldFrom parse
  else
    let start ← startOffset
    let arrowStart := match ← requireToken with
      | .word name _ => if name = "let" then none else some start
      | .punctuator "(" => some start
      | _ => none
    modify fun s => { s with arrowStart := arrowStart }
    let left ← conditional parse
    if endsAssignment left then return left else assignmentFrom parse start left

/-- Assignment expressions separated by commas. -/
def expression (parse : Productions) : Parse Node := do
  let first ← parse .assignment
  let rest ← many (isAt ",") (do advance; parse .assignment)
  if rest.isEmpty then return first else return .node .sequence (first :: rest)

end Stencil.Script.Grammar
