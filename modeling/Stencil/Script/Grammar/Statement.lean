import Stencil.Script.Grammar.Declaration
/-!
# Statements

One production per form, chosen by the token a statement begins with. Whatever begins no other form is an
expression, and an identifier before a colon is a label.
-/

namespace Stencil.Script.Grammar

/-- A statement that is part of another one; it cannot be a declaration. -/
def body (parse : Productions) : Parse Node := parse (.statement false false)

/-- The body of a loop. -/
def loopBody (parse : Productions) : Parse Node :=
  within (fun c => { c with allowsBreak := true, allowsContinue := true }) (body parse)

/-- An expression in the parentheses that a statement has. -/
def condition (parse : Productions) : Parse Node := do
  expect "("
  let test ← withIn (parse .expression)
  expect ")"
  return test

/-! ## Branches and loops -/

/-- A conditional statement. -/
def ifStatement (parse : Productions) : Parse Node := do
  advance
  let test ← condition parse
  let consequent ← body parse
  let alternative ← if ← takeWord "else" then body parse else pure .absent
  return .node .ifElse [test, consequent, alternative]

/-- A `while` loop. -/
def whileStatement (parse : Productions) : Parse Node := do
  advance
  let test ← condition parse
  return .node .whileLoop [test, ← loopBody parse]

/-- A loop that tests after its body. -/
def doStatement (parse : Productions) : Parse Node := do
  advance
  let inner ← loopBody parse
  expectWord "while"
  let test ← condition parse
  discard takeSemicolon
  return .node .doWhile [test, inner]

/-- A `for` loop. -/
def forStatement (parse : Productions) : Parse Node := do
  let start ← startOffset
  advance
  let isAwait ← takeWord "await"
  expect "("
  let head ← loopHead parse isAwait
  expect ")"
  if isAwait && head.kind != .forOf true then record start .awaitInPlainLoop
  return .node head.kind (head.parts ++ [← loopBody parse])

/-- A statement whose names are looked up in an object; it counts as the body of a function. -/
def withStatement (parse : Productions) : Parse Node := do
  advance
  let object ← condition parse
  return .node .withScope [object, ← within (fun c => { c with inFunction := true }) (body parse)]

/-! ## Switches -/

/-- A case of a switch with its statements; only one may be the default. -/
def switchCases (parse : Productions) : Nat → Bool → Parse (List Node)
  | 0, _ => return []
  | steps + 1, hasDefault => do
    let isCase ← isAtWord "case"
    if isCase || (← isAtWord "default") then
      advance
      if !isCase && hasDefault then fail .duplicateDefault
      let test ← if isCase then withIn (parse .expression) else pure .absent
      expect ":"
      let statements ← many
        (return !(← isDone) && !(← isAtWord "case") && !(← isAtWord "default") && !(← isAt "\x7d"))
        (parse (.statement true false))
      let rest ← switchCases parse steps (hasDefault || !isCase)
      return .node .switchCase (test :: statements) :: rest
    else return []

/-- A switch. -/
def switchStatement (parse : Productions) : Parse Node := do
  advance
  let discriminant ← condition parse
  expect "\x7b"
  let cases ← within (fun c => { c with allowsBreak := true }) (switchCases parse (← stepsLeft) false)
  expect "\x7d"
  return .node .switchStatement (discriminant :: cases)

/-! ## Jumps -/

/-- A `return`; outside of functions it has to be allowed. -/
def returnStatement (parse : Productions) : Parse Node := do
  let start ← startOffset
  advance
  let value ← if ← atStatementEnd then pure .absent else withIn (parse .expression)
  expectSemicolon
  let c ← context
  if c.inStaticBlock || !(c.inFunction || c.allowsReturn) then record start .returnOutsideFunction
  return .node .returnStatement [value]

/-- A `throw`, whose value begins on the same line. -/
def throwStatement (parse : Productions) : Parse Node := do
  advance
  if ← afterLine then fail .lineBreakAfterThrow
  let value ← withIn (parse .expression)
  expectSemicolon
  return .node .throwStatement [value]

/-- The label of a jump, if it has one. -/
def jumpLabel : Parse Node := do
  if ← takeSemicolon then return .absent
  else
    let name ← identifier
    expectSemicolon
    return .binding name

/-- Whether a label is left out or in force. -/
def isKnownLabel (label : Node) : Parse Bool := do
  match label with
  | .binding name => return (← get).labels.contains name
  | _ => return true

/-- The name of a label. -/
def labelName : Node → String
  | .binding name => name
  | _ => ""

/-- A `break`. -/
def breakStatement : Parse Node := do
  let start ← startOffset
  advance
  let label ← jumpLabel
  if !(← isKnownLabel label) then record start (.unknownLabel (labelName label))
  else if !(← context).allowsBreak then record start .breakOutsideLoop
  return .node .breakStatement [label]

/-- A `continue`. -/
def continueStatement : Parse Node := do
  let start ← startOffset
  advance
  let label ← jumpLabel
  if !(← context).allowsContinue then record start .continueOutsideLoop
  else if !(← isKnownLabel label) then record start (.unknownLabel (labelName label))
  return .node .continueStatement [label]

/-! ## Handlers -/

/-- The handler of a `try`, if it has one. -/
def catchClause (parse : Productions) : Parse Node := do
  if ← takeWord "catch" then
    let param ←
      if ← take "(" then do
        let param ← parse .binding
        expect ")"
        pure param
      else pure .absent
    return .node .catchClause [param, ← block parse]
  else return .absent

/-- A `try` with a handler, a final block or both. -/
def tryStatement (parse : Productions) : Parse Node := do
  advance
  let guarded ← block parse
  let handler ← catchClause parse
  let finalizer ← if ← takeWord "finally" then block parse else pure .absent
  if handler.isAbsent && finalizer.isAbsent then recordHere .handlerMissing
  return .node .tryStatement [guarded, handler, finalizer]

/-! ## Expressions and labels -/

/-- What follows a label: a statement, or a plain function where code is not strict. -/
def labelledStatement (parse : Productions) (start : Nat) (name : String) : Parse Node := do
  let outer := (← get).labels
  if outer.contains name then record start (.duplicateLabel name)
  modify fun s => { s with labels := name :: outer }
  let inner ←
    if ← isAtWord "function" then do
      let node ← function parse false false
      if node.kind? != some (.functionDeclaration {}) then record start .labelledFunction
      if (← context).strict then record start .labelledFunctionWhenStrict
      pure node
    else within (fun c => { c with allowsBreak := true }) (body parse)
  modify fun s => { s with labels := outer }
  return .node .labelled [.binding name, inner]

/-- An expression as a statement, or a labelled statement. -/
def expressionStatement (parse : Productions) : Parse Node := do
  let start ← startOffset
  let value ← withIn (parse .expression)
  match value, ← isAt ":" with
  | .ref name, true =>
    advance
    labelledStatement parse start name
  | _, _ =>
    if ← takeSemicolon then return .statement value
    else
      if (← binaryOperator?).isSome then
        recordHere (.expected ";" (← token).describe)
        return .statement (← binaryRest parse (← stepsLeft) 0 value)
      else fail .semicolonExpected

/-- A statement that begins with the word `import`, or with `export`. -/
def importStatement (parse : Productions) : Parse Node := do
  let next := (← nextLexeme).token
  if (← isAtWord "import") && (next = .punctuator "(" || next = .punctuator ".") then
    let value ← parse .expression
    discard takeSemicolon
    return .statement value
  else fail .moduleSyntax

/-! ## All statements -/

/-- A declaration of a function or class; where none is allowed, that is a recorded flaw. -/
def declaring (declares : Bool) (step : Parse Node) : Parse Node := do
  if !declares then recordHere .declarationAsBody
  step

/-- A statement by the word it begins with, if that word has a form of its own. -/
def statementOfWord? (parse : Productions) (declares : Bool) : String → Option (Parse Node)
  | "break" => some breakStatement
  | "continue" => some continueStatement
  | "debugger" => some do
    advance
    expectSemicolon
    return .atom .debuggerStatement
  | "do" => some (doStatement parse)
  | "for" => some (forStatement parse)
  | "function" => some (declaring declares (function parse false false))
  | "class" => some (declaring declares (classFrom parse false))
  | "if" => some (ifStatement parse)
  | "return" => some (returnStatement parse)
  | "switch" => some (switchStatement parse)
  | "throw" => some (throwStatement parse)
  | "try" => some (tryStatement parse)
  | "while" => some (whileStatement parse)
  | "with" => some (withStatement parse)
  | "var" => some (declaration parse .plain)
  | "const" => if declares then some (declaration parse .constant) else none
  | "import" => some (importStatement parse)
  | "export" => some (importStatement parse)
  | _ => none

/-- Whether the word `async` begins a function here. -/
def isAtAsyncFunction : Parse Bool := do
  if ← isAtWord "async" then
    let next ← nextLexeme
    return next.token = .word "function" false && !next.afterLine
  else return false

/-- A statement that begins with another word. -/
def wordStatement (parse : Productions) (declares outermost : Bool) : Parse Node := do
  if outermost && (← isAtWord "await") then recordHere .awaitOutsideAsync
  if declares && (← isAtLetDeclaration) then declaration parse .lexical
  else if ← isAtAsyncFunction then
    advance
    function parse true false
  else expressionStatement parse

/-- A statement. -/
def statement (parse : Productions) (declares outermost : Bool) : Parse Node := do
  match ← requireToken with
  | .word name false =>
    match statementOfWord? parse declares name with
    | some step => step
    | none => wordStatement parse declares outermost
  | .punctuator ";" =>
    advance
    return .atom .empty
  | .punctuator "\x7b" => block parse
  | _ => expressionStatement parse

end Stencil.Script.Grammar
