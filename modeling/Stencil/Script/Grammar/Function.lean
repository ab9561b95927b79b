import Stencil.Script.Grammar.Binding
import Stencil.Script.Pattern
/-!
# Functions

Parameters, bodies, and the parts that functions, methods and accessors have in common. A body is strict behind
the directive for that, which is its first statement; the block of an arrow function knows no directives.
-/

namespace Stencil.Script.Grammar

/-! ## Blocks -/

/-- The spellings of the directive that makes code strict. -/
def strictDirectives : List String := ["'use strict'", "\"use strict\""]

/-- Whether a statement is the directive that makes code strict. -/
def isStrictDirective : Node → Bool
  | .node .expressionStatement [.text _ (some raw)] => strictDirectives.contains raw
  | _ => false

/-- Whether a statement is only a string, as directives are. -/
def isDirective : Node → Bool
  | .node .expressionStatement [.text _ _] => true
  | _ => false

/-- The statements of a body as long as the test holds. A token that follows the directive for strict code
without a semicolon between them was read before the directive took effect. -/
def bodyStatements (test : Parse Bool) (statement : Parse Node) : Parse (List Node) := do
  if ← test then
    let start ← startOffset
    let first ← statement
    if isStrictDirective first then
      within (fun c => { c with strict := true }) do
        if (← get).lastStart != start then rescan
        return first :: (← many test statement)
    else return first :: (← many test statement)
  else return []

/-- The statements up to the closing brace. A brace missing at the end of the text is a recorded flaw. -/
def blockStatements (parse : Productions) (hasDirectives : Bool) : Parse (List Node) := do
  let test : Parse Bool := return !(← isAt "\x7d") && !(← isDone)
  let statement := parse (.statement true false)
  let statements ← if hasDirectives then bodyStatements test statement else many test statement
  if ← isDone then recordHere (.expected "\x7d" "<eof>") else advance
  return statements

/-- A block. -/
def block (parse : Productions) : Parse Node := do
  expect "\x7b"
  return .node .block (← blockStatements parse false)

/-! ## Parameters -/

/-- A parameter with the comma after it. -/
def parameter (parse : Productions) : Parse Node := do
  if ← take "..." then restElement parse ")"
  else
    let pattern ← bindingElement parse
    separator ")"
    return pattern

/-- The parameters up to the closing parenthesis. -/
def parameters (parse : Productions) : Parse (List Node) :=
  many (return !(← isDone) && !(← isAt ")")) (parameter parse)

/-! ## Bodies -/

/-- What the body of a function allows. -/
def bodyContext (calling : Calling) (c : Context) : Context :=
  { c with
    isAsync := calling.isAsync
    isGenerator := calling.isGenerator
    inFunction := true
    inParameters := false
    inStaticBlock := false
    allowsIn := true }

/-- The block of a function; none of its directives may ask for strict code after patterns. -/
def functionBlock (parse : Productions) (hasDirectives : Bool) (params : List Node) : Parse Node := do
  let start ← here
  expect "\x7b"
  let statements ← blockStatements parse hasDirectives
  if (statements.takeWhile isDirective).any isStrictDirective && !Node.areSimpleParameters params then
    record start .strictWithPatterns
  return .node .block statements

/-- Parameters and body, from the opening parenthesis; `check` looks at the parameters. -/
def functionTail (parse : Productions) (calling : Calling) (allowsSuper : Bool)
    (check : List Node → Parse Unit) : Parse (List Node) := do
  within (fun c => { c with isAsync := calling.isAsync, isGenerator := calling.isGenerator
                            allowsSuper := allowsSuper, allowsNewTarget := true, inStaticBlock := false }) do
    expect "("
    let params ← within (fun c => { c with inParameters := true, inFunction := false, allowsIn := true })
      (parameters parse)
    check params
    expect ")"
    let body ← withinBody (bodyContext calling) (functionBlock parse true params)
    return [.node .parameters params, body]

/-- Accepts any parameters. -/
def anyParameters (_ : List Node) : Parse Unit := return ()

/-- Runs a step where `arguments` are those of a function of its own. -/
def withArguments {α : Type} (step : Parse α) : Parse α := within (fun c => { c with inClassField := false }) step

/-- A function, from its keyword on. The name of a function expression may be left out. -/
def function (parse : Productions) (isAsync isExpression : Bool) : Parse Node := do
  expectWord "function"
  let calling : Calling := { isAsync := isAsync, isGenerator := ← take "*" }
  let name ←
    if isExpression then
      within (fun c => { c with isAsync := calling.isAsync, isGenerator := calling.isGenerator }) do
        if ← isAtIdentifier then return .binding (← identifier) else return .absent
    else pure (.binding (← identifier))
  let tail ← withArguments (functionTail parse calling false anyParameters)
  return .node (if isExpression then .functionExpression calling else .functionDeclaration calling)
    (name :: tail)

/-! ## Methods -/

/-- Parameters and body of a method or accessor. A getter takes none, a setter one. -/
def methodTail (parse : Productions) (access : Access) : Parse (List Node) := do
  let start ← here
  withArguments <| match access with
  | .method calling => functionTail parse calling true anyParameters
  | .getter =>
    functionTail parse {} true fun params => do
      if !params.isEmpty then record start .getterParameters
  | .setter =>
    functionTail parse {} true fun params => do
      match params with
      | [.node .rest _] => record start .setterParameters
      | [_] => return ()
      | _ => record start .setterParameters

end Stencil.Script.Grammar
