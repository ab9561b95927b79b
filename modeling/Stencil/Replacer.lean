import Stencil.Scope
import Stencil.Script.Quoted
import Stencil.Text.Quoted
/-!
# Replacers

What becomes of a single node: a placeholder that is a whole statement or a whole expression is replaced by a
tree, tokens inside identifiers and string literals by texts. An expression that is put in the place of a
placeholder gets parentheses unless it binds as tightly as an identifier.
-/

namespace Stencil

open Script

/-! ## Parentheses -/

/-- Whether an expression keeps its meaning in the place of an identifier without parentheses. -/
def isSelfContained : Node → Bool
  | .ref _ | .text _ _ => true
  | .atom a =>
    match a with
    | .nullLiteral | .boolean _ | .number _ | .bigInt _ | .regex _ _ | .thisObject => true
    | _ => false
  | .node kind _ =>
    match kind with
    | .paren | .array | .dot .plain | .index .plain | .call .plain | .template _ | .tagged _ => true
    | _ => false
  | _ => false

/-- An expression with parentheses unless it needs none. -/
def guardPrecedence (expression : Node) : Node :=
  if isSelfContained expression then expression else .parenthesized expression

/-- Whether the text of an expression holds a call before the arguments that `new` would take for its own. -/
def callsInChain : Node → Bool
  | .node kind (first :: _) =>
    match kind with
    | .call _ | .new _ | .dot .optional | .dot .chained | .index .optional | .index .chained => true
    | .dot .plain | .index .plain | .tagged _ => callsInChain first
    | _ => false
  | _ => false

/-- The callee of `new` with parentheses if a call stands in it. -/
def guardCallee (callee : Node) : Node := if callsInChain callee then .parenthesized callee else callee

/-! ## Placeholders -/

namespace Scope

/-- The placeholder that an expression is. -/
def expressionPlaceholder? (scope : Scope) : Node → Option String
  | .ref name => scope.registry.wholeToken? name
  | _ => none

/-- The placeholder that a statement is. -/
def statementPlaceholder? (scope : Scope) : Node → Option String
  | .node .expressionStatement [value] => scope.expressionPlaceholder? value
  | _ => none

/-- The tree for a placeholder that is a whole statement. -/
def expandStatement (scope : Scope) (name : String) : Logged Node := do
  Logged.trace ("Substituting statement placeholder '" ++ name ++ "'")
  Logged.lift (scope.argument name >>= Argument.toStatement)

/-- The tree for a placeholder that is a whole expression. -/
def expandExpression (scope : Scope) (name : String) : Logged Node := do
  Logged.trace ("Substituting expression placeholder '" ++ name ++ "'")
  let expression ← Logged.lift (scope.argument name >>= Argument.toExpression)
  return guardPrecedence expression

/-! ## Texts -/

/-- A name with its tokens replaced; `what` says what kind of name it is. -/
def rename (scope : Scope) (what name : String) : Logged String := do
  match ← Logged.lift (scope.substitute .identifier name) with
  | none => return name
  | some renamed =>
    Logged.trace ("Renaming " ++ what ++ " '" ++ name ++ "' to '" ++ renamed ++ "'")
    return renamed

/-- An identifier with its tokens replaced. -/
def renameIdentifier (scope : Scope) (name : String) : Logged String := scope.rename "identifier" name

/-- A property name with its tokens replaced. -/
def renameProperty (scope : Scope) (name : String) : Logged String := scope.rename "property" name

/-- The value and the spelling of a string literal with its tokens replaced. A value that stays the same keeps
its spelling. -/
def replaceInLiteral (scope : Scope) (value : String) (raw : Option String) : Logged (String × Option String) := do
  match ← Logged.lift (scope.substitute .literal value) with
  | none => return (value, raw)
  | some changed =>
    if changed = value then return (value, raw)
    else
      Logged.trace ("Rewriting string literal " ++ Text.quoted value ++ " to " ++ Text.quoted changed)
      return (changed, some (Quoted.single changed))

end Scope

/-! ## The chain -/

/-- A node as a replacer sees it: by the role it has. -/
inductive Site where
  | statement (tree : Node)
  | expression (tree : Node)
  | identifier (name : String)
  | propertyName (name : String)
  | literal (value : String) (raw : Option String)

/-- The four ways to replace a node. -/
inductive Replacer where
  | statement
  | expression
  | identifier
  | stringLiteral
deriving DecidableEq, Repr

namespace Replacer

/-- The replacers in the order in which they are tried. -/
def chain : List Replacer := [.statement, .expression, .identifier, .stringLiteral]

/-- The name of a replacer. -/
def name : Replacer → String
  | .statement => "statement"
  | .expression => "expression"
  | .identifier => "identifier"
  | .stringLiteral => "string literal"

/-- The replacer of that name. -/
def ofName? (name : String) : Option Replacer := chain.find? fun replacer => replacer.name = name

/-- Whether a replacer is for the node. -/
def accepts (scope : Scope) : Replacer → Site → Bool
  | .statement, .statement tree => (scope.statementPlaceholder? tree).isSome
  | .expression, .expression tree => (scope.expressionPlaceholder? tree).isSome
  | .identifier, .identifier _ => true
  | .identifier, .propertyName _ => true
  | .stringLiteral, .literal _ _ => true
  | _, _ => false

/-- The node that a replacer makes of one; it leaves alone what it is not for. -/
def replace (scope : Scope) : Replacer → Site → Logged Site
  | .statement, .statement tree =>
    match scope.statementPlaceholder? tree with
    | some placeholder => return .statement (← scope.expandStatement placeholder)
    | none => return .statement tree
  | .expression, .expression tree =>
    match scope.expressionPlaceholder? tree with
    | some placeholder => return .expression (← scope.expandExpression placeholder)
    | none => return .expression tree
  | .identifier, .identifier id => return .identifier (← scope.renameIdentifier id)
  | .identifier, .propertyName id => return .propertyName (← scope.renameProperty id)
  | .stringLiteral, .literal value raw => do
    let (changed, spelling) ← scope.replaceInLiteral value raw
    return .literal changed spelling
  | _, site => return site

/-- The first replacer that is for the node. -/
def first? (scope : Scope) (site : Site) : Option Replacer := chain.find? fun replacer => replacer.accepts scope site

end Replacer

end Stencil
