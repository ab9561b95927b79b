import Stencil.Script.Operator
/-!
# Script trees

A script is a labelled tree. The leaves that rendering looks at have constructors of their own: identifiers
in their three roles, string literals and shorthand properties. All other leaves are atoms, and every
composite form is a `Kind` with the list of its parts, so that a transformation of trees has to be said once
and not for each form of the language.

The parts of a composite stand in the order in which they are visited: source order, except that the members
of a class come before the expression it extends, and the test of a `do` loop before its body. A part that is
left out is the atom `absent`.
-/

namespace Stencil.Script

/-- How far a dynamic import takes its module. -/
inductive ImportPhase where
  /-- The module is run. -/
  | evaluation
  | source
  /-- The module is run when it is first used. -/
  | deferred
deriving DecidableEq, Repr

/-- Leaves that rendering leaves alone. -/
inductive Atom where
  /-- An optional part that is left out. -/
  | absent
  /-- An element left out between two commas. -/
  | hole
  /-- A statement that is only a semicolon. -/
  | empty
  | debuggerStatement
  | thisObject
  | superObject
  | importCallee (phase : ImportPhase)
  | newTarget
  | nullLiteral
  | boolean (value : Bool)
  /-- A number as it is written. -/
  | number (raw : String)
  /-- A big integer as it is written, with its suffix. -/
  | bigInt (raw : String)
  | regex (body flags : String)
  /-- The name of a private member, without the hash. -/
  | privateName (name : String)
  /-- A stray semicolon in a class body. -/
  | emptyMember
deriving DecidableEq, Repr

/-- How a member access or call stands in an optional chain. -/
inductive Link where
  /-- Not part of an optional chain. -/
  | plain
  /-- Written with `?.`. -/
  | optional
  /-- Written plainly, after a `?.` further left. -/
  | chained
deriving DecidableEq, Repr

/-- The keyword of a variable declaration. -/
inductive VariableKeyword where
  | plain
  | lexical
  | constant
deriving DecidableEq, Repr

/-- The spelling of the keyword. -/
def VariableKeyword.text : VariableKeyword → String
  | .plain => "var"
  | .lexical => "let"
  | .constant => "const"

/-- Whether a function awaits and whether it yields. -/
structure Calling where
  isAsync : Bool := false
  isGenerator : Bool := false
deriving DecidableEq, Repr

/-- Methods and the two kinds of accessors. -/
inductive Access where
  | method (calling : Calling)
  | getter
  | setter
deriving DecidableEq, Repr

/-- Composite forms, with what is not a part of its own. -/
inductive Kind where
  /-- Statements. -/
  | script (shebang : Option String)
  /-- Expression. -/
  | expressionStatement
  /-- Statements. -/
  | block
  /-- Test, consequent, alternative. -/
  | ifElse
  /-- Initialiser, test, update, body. -/
  | forLoop
  /-- Target, object, body. -/
  | forIn
  /-- Target, iterable, body. -/
  | forOf (isAwait : Bool)
  /-- Test, body. -/
  | whileLoop
  /-- Test, body. -/
  | doWhile
  /-- Object, body. -/
  | withScope
  /-- Discriminant, cases. -/
  | switchStatement
  /-- Test, statements; without test it is the default. -/
  | switchCase
  /-- Value. -/
  | returnStatement
  /-- Value. -/
  | throwStatement
  /-- Label. -/
  | breakStatement
  /-- Label. -/
  | continueStatement
  /-- Label, body. -/
  | labelled
  /-- Block, handler, finalizer. -/
  | tryStatement
  /-- Parameter, block. -/
  | catchClause
  /-- Declarators. -/
  | variableList (keyword : VariableKeyword)
  /-- Pattern, initial value. -/
  | declarator
  /-- Name, parameters, body. -/
  | functionDeclaration (calling : Calling)
  /-- Name, members, superclass. -/
  | classDeclaration
  /-- Patterns. -/
  | parameters
  /-- Members. -/
  | members
  /-- Key, parameters, body. -/
  | constructor
  /-- Key, parameters, body. -/
  | classMethod (isStatic : Bool) (access : Access)
  /-- Key, value. -/
  | field (isStatic : Bool)
  /-- Block. -/
  | staticBlock
  /-- Elements. -/
  | array
  /-- Properties. -/
  | object
  /-- Expression; `hasComma` says whether a comma follows it at the end of the list. -/
  | spread (hasComma : Bool)
  /-- Key, value. -/
  | property
  /-- Key, parameters, body. -/
  | method (access : Access)
  /-- Name and default of a shorthand property, which makes sense in a pattern only. -/
  | coverInitializer
  /-- Expression of a key in brackets. -/
  | computed
  /-- Name, parameters, body. -/
  | functionExpression (calling : Calling)
  /-- Name, members, superclass. -/
  | classExpression
  /-- Parameters, body. -/
  | arrow (isAsync : Bool)
  /-- Operand. -/
  | unary (op : UnaryOp)
  /-- Operand. -/
  | update (isPrefix isIncrement : Bool)
  /-- Left and right operand. -/
  | binary (op : BinaryOp)
  /-- Target, value. -/
  | assign (op : AssignOp)
  /-- Test, consequent, alternative. -/
  | conditional
  /-- Expressions. -/
  | sequence
  /-- Object, name. -/
  | dot (link : Link)
  /-- Object, expression. -/
  | index (link : Link)
  /-- Callee, arguments. -/
  | call (link : Link)
  /-- Callee, arguments. -/
  | new (hasArguments : Bool)
  /-- Embedded expressions; the texts around them are as written. -/
  | template (texts : List String)
  /-- Tag, embedded expressions; the texts around them are as written. -/
  | tagged (texts : List String)
  /-- Argument. -/
  | yield (isDelegate : Bool)
  /-- Argument. -/
  | await
  /-- Expression. -/
  | paren
  /-- Elements. -/
  | arrayPattern
  /-- Properties. -/
  | objectPattern
  /-- Key, pattern. -/
  | propertyPattern
  /-- Name, default value. -/
  | shorthandPattern
  /-- Pattern, default value. -/
  | defaulted
  /-- Pattern. -/
  | rest
deriving DecidableEq, Repr

/-- A script tree. -/
inductive Node where
  /-- An identifier read as an expression. -/
  | ref (name : String)
  /-- An identifier that is bound, assigned to or used as a label. -/
  | binding (name : String)
  /-- A property name that is an identifier. -/
  | name (name : String)
  /-- A string literal: its value and, when there is one, its spelling. -/
  | text (value : String) (raw : Option String)
  /-- A property of an object literal that is named like the variable it holds. -/
  | shorthand (name : String)
  /-- A leaf that rendering leaves alone. -/
  | atom (atom : Atom)
  /-- A composite form with its parts. -/
  | node (kind : Kind) (parts : List Node)
deriving Repr

namespace Node

/-! ## Equality -/

mutual

/-- Whether two trees are equal. -/
def same : Node → Node → Bool
  | .ref a, .ref b => a = b
  | .binding a, .binding b => a = b
  | .name a, .name b => a = b
  | .text a raw, .text b raw' => a = b && raw = raw'
  | .shorthand a, .shorthand b => a = b
  | .atom a, .atom b => a = b
  | .node kind parts, .node kind' parts' => kind = kind' && sames parts parts'
  | _, _ => false

/-- Whether two lists of trees are equal. -/
def sames : List Node → List Node → Bool
  | [], [] => true
  | a :: as, b :: bs => same a b && sames as bs
  | _, _ => false

end

mutual

theorem same_iff (a b : Node) : same a b = true ↔ a = b := by
  cases a <;> cases b <;> simp [same, sames_iff]

theorem sames_iff (as bs : List Node) : sames as bs = true ↔ as = bs := by
  cases as <;> cases bs <;> simp [sames, same_iff, sames_iff]

end

instance : DecidableEq Node := fun a b => decidable_of_iff _ (same_iff a b)

/-! ## Parts -/

/-- The part that is left out. -/
abbrev absent : Node := .atom .absent

/-- Whether a part is left out. -/
def isAbsent : Node → Bool
  | .atom .absent => true
  | _ => false

/-- The kind of a composite form. -/
def kind? : Node → Option Kind
  | .node kind _ => some kind
  | _ => none

/-- The parts of a composite form. -/
def parts : Node → List Node
  | .node _ parts => parts
  | _ => []

/-- Whether an expression is an optional chain that no parentheses close. -/
def isOptionalChain : Node → Bool
  | .node (.dot link) _ | .node (.index link) _ | .node (.call link) _ => link != .plain
  | _ => false

/-- Whether a node is an arrow function. -/
def isArrow : Node → Bool
  | .node (.arrow _) _ => true
  | _ => false

/-! ## Building -/

/-- An expression as a statement. -/
def statement (expression : Node) : Node := .node .expressionStatement [expression]

/-- An expression in parentheses. -/
def parenthesized (expression : Node) : Node := .node .paren [expression]

/-- The script of the given statements. -/
def ofStatements (statements : List Node) : Node := .node (.script none) statements

end Node

end Stencil.Script
