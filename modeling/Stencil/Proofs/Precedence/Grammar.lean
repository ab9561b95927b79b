import Stencil.Proofs.Everywhere
/-!
# Where an expression may stand without parentheses

The grammar of scripts, as far as it says which expression may stand where. Every form has a level, which is how
tightly it holds together, and every place demands one; an expression of a lower level has to be put in
parentheses there. Five rules of the grammar are not about levels: what a statement may begin with, what the body
of an arrow function may begin with, that `??` does not mix with `||` and `&&`, that `in` does not stand open in
the head of a loop, and that no call stands open in the callee of `new`. `WellParenthesised` asks all of this of
every node.
-/

namespace Stencil.Script

/-! ## Levels -/

namespace Level

/-- A statement, which is no expression. -/
abbrev statement : Nat := 0

/-- Expressions separated by commas. -/
abbrev sequence : Nat := 1

/-- Assignments, arrow functions and `yield`. -/
abbrev assignment : Nat := 2

/-- The conditional operator. -/
abbrev conditional : Nat := 3

/-- Binary operators by their strength; `**` is at 14. -/
abbrev binary (op : BinaryOp) : Nat := op.strength + 3

/-- Prefix operators and `await`. -/
abbrev unary : Nat := 15

/-- Increments and decrements. -/
abbrev update : Nat := 16

/-- What may stand left of an assignment; the lowest of these is `new` without arguments. -/
abbrev leftHandSide : Nat := 17

/-- An optional chain. -/
abbrev chain : Nat := 18

/-- Whatever may be called or be the object of a member access. -/
abbrev tight : Nat := 19

/-- A link of an optional chain, or of a plain one. -/
def ofLink : Link → Nat
  | .plain => tight
  | _ => chain

end Level

/-- The level of a form. -/
def Kind.level : Kind → Nat
  | .script _ | .expressionStatement | .ifElse | .forLoop | .forIn | .forOf _ | .whileLoop | .doWhile | .withScope
  | .switchStatement | .returnStatement | .throwStatement | .breakStatement | .continueStatement | .labelled
  | .tryStatement | .functionDeclaration _ | .classDeclaration => Level.statement
  | .sequence => Level.sequence
  | .assign _ | .arrow _ | .yield _ => Level.assignment
  | .conditional => Level.conditional
  | .binary op => Level.binary op
  | .unary _ | .await => Level.unary
  | .update _ _ => Level.update
  | .new hasArguments => if hasArguments then Level.tight else Level.leftHandSide
  | .dot link | .index link | .call link => Level.ofLink link
  | _ => Level.tight

/-- The level of a tree. What is neither a statement nor an operator needs no parentheses. -/
def Node.level : Node → Nat
  | .node kind _ => kind.level
  | .atom .empty | .atom .debuggerStatement => Level.statement
  | _ => Level.tight

/-- The level that a form demands of each of its parts. -/
def Kind.demand : Kind → Nat → Nat
  | .script _, _ | .block, _ => Level.statement
  | .ifElse, i | .whileLoop, i | .doWhile, i | .withScope, i | .switchCase, i | .labelled, i =>
    if i = 0 then Level.sequence else Level.statement
  | .forLoop, i => if i < 3 then Level.sequence else Level.statement
  | .forIn, i => if i = 0 then Level.leftHandSide else if i = 1 then Level.sequence else Level.statement
  | .forOf _, i => if i = 0 then Level.leftHandSide else if i = 1 then Level.assignment else Level.statement
  | .declarator, i | .field _, i | .property, i | .coverInitializer, i | .shorthandPattern, i | .arrow _, i =>
    if i = 0 then Level.sequence else Level.assignment
  | .classDeclaration, i | .classExpression, i => if i = 2 then Level.leftHandSide else Level.sequence
  | .array, _ | .spread _, _ | .computed, _ | .sequence, _ | .yield _, _ => Level.assignment
  | .unary _, _ | .await, _ => Level.unary
  | .update isPrefix _, _ => if isPrefix then Level.unary else Level.leftHandSide
  | .binary op, i =>
    if i = 0 then if op = .power then Level.update else Level.binary op
    else if op = .power then Level.binary op else Level.binary op + 1
  | .assign _, i | .defaulted, i => if i = 0 then Level.leftHandSide else Level.assignment
  | .conditional, i => if i = 0 then Level.binary .coalesce else Level.assignment
  | .dot link, i | .index link, i => if i = 0 then Level.ofLink link else Level.sequence
  | .call link, i => if i = 0 then Level.ofLink link else Level.assignment
  | .new _, i => if i = 0 then Level.leftHandSide else Level.assignment
  | .tagged _, i => if i = 0 then Level.tight else Level.sequence
  | .arrayPattern, _ | .rest, _ => Level.leftHandSide
  | .propertyPattern, i => if i = 0 then Level.sequence else Level.leftHandSide
  | _, _ => Level.sequence

/-! ## How an expression begins -/

/-- Beginnings that a statement takes for something else. -/
inductive Opening where
  | brace
  | functionKeyword
  | classKeyword
deriving DecidableEq, Repr

/-- Whether the text of a form begins with its first part. -/
def Kind.opensWithFirst : Kind → Bool
  | .sequence | .assign _ | .conditional | .binary _ | .dot _ | .index _ | .call _ | .tagged _ => true
  | .update isPrefix _ => !isPrefix
  | _ => false

/-- The beginning of a form that begins with a token of its own. -/
def Kind.opening? : Kind → Option Opening
  | .object | .objectPattern => some .brace
  | .functionExpression _ => some .functionKeyword
  | .classExpression => some .classKeyword
  | _ => none

/-- The beginning of an expression, if a statement takes it for something else. -/
def Node.opening? : Node → Option Opening
  | .node kind (first :: _) => if kind.opensWithFirst then first.opening? else kind.opening?
  | .node kind [] => kind.opening?
  | _ => none

/-! ## Operators in the open -/

/-- Whether a part of a form stands in the open: in no brackets, and not so tight that it holds no operator. -/
def Kind.exposes : Kind → Nat → Bool
  | .sequence, _ | .binary _, _ | .unary _, _ | .await, _ | .update _ _, _ | .yield _, _ | .variableList _, _ => true
  | .assign _, i | .arrow _, i | .declarator, i => i = 1
  | .conditional, i => i = 0 || i = 2
  | _, _ => false

mutual

/-- Whether the operator `in` stands in the open. -/
def Node.hasOpenIn : Node → Bool
  | .node kind parts => kind == .binary .inside || anyOpenIn kind 0 parts
  | _ => false

/-- Whether it does in one of the exposed parts, which are counted from a number. -/
def Node.anyOpenIn (kind : Kind) (i : Nat) : List Node → Bool
  | [] => false
  | part :: rest => kind.exposes i && part.hasOpenIn || anyOpenIn kind (i + 1) rest

end

/-- Whether two operators must not be mixed without parentheses. -/
def BinaryOp.clashes : BinaryOp → BinaryOp → Bool
  | .coalesce, .logicOr | .coalesce, .logicAnd | .logicOr, .coalesce | .logicAnd, .coalesce => true
  | _, _ => false

/-- Whether a tree is an operation that must not be an operand of another one. -/
def Node.clashesWith (op : BinaryOp) : Node → Bool
  | .node (.binary inner) _ => op.clashes inner
  | _ => false

/-! ## Callees -/

/-- The expression whose members and tagged templates an expression is. -/
def Node.chainHead : Node → Node
  | .node (.dot .plain) (object :: _) => object.chainHead
  | .node (.index .plain) (object :: _) => object.chainHead
  | .node (.tagged _) (tag :: _) => tag.chainHead
  | tree => tree

/-- Whether an expression is a call, a `new` or a link of an optional chain. -/
def Node.isCall : Node → Bool
  | .node (.call _) (_ :: _) | .node (.new _) (_ :: _) => true
  | .node (.dot link) (_ :: _) | .node (.index link) (_ :: _) => link != .plain
  | _ => false

/-! ## All of it -/

/-- What is asked of trees: `bodies` lists what the body of an arrow function must not begin with, and `callees`
says whether the callees of `new` are looked at. -/
structure Grouping where
  bodies : List Opening
  callees : Bool

/-- The rules that are not about levels. -/
def Grouping.admits (g : Grouping) : Kind → List Node → Bool
  | .expressionStatement, value :: _ => value.opening? == none
  | .arrow _, _ :: body :: _ => g.bodies.all fun opening => body.opening? != some opening
  | .binary op, operands => operands.all fun operand => !operand.clashesWith op
  | .forLoop, head :: _ | .forIn, head :: _ | .forOf _, head :: _ => !head.hasOpenIn
  | .new _, callee :: _ => !g.callees || !callee.chainHead.isCall
  | _, _ => true

/-- Every part of a node has the level that its place demands, and the other rules are kept. -/
def Grouping.Fits (g : Grouping) : Node → Prop
  | .node kind parts => (∀ p ∈ parts.zipIdx, kind.demand p.2 ≤ p.1.level) ∧ g.admits kind parts = true
  | _ => True

instance (g : Grouping) : DecidablePred g.Fits
  | .node kind parts =>
    inferInstanceAs (Decidable ((∀ p ∈ parts.zipIdx, kind.demand p.2 ≤ p.1.level) ∧ g.admits kind parts = true))
  | .ref _ | .binding _ | .name _ | .text _ _ | .shorthand _ | .atom _ => .isTrue trivial

/-- Every expression stands where the grammar admits it without parentheses. -/
def Grouping.WellParenthesised (g : Grouping) (tree : Node) : Prop := tree.Everywhere g.Fits

instance (g : Grouping) : DecidablePred g.WellParenthesised :=
  fun tree => inferInstanceAs (Decidable (tree.Everywhere g.Fits))

end Stencil.Script
