/-!
# Operators

The operators of scripts with their spelling, and the binding strength of the binary ones.
-/

namespace Stencil.Script

/-- Prefix operators that do not assign. -/
inductive UnaryOp where
  | plus
  | minus
  | bitNot
  | logicNot
  | typeOf
  | void
  | delete
deriving DecidableEq, Repr

/-- The spelling of a prefix operator. -/
def UnaryOp.text : UnaryOp → String
  | .plus => "+"
  | .minus => "-"
  | .bitNot => "~"
  | .logicNot => "!"
  | .typeOf => "typeof"
  | .void => "void"
  | .delete => "delete"

/-- All prefix operators. -/
def UnaryOp.all : List UnaryOp := [.plus, .minus, .bitNot, .logicNot, .typeOf, .void, .delete]

/-- The prefix operator of that spelling. -/
def UnaryOp.ofText? (text : String) : Option UnaryOp := UnaryOp.all.find? fun op => op.text = text

/-- Whether the operator is spelled as a word. -/
def UnaryOp.isWord : UnaryOp → Bool
  | .typeOf | .void | .delete => true
  | _ => false

/-- Operators with two operands. -/
inductive BinaryOp where
  | coalesce
  | logicOr
  | logicAnd
  | bitOr
  | bitXor
  | bitAnd
  | eq
  | ne
  | strictEq
  | strictNe
  | lt
  | le
  | gt
  | ge
  | inside
  | instanceOf
  | shiftLeft
  | shiftRight
  | shiftRightZero
  | add
  | sub
  | mul
  | div
  | rem
  | power
deriving DecidableEq, Repr

namespace BinaryOp

/-- All binary operators. -/
def all : List BinaryOp :=
  [.coalesce, .logicOr, .logicAnd, .bitOr, .bitXor, .bitAnd, .eq, .ne, .strictEq, .strictNe, .lt, .le, .gt,
   .ge, .inside, .instanceOf, .shiftLeft, .shiftRight, .shiftRightZero, .add, .sub, .mul, .div, .rem, .power]

/-- The spelling of a binary operator. -/
def text : BinaryOp → String
  | .coalesce => "??"
  | .logicOr => "||"
  | .logicAnd => "&&"
  | .bitOr => "|"
  | .bitXor => "^"
  | .bitAnd => "&"
  | .eq => "=="
  | .ne => "!="
  | .strictEq => "==="
  | .strictNe => "!=="
  | .lt => "<"
  | .le => "<="
  | .gt => ">"
  | .ge => ">="
  | .inside => "in"
  | .instanceOf => "instanceof"
  | .shiftLeft => "<<"
  | .shiftRight => ">>"
  | .shiftRightZero => ">>>"
  | .add => "+"
  | .sub => "-"
  | .mul => "*"
  | .div => "/"
  | .rem => "%"
  | .power => "**"

/-- How strongly an operator binds its operands; all but `**` group to the left. -/
def strength : BinaryOp → Nat
  | .coalesce | .logicOr => 1
  | .logicAnd => 2
  | .bitOr => 3
  | .bitXor => 4
  | .bitAnd => 5
  | .eq | .ne | .strictEq | .strictNe => 6
  | .lt | .le | .gt | .ge | .inside | .instanceOf => 7
  | .shiftLeft | .shiftRight | .shiftRightZero => 8
  | .add | .sub => 9
  | .mul | .div | .rem => 10
  | .power => 11

/-- Whether the operator is spelled as a word. -/
def isWord : BinaryOp → Bool
  | .inside | .instanceOf => true
  | _ => false

/-- The operator of that spelling. -/
def ofText? (text : String) : Option BinaryOp := all.find? fun op => op.text = text

end BinaryOp

/-- Assignment: plain, or combined with a binary operator. -/
inductive AssignOp where
  | plain
  | combined (op : BinaryOp)
deriving DecidableEq, Repr

namespace AssignOp

/-- The spelling of an assignment operator. -/
def text : AssignOp → String
  | .plain => "="
  | .combined op => op.text ++ "="

/-- The binary operators that combine with assignment. -/
def combinable : List BinaryOp :=
  [.coalesce, .logicOr, .logicAnd, .bitOr, .bitXor, .bitAnd, .shiftLeft, .shiftRight, .shiftRightZero, .add,
   .sub, .mul, .div, .rem, .power]

/-- The assignment operator of that spelling. -/
def ofText? (text : String) : Option AssignOp :=
  if text = "=" then some .plain
  else (combinable.find? fun op => op.text ++ "=" = text).map .combined

end AssignOp

end Stencil.Script
