/-!
# Syntax faults

What can be wrong with the text of a script: a cause, with one function for its wording, and the offset of
the character where it shows. A place is reported as line and column, both counted from one.
-/

namespace Stencil.Script

/-- Why a text is no script. -/
inductive Cause where
  | unexpectedEnd
  | expressionExpected
  | semicolonExpected
  | expected (wanted got : String)
  | identifierExpected
  | unexpectedToken (got wanted : String)
  | returnOutsideFunction
  | declarationAsBody
  | unterminatedString
  | unterminatedRegex
  | unterminatedComment
  | moduleSyntax
  | unexpectedCharacter (c : Char)
  | malformedNumber
  | malformedEscape
  | legacyOctal
  | identifierAfterNumber
  | escapedKeyword
  | regexFlags
  | hashWithoutName
  | reservedWord (name : String)
  | lineBreakAfterThrow
  | breakOutsideLoop
  | continueOutsideLoop
  | unknownLabel (name : String)
  | duplicateLabel (name : String)
  | labelledFunction
  | labelledFunctionWhenStrict
  | duplicateDefault
  | handlerMissing
  | nameMissing
  | initializerMissing
  | initializerInLoopHead
  | manyDeclarationsInLoopHead
  | awaitInPlainLoop
  | awaitOutsideAsync
  | yieldInParameters
  | awaitInParameters
  | emptyParentheses
  | spreadInParentheses
  | importTrailingComma
  | lineBreakBeforeArrow
  | arrowNotAllowed
  | invalidTarget
  | invalidParameter
  | restNotLast
  | restNotIdentifier
  | defaultOutsidePattern
  | mixedCoalescing
  | unaryBeforePower
  | optionalConstructor
  | optionalTemplate
  | superOutsideMethod
  | newTargetOutsideFunction
  | argumentsInField
  | importOutsideModule
  | importIncomplete
  | getterParameters
  | setterParameters
  | strictWithPatterns
  | duplicateConstructor
  | constructorKind
  | privateConstructor
  | nestedTooDeeply
deriving DecidableEq, Repr

/-- The wording of a cause. -/
def Cause.message : Cause → String
  | .unexpectedEnd => "Unexpected eof"
  | .expressionExpected => "Expression expected"
  | .semicolonExpected => "Expected ';', '\x7d' or <eof>"
  | .expected wanted got => "Expected '" ++ wanted ++ "', got '" ++ got ++ "'"
  | .identifierExpected => "Expected ident"
  | .unexpectedToken got wanted => "Unexpected token `" ++ got ++ "`. Expected " ++ wanted
  | .returnOutsideFunction => "Return statement is not allowed here"
  | .declarationAsBody => "Declaration is not allowed"
  | .unterminatedString => "Unterminated string constant"
  | .unterminatedRegex => "Unterminated regexp literal"
  | .unterminatedComment => "Unterminated block comment"
  | .moduleSyntax => "'import', and 'export' cannot be used outside of module code"
  | .unexpectedCharacter c => "Unexpected character '" ++ c.toString ++ "'"
  | .malformedNumber => "Invalid number"
  | .malformedEscape => "Invalid escape sequence"
  | .legacyOctal => "Legacy octal literals are not available when targeting ECMAScript 5 and higher"
  | .identifierAfterNumber => "Identifier cannot follow number"
  | .escapedKeyword => "Unexpected escape sequence in reserved word"
  | .regexFlags => "Invalid regular expression flags"
  | .hashWithoutName => "Unexpected token '#'"
  | .reservedWord name => "'" ++ name ++ "' cannot be used as an identifier"
  | .lineBreakAfterThrow => "LineBreak cannot follow 'throw'"
  | .breakOutsideLoop =>
    "A 'break' statement can only be used within an enclosing iteration or switch statement"
  | .continueOutsideLoop => "A 'continue' statement can only be used within an enclosing iteration statement"
  | .unknownLabel name => "Undefined label '" ++ name ++ "'"
  | .duplicateLabel name => "Label " ++ name ++ " is already defined"
  | .labelledFunction => "Generator or async function cannot be labelled"
  | .labelledFunctionWhenStrict => "Function cannot be labelled in strict mode"
  | .duplicateDefault => "A switch block cannot have multiple defaults"
  | .handlerMissing => "'catch' or 'finally' expected"
  | .nameMissing => "Trailing comma is not allowed"
  | .initializerMissing => "Destructuring bindings require initializers"
  | .initializerInLoopHead => "Loop variable declaration may not have an initializer"
  | .manyDeclarationsInLoopHead => "Expected one variable binding"
  | .awaitInPlainLoop => "for await syntax is valid only for for-of statement"
  | .awaitOutsideAsync => "await isn't allowed in non-async function"
  | .yieldInParameters => "'yield' cannot be used in parameters"
  | .awaitInParameters => "`await` expressions cannot be used in a parameter initializer."
  | .emptyParentheses => "Parenthesized expression cannot be empty"
  | .spreadInParentheses => "Parenthesized expression cannot contain spread operator"
  | .importTrailingComma => "Trailing comma is disallowed inside import(...) arguments"
  | .lineBreakBeforeArrow => "Unexpected line break between arrow head and arrow"
  | .arrowNotAllowed => "An arrow function is not allowed here"
  | .invalidTarget => "Cannot assign to this"
  | .invalidParameter => "Not a pattern"
  | .restNotLast => "Rest element must be final element"
  | .restNotIdentifier => "`...` must be followed by an identifier in declaration contexts"
  | .defaultOutsidePattern => "assignment property is invalid syntax"
  | .mixedCoalescing =>
    "Nullish coalescing operator(??) requires parens when mixing with logical operators"
  | .unaryBeforePower => "A unary expression is not allowed in the left-hand side of '**'"
  | .optionalConstructor => "Constructor in/after an optional chaining is not allowed"
  | .optionalTemplate => "Tagged template expressions are not permitted in an optional chain"
  | .superOutsideMethod => "Invalid access to super"
  | .newTargetOutsideFunction => "'new.target' is only allowed in the body of a function"
  | .argumentsInField => "'arguments' is only allowed in functions and class methods"
  | .importOutsideModule => "'import.meta' cannot be used outside of module code"
  | .importIncomplete => "Invalid import syntax."
  | .getterParameters => "A 'get' accessor cannot have parameters"
  | .setterParameters => "A 'set' accessor must have exactly one parameter"
  | .strictWithPatterns => "Illegal 'use strict' directive in function with non-simple parameter list"
  | .duplicateConstructor => "A class may only have one constructor"
  | .constructorKind => "Class constructor cannot be a generator, an accessor or a field"
  | .privateConstructor => "Classes cannot have a private constructor"
  | .nestedTooDeeply => "Nesting is too deep"

/-- A cause and the offset of the character where it shows. -/
structure Flaw where
  offset : Nat
  cause : Cause
deriving DecidableEq, Repr

/-- Line and column of the character at an offset. A line ends with LF, CR or CRLF. -/
def lineColumn : List Char → Nat → Nat × Nat
  | source, offset => go source offset 1 1
where
  /-- Walks to the offset from a known line and column. -/
  go : List Char → Nat → Nat → Nat → Nat × Nat
    | _, 0, line, column => (line, column)
    | [], _ + 1, line, column => (line, column)
    | '\r' :: '\n' :: rest, offset + 1, line, column =>
      match offset with
      | 0 => (line, column + 1)
      | offset + 1 => go rest offset (line + 1) 1
    | c :: rest, offset + 1, line, column =>
      if c = '\n' ∨ c = '\r' then go rest offset (line + 1) 1 else go rest offset line (column + 1)

/-- What is wrong with a text, and where. -/
structure Fault where
  cause : Cause
  line : Nat
  column : Nat
deriving DecidableEq, Repr

/-- The cause and its place. -/
def Fault.message (f : Fault) : String :=
  f.cause.message ++ " (line " ++ toString f.line ++ ", column " ++ toString f.column ++ ")"

/-- A flaw of a text as a fault. -/
def Flaw.locate (flaw : Flaw) (source : List Char) : Fault :=
  let (line, column) := lineColumn source flaw.offset
  ⟨flaw.cause, line, column⟩

end Stencil.Script
