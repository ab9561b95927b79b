import Stencil.Script.Numeral
import Stencil.Script.Print.Spacing
import Stencil.Script.Quoted
/-!
# The forms of the printed language

How each form is laid out, given the layouts of its parts. Minified text has no spaces or line breaks but the
necessary ones, and its literals take their shortest spelling. No parentheses are added: a tree holds those it
needs.
-/

namespace Stencil.Script.Print

open Layout

/-- A part with its layout. -/
structure Part where
  node : Node
  layout : Layout

/-- Whether the part is left out. -/
def Part.isAbsent (p : Part) : Bool := p.node.isAbsent

instance : Coe Part Layout := ⟨Part.layout⟩

section
variable (minify : Bool)

/-! ## Spaces and lines -/

/-- A space that minified text leaves out. -/
def gap : Layout := if minify then .nothing else " "

/-- A line break that minified text leaves out. -/
def newLine : Layout := if minify then .nothing else .line

/-- The space between a word and the next part. -/
def spaceBefore (next : Part) : Layout := if next.node.startsWord then " " else gap minify

/-- The space between a part and the next word. -/
def spaceAfter (previous : Part) : Layout := if previous.node.endsWord then " " else gap minify

/-- Layouts separated by commas. -/
def commas (items : List Layout) : Layout := separated ("," ++ gap minify) items

/-- Parts separated by commas. -/
def list (items : List Part) : Layout := commas minify (items.map Part.layout)

/-- Each layout on a line of its own. -/
def lines (items : List Layout) : Layout := concat (items.map (newLine minify ++ ·))

/-- Braces around lines. -/
def braced (items : List Layout) : Layout :=
  "\x7b" ++ .nested (lines minify items) ++ newLine minify ++ "\x7d"

/-- A part after a space, if it is there. -/
def optional (p : Part) (before : Layout) : Layout := if p.isAbsent then .nothing else before ++ p.layout

/-! ## Statements -/

/-- A part as a statement: a declaration gets its semicolon, and all but blocks end their line. -/
def statement (p : Part) : Layout :=
  match p.node with
  | .node .block _ => p.layout
  | .node (.variableList _) _ => p.layout ++ ";" ++ newLine minify
  | _ => p.layout ++ newLine minify

/-- Whether the part is a block. -/
def isBlock (p : Part) : Bool := p.node.kind? = some .block

/-- A keyword with a value and a semicolon. -/
def jump (keyword : String) (p : Part) : Layout := keyword ++ optional p (spaceBefore minify p) ++ ";"

/-- The alternative of a conditional statement. -/
def alternative (consequent p : Part) : Layout :=
  if p.isAbsent then .nothing
  else onlyIf (isBlock consequent) (gap minify) ++ "else" ++ spaceBefore minify p ++
    statement minify p

/-- The head of a loop over values, from its target on. -/
def valuesHead (word : String) (target values body : Part) : Layout :=
  "(" ++ target.layout ++ spaceAfter minify target ++ word ++ spaceBefore minify values ++ values.layout ++ ")" ++
    statement minify body

/-- The label or test of a case. -/
def caseLabel (test : Part) : Layout :=
  if test.isAbsent then "default:" else "case" ++ spaceBefore minify test ++ test.layout ++ ":"

/-- Whether a declarator declares the names of a pattern. -/
def declaresPattern (p : Part) : Bool :=
  match (p.node.parts.head?).bind Node.kind? with
  | some .arrayPattern | some .objectPattern => true
  | _ => false

/-- A declaration without its semicolon. -/
def variableList (keyword : VariableKeyword) (items : List Part) : Layout :=
  keyword.text ++ (if (items.head?).any declaresPattern then gap minify else " ") ++ list minify items

/-- A value after an equals sign, if it is there. -/
def initializer (value : Part) : Layout := optional value (gap minify ++ "=" ++ gap minify)

/-! ## Functions and classes -/

/-- The word of a function that awaits. -/
def asyncWord (isAsync : Bool) : Layout := onlyIf isAsync "async "

/-- Parameters and body, with a space between them if wanted. -/
def functionTail (params body : Part) (space : Layout) : Layout :=
  "(" ++ params.layout ++ ")" ++ space ++ body.layout

/-- Whether a key begins with a word. -/
def keyStartsWord (key : Part) : Bool :=
  match key.node with
  | .atom (.privateName _) => true
  | node => node.startsWord

/-- The space between a word and a key. -/
def spaceBeforeKey (key : Part) : Layout := if keyStartsWord key then " " else gap minify

/-- The words and marks in front of the key of a method. -/
def accessWords (access : Access) (key : Part) : Layout :=
  match access with
  | .method calling => asyncWord calling.isAsync ++ onlyIf calling.isGenerator "*"
  | .getter => "get" ++ spaceBeforeKey minify key
  | .setter => "set" ++ spaceBeforeKey minify key

/-- The word of a static method. Where a mark or a quote follows, no space is needed. -/
def staticWord (isStatic : Bool) (access : Access) (key : Part) : Layout :=
  let needsSpace := match access, key.node with
    | _, .atom (.privateName _) => true
    | .method calling, _ => calling.isAsync || (!calling.isGenerator && keyStartsWord key)
    | _, _ => true
  let space : Layout := if needsSpace then " " else gap minify
  onlyIf isStatic ("static" ++ space)

/-- What a class extends. -/
def heritage (superclass : Part) : Layout :=
  if superclass.isAbsent then .nothing else " extends" ++ spaceBefore minify superclass ++ superclass.layout

/-- Whether parameters are one plain identifier. -/
def isSoleIdentifier (params : Part) : Bool :=
  match params.node with
  | .node .parameters [.binding _] => true
  | _ => false

/-- An arrow function. The body, unless it is a block, stands one level deeper. -/
def arrow (isAsync : Bool) (params body : Part) : Layout :=
  let sole := minify && isSoleIdentifier params
  let space : Layout := if sole then " " else gap minify
  onlyIf isAsync ("async" ++ space) ++ (if sole then params.layout else "(" ++ params.layout ++ ")") ++ "=>" ++
    (if isBlock body then body.layout else .nested body.layout)

/-! ## Literals -/

/-- The elements of an array literal. After a hole at the end comes a comma that keeps it. -/
def elements (items : List Part) : Layout :=
  let endsWithHole := (items.getLast?).any fun p => p.node matches .atom .hole
  separated ("," ++ newLine minify) (items.map Part.layout) ++ onlyIf endsWithHole ("," ++ gap minify)

/-- An array literal. -/
def array (items : List Part) : Layout :=
  if items.isEmpty then "[]"
  else "[" ++ .nested (newLine minify ++ elements minify items) ++ newLine minify ++ "]"

/-- An object literal. -/
def object (items : List Part) : Layout :=
  if items.isEmpty then "\x7b\x7d"
  else "\x7b" ++ .nested (newLine minify ++ separated ("," ++ newLine minify) (items.map Part.layout)) ++
    newLine minify ++ "\x7d"

/-- The elements of an array pattern; a hole at the end goes. -/
def arrayPattern (items : List Part) : Layout := "[" ++ list minify items ++ "]"

/-- The properties of an object pattern. -/
def objectPattern (items : List Part) : Layout :=
  if items.isEmpty then "\x7b\x7d" else "\x7b" ++ gap minify ++ list minify items ++ gap minify ++ "\x7d"

/-- The texts of a template with the expressions between them. -/
def templateBody : List String → List Part → Layout
  | [], _ => .nothing
  | first :: texts, [] => first ++ templateBody texts []
  | first :: texts, p :: rest =>
    first ++ onlyIf (!texts.isEmpty) ("$\x7b" ++ p.layout ++ "\x7d") ++ templateBody texts rest

/-- A template. -/
def template (texts : List String) (items : List Part) : Layout := "`" ++ templateBody texts items ++ "`"

/-- The text of a template as it is printed where no tag reads it. -/
def templateText (text : String) : String :=
  if minify then String.ofList (Quoted.shortTemplate false text.toList) else text

/-! ## Operators -/

/-- Whether the text of an operand begins with the same sign, so that the two would run together. -/
def beginsWithSign (op : UnaryOp) (operand : Node) : Bool :=
  match op, operand.kind? with
  | .plus, some (.unary .plus) => true
  | .minus, some (.unary .minus) => true
  | .plus, some (.update true true) => true
  | .minus, some (.update true false) => true
  | _, _ => false

/-- A prefix operator with its operand. -/
def unary (op : UnaryOp) (operand : Part) : Layout :=
  let space := if op.isWord then spaceBefore minify operand
    else if beginsWithSign op operand.node then " " else .nothing
  op.text ++ space ++ operand.layout

/-- Whether minified text needs a space between a binary operator and its right operand. -/
def needsSpaceAfter (op : BinaryOp) : Node → Bool
  | .node (.binary _) (left :: _) => needsSpaceAfter op left
  | .node (.unary .logicNot) (operand :: _) =>
    (op = .lt || op = .shiftLeft) && operand.kind? = some (.update true false)
  | .node (.unary .plus) _ => op = .add
  | .node (.unary .minus) _ => op = .sub
  | .node (.update true isIncrement) _ => if isIncrement then op = .add else op = .sub
  | _ => false

/-- Whether minified text needs a space between a left operand and a binary operator. -/
def needsSpaceBefore (op : BinaryOp) (left : Node) : Bool :=
  left.kind? = some (.update false false) &&
    (op = .gt || op = .shiftRight || op = .shiftRightZero || op = .ge)

/-- A binary operator with its operands. -/
def binary (op : BinaryOp) (left right : Part) : Layout :=
  let before : Layout :=
    if !minify then " "
    else if op.isWord then spaceAfter minify left
    else if needsSpaceBefore op left.node then " " else .nothing
  let after : Layout :=
    if !minify then " "
    else if op.isWord then spaceBefore minify right
    else if needsSpaceAfter op right.node then " " else .nothing
  left.layout ++ before ++ op.text ++ after ++ right.layout

/-! ## Chains -/

/-- The mark of an optional link. -/
def linkMark (link : Link) (otherwise : String) : Layout := if link = .optional then "?." else otherwise

/-- What a chain begins with. The empty arguments of `new` are needed here. -/
def head (p : Part) : Layout :=
  match p.node with
  | .node (.new true) [_] => if minify then p.layout ++ "()" else p.layout
  | _ => p.layout

/-- A second dot, where the first would be the decimal point of a number. -/
def extraPoint (link : Link) (object : Part) : Layout :=
  match link, object.node with
  | .plain, .atom (.number raw) => if Numeral.takesPoint minify raw then "." else .nothing
  | _, _ => .nothing

/-- An expression with `new`. Minified text leaves empty arguments out. -/
def construct (hasArguments : Bool) (callee : Part) (args : List Part) : Layout :=
  "new" ++ spaceBefore minify callee ++ callee.layout ++
    onlyIf (hasArguments && !(minify && args.isEmpty)) ("(" ++ list minify args ++ ")")

/-! ## All forms -/

/-- The line that names the interpreter of a script. -/
def interpreterLine : Option String → Layout
  | none => .nothing
  | some name => ("#!" ++ name : String) ++ Layout.line

/-- The layout of a statement, given those of its parts. -/
def statementForm : Kind → List Part → Option Layout
  | .script shebang, items =>
    some (interpreterLine shebang ++ concat (items.map (statement minify)))
  | .expressionStatement, [value] => some (value.layout ++ ";")
  | .block, items => some (if items.isEmpty then "\x7b\x7d" else braced minify (items.map (statement minify)))
  | .ifElse, [test, consequent, other] =>
    some ("if" ++ gap minify ++ "(" ++ test.layout ++ ")" ++ gap minify ++ statement minify consequent ++
      alternative minify consequent other)
  | .forLoop, [init, test, update, body] =>
    some ("for(" ++ init.layout ++ ";" ++ optional test (gap minify) ++ ";" ++ optional update (gap minify) ++
      ")" ++ statement minify body)
  | .forIn, [target, values, body] => some ("for" ++ valuesHead minify "in" target values body)
  | .forOf isAwait, [target, values, body] =>
    some ((if isAwait then "for await" else "for") ++ gap minify ++ valuesHead minify "of" target values body)
  | .whileLoop, [test, body] => some ("while(" ++ test.layout ++ ")" ++ statement minify body)
  | .doWhile, [test, body] =>
    some ("do" ++ spaceBefore minify body ++ statement minify body ++ "while" ++ gap minify ++ "(" ++
      test.layout ++ ")")
  | .withScope, [scope, body] =>
    some ("with" ++ gap minify ++ "(" ++ scope.layout ++ ")" ++ statement minify body)
  | .switchStatement, discriminant :: cases =>
    some ("switch(" ++ discriminant.layout ++ ")" ++ braced minify (cases.map Part.layout))
  | .switchCase, test :: statements =>
    some (caseLabel minify test ++ .nested (lines minify (statements.map (statement minify))))
  | .returnStatement, [value] => some (jump minify "return" value)
  | .throwStatement, [value] => some (jump minify "throw" value)
  | .breakStatement, [label] => some (jump minify "break" label)
  | .continueStatement, [label] => some (jump minify "continue" label)
  | .labelled, [label, body] => some (label.layout ++ ":" ++ gap minify ++ statement minify body)
  | .tryStatement, [guarded, handler, finalizer] =>
    some ("try" ++ gap minify ++ guarded.layout ++ optional handler (gap minify) ++
      optional finalizer (gap minify ++ "finally"))
  | .catchClause, [param, body] =>
    some ("catch" ++ gap minify ++ onlyIf (!param.isAbsent) ("(" ++ param.layout ++ ")") ++
      gap minify ++ body.layout)
  | .variableList keyword, items => some (variableList minify keyword items)
  | .declarator, [pattern, value] => some (pattern.layout ++ initializer minify value)
  | _, _ => none

/-- The layout of a function, a class or one of their parts. -/
def functionForm : Kind → List Part → Option Layout
  | .functionDeclaration calling, [name, params, body] =>
    some (asyncWord calling.isAsync ++ "function" ++
      (if calling.isGenerator then "*" ++ gap minify else " ") ++ name.layout ++
      functionTail params body (gap minify))
  | .functionExpression calling, [name, params, body] =>
    some (asyncWord calling.isAsync ++ "function" ++ onlyIf calling.isGenerator "*" ++
      optional name " " ++ functionTail params body (gap minify))
  | .arrow isAsync, [params, body] => some (arrow minify isAsync params body)
  | .parameters, items => some (list minify items)
  | .classDeclaration, [name, members, superclass] =>
    some ("class" ++ optional name " " ++ heritage minify superclass ++ gap minify ++ members.layout)
  | .classExpression, [name, members, superclass] =>
    some ("class" ++ optional name " " ++ heritage minify superclass ++ gap minify ++ members.layout)
  | .members, items => some (braced minify (items.map Part.layout))
  | .constructor, [_, params, body] => some ("constructor" ++ functionTail params body .nothing)
  | .classMethod isStatic access, [key, params, body] =>
    some (staticWord minify isStatic access key ++ accessWords minify access key ++ key.layout ++
      functionTail params body (gap minify))
  | .field isStatic, [key, value] =>
    some (onlyIf isStatic "static " ++ key.layout ++ initializer minify value ++ ";")
  | .staticBlock, [body] => some ("static" ++ body.layout)
  | .method access, [key, params, body] =>
    let space := if access = .setter then .nothing else gap minify
    some (accessWords minify access key ++ key.layout ++ gap minify ++ functionTail params body space)
  | _, _ => none

/-- The layout of an expression, given those of its parts. -/
def expressionForm : Kind → List Part → Option Layout
  | .array, items => some (array minify items)
  | .object, items => some (object minify items)
  | .spread _, [inner] => some ("..." ++ inner.layout)
  | .property, [key, value] => some (key.layout ++ ":" ++ gap minify ++ value.layout)
  | .coverInitializer, [name, value] => some (name.layout ++ "=" ++ value.layout)
  | .computed, [inner] => some ("[" ++ inner.layout ++ "]")
  | .unary op, [operand] => some (unary minify op operand)
  | .update isPrefix isIncrement, [operand] =>
    let mark : Layout := if isIncrement then "++" else "--"
    some (if isPrefix then mark ++ operand.layout else operand.layout ++ mark)
  | .binary op, [left, right] => some (binary minify op left right)
  | .assign op, [target, value] =>
    some (target.layout ++ gap minify ++ op.text ++ gap minify ++ value.layout)
  | .conditional, [test, consequent, other] =>
    some (test.layout ++ gap minify ++ "?" ++ gap minify ++ consequent.layout ++ gap minify ++ ":" ++
      gap minify ++ other.layout)
  | .sequence, items => some (list minify items)
  | .dot link, [object, name] =>
    some (head minify object ++ extraPoint minify link object ++ linkMark link "." ++ name.layout)
  | .index link, [object, key] =>
    some (head minify object ++ linkMark link "" ++ "[" ++ key.layout ++ "]")
  | .call link, callee :: args =>
    some (head minify callee ++ linkMark link "" ++ "(" ++ list minify args ++ ")")
  | .new hasArguments, callee :: args => some (construct minify hasArguments callee args)
  | .template texts, items => some (template (texts.map (templateText minify)) items)
  | .tagged texts, tag :: items => some (head minify tag ++ template texts items)
  | .yield true, [value] => some ("yield*" ++ gap minify ++ value.layout)
  | .yield false, [value] => some ("yield" ++ optional value (spaceBefore minify value))
  | .await, [value] => some ("await " ++ value.layout)
  | .paren, [inner] => some ("(" ++ inner.layout ++ ")")
  | .arrayPattern, items => some (arrayPattern minify items)
  | .objectPattern, items => some (objectPattern minify items)
  | .propertyPattern, [key, value] => some (key.layout ++ ":" ++ gap minify ++ value.layout)
  | .shorthandPattern, [name, value] => some (name.layout ++ initializer minify value)
  | .defaulted, [pattern, value] => some (pattern.layout ++ initializer minify value)
  | .rest, [inner] => some ("..." ++ inner.layout)
  | _, _ => none

/-- The layout of a form, given those of its parts. -/
def form (kind : Kind) (items : List Part) : Layout :=
  (statementForm minify kind items <|> functionForm minify kind items <|> expressionForm minify kind items).getD
    (concat (items.map Part.layout))

/-- The layout of a leaf. -/
def atom : Atom → Layout
  | .absent | .hole => .nothing
  | .empty => ";"
  | .debuggerStatement => "debugger;"
  | .thisObject => "this"
  | .superObject => "super"
  | .importCallee .evaluation => "import"
  | .importCallee .source => "import.source"
  | .importCallee .deferred => "import.defer"
  | .newTarget => "new.target"
  | .nullLiteral => "null"
  | .boolean value => if value then "true" else "false"
  | .number raw => if minify then Numeral.short raw else raw
  | .bigInt raw => if minify then Numeral.shortBig raw else raw
  | .regex body flags => "/" ++ body ++ "/" ++ flags
  | .privateName name => "#" ++ name
  | .emptyMember => ";"

/-- The text of a string literal. A directive for strict code that is written with escapes stays as it is. -/
def string (value : String) (raw : Option String) : Layout :=
  match raw with
  | none => Quoted.short value
  | some raw =>
    if !minify || (value = "use strict" && raw.toList.contains '\\') then raw else Quoted.short value

end

end Stencil.Script.Print
