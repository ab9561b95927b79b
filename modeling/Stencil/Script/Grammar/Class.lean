import Stencil.Script.Grammar.Function
/-!
# Classes

The members of a class: methods, accessors, fields, static blocks and stray semicolons. The words `static`,
`get`, `set` and `async` are names of members unless the rest of a member follows them.
-/

namespace Stencil.Script.Grammar

/-- The key of a member, which may be private. -/
def memberKey (parse : Productions) : Parse Node := do
  match ← requireToken with
  | .privateName name =>
    if name = "constructor" then recordHere .privateConstructor
    advance
    return .atom (.privateName name)
  | _ => propertyKey parse

/-- Whether a key is that of the constructor. -/
def isConstructorKey : Node → Bool
  | .name "constructor" => true
  | .text "constructor" _ => true
  | _ => false

/-- Whether a member that has only its key ends here; `lines` says whether a new line ends it. -/
def isAtFieldEnd (lines : Bool) : Parse Bool := do
  if ← isAtOne ["=", "\x7d", ";"] then return true
  else return lines && (← afterLine)

/-- A method of a class, from its parameters on. -/
def methodFrom (parse : Productions) (isStatic : Bool) (access : Access) (key : Node) : Parse Node := do
  return .node (.classMethod isStatic access) (key :: (← methodTail parse access))

/-- A field of a class, from its initial value on. -/
def fieldFrom (parse : Productions) (isStatic : Bool) (key : Node) : Parse Node := do
  if isConstructorKey key then fail .constructorKind
  let value ←
    if ← take "=" then
      within (fun c => { c with allowsIn := true, inClassField := true }) (parse .assignment)
    else pure .absent
  if !(← takeSemicolon) then recordHere (.expected ";" (← token).describe)
  return .node (.field isStatic) [key, value]

/-- A block that runs when the class is made. Loops, labels and the function around the class reach inside. -/
def staticBlock (parse : Productions) : Parse Node := do
  let body ← within (fun c => { c with inStaticBlock := true, inClassField := true }) (block parse)
  return .node .staticBlock [body]

/-- A member whose key is read and which is no plain method: a field, or `get`, `set` and `async` with the key
behind them. -/
def memberAfterKey (parse : Productions) (isStatic : Bool) (key : Node) : Parse Node := do
  let lineBefore ← afterLine
  let keyword? := match key with
    | .name name => some name
    | _ => none
  let isAccessor := (keyword? = some "get" || keyword? = some "set") && !(← isAtFieldEnd false)
    && !(lineBefore && (← isAt "*"))
  if !isAccessor && (← isAtFieldEnd true) then fieldFrom parse isStatic key
  else if keyword? = some "async" && !lineBefore then
    let calling : Calling := { isAsync := true, isGenerator := ← take "*" }
    let name ← memberKey parse
    if isConstructorKey name then fail .constructorKind
    methodFrom parse isStatic (.method calling) name
  else if isAccessor then
    let name ← memberKey parse
    if isConstructorKey name then recordHere .constructorKind
    methodFrom parse isStatic (if keyword? = some "get" then .getter else .setter) name
  else failUnexpected "* for generator, private key, identifier or async"

/-- A member after the word `static`, or one without it. -/
def memberBody (parse : Productions) (isStatic : Bool) : Parse Node := do
  if isStatic && (← isAt "\x7b") then staticBlock parse
  else if ← take "*" then
    let key ← memberKey parse
    if isConstructorKey key then recordHere .constructorKind
    methodFrom parse isStatic (.method { isGenerator := true }) key
  else
    let key ← memberKey parse
    if ← isAt "(" then
      if isConstructorKey key && !isStatic then
        return .node .constructor (key :: (← functionTail parse {} true anyParameters))
      else methodFrom parse isStatic (.method {}) key
    else memberAfterKey parse isStatic key

/-- A member of a class. -/
def classMember (parse : Productions) : Parse Node := do
  if ← take ";" then return .atom .emptyMember
  else if ← takeWord "static" then
    if ← isAt "(" then methodFrom parse false (.method {}) (.name "static")
    else if (← isAtFieldEnd false) then fieldFrom parse false (.name "static")
    else memberBody parse true
  else memberBody parse false

/-- Records every constructor after the first. -/
def checkConstructors (start : Nat) (members : List Node) : Parse Unit := do
  if (members.filter fun m => m.kind? = some .constructor).length > 1 then record start .duplicateConstructor

/-- The superclass and the members of a class, in the order in which they are visited. -/
def classTail (parse : Productions) : Parse (List Node) := do
  let start ← here
  let superclass ← if ← takeWord "extends" then parse .leftHandSide else pure .absent
  expect "\x7b"
  let members ← within (fun c => { c with allowsSuper := true })
    (many (return !(← isDone) && !(← isAt "\x7d")) (classMember parse))
  checkConstructors start members
  return [.node .members members, superclass]

/-- A class, from its keyword on; all of it is strict. The name of a class expression may be left out. -/
def classFrom (parse : Productions) (isExpression : Bool) : Parse Node := do
  expectWord "class"
  if (← token) matches .word "let" _ then failUnexpected "let is reserved in const, let, class declaration"
  let parts ← within (fun c => { c with strict := true, allowsNewTarget := true }) do
    let name ←
      if isExpression then
        if ← isAtIdentifier then pure (.binding (← identifier)) else pure .absent
      else pure (.binding (← identifier))
    return name :: (← classTail parse)
  if ← isDone then recordHere (.expected "\x7d" "<eof>") else expect "\x7d"
  return .node (if isExpression then .classExpression else .classDeclaration) parts

end Stencil.Script.Grammar
