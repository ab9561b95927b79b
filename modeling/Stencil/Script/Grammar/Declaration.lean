import Stencil.Script.Grammar.Expression
/-!
# Variable declarations and loop heads

A declaration in the head of a loop ends before `in` and `of`, and the pieces of a counting loop are separated
by semicolons that have to be written.
-/

namespace Stencil.Script.Grammar

/-- Whether the current token is the word `let` and begins a declaration. -/
def isAtLetDeclaration : Parse Bool := do
  if ← isAtWord "let" then
    match (← nextLexeme).token with
    | .word name _ => return !keywords.contains name
    | .punctuator text => return text = "[" || text = "\x7b"
    | _ => return false
  else return false

/-- The keyword of a declaration. -/
def variableKeyword? : Parse (Option VariableKeyword) := do
  match ← token with
  | .word "var" false => return some .plain
  | .word "let" false => return some .lexical
  | .word "const" false => return some .constant
  | _ => return none

/-- Whether the current token is one of the words that a loop over values has in its head. -/
def isAtLoopWord : Parse Bool := return (← isAtWord "of") || (← isAtWord "in")

/-- One variable or pattern with its initial value. -/
def declarator (parse : Productions) (keyword : VariableKeyword) (inLoop : Bool) : Parse Node := do
  let start ← here
  let pattern ← parse .binding
  if keyword != .plain && (pattern matches .binding "let") then record start (.reservedWord "let")
  if inLoop && (← isAtLoopWord) then return .node .declarator [pattern, .absent]
  else if ← take "=" then return .node .declarator [pattern, ← parse .assignment]
  else
    if !(pattern matches .binding _) then record start .initializerMissing
    else if keyword = .constant && (← context).strict && !inLoop then record start .initializerMissing
    return .node .declarator [pattern, .absent]

/-- The declarators of a declaration, up to the one that no comma follows. -/
def declarators (parse : Productions) (keyword : VariableKeyword) (inLoop : Bool) : Nat → Parse (List Node)
  | 0 => return []
  | steps + 1 => do
    if (← isAt ";") || (← isDone) then
      recordHere .nameMissing
      return []
    else
      let first ← declarator parse keyword inLoop
      if ← take "," then return first :: (← declarators parse keyword inLoop steps)
      else return [first]

/-- Passes tokens up to the end of a statement. -/
def skipStatement : Nat → Parse Unit
  | 0 => return ()
  | steps + 1 => do
    if ← takeSemicolon then return ()
    else
      discard requireToken
      advance
      skipStatement steps

/-- A declaration without the semicolon behind it. In the head of a loop, what `var` declares may have an
initial value before the word `in`, unless that is an operator there. -/
def declarationHead (parse : Productions) (keyword : VariableKeyword) (inLoop : Bool) : Parse Node := do
  advance
  let items ← within (fun c => { c with allowsIn := keyword != .plain || !inLoop || c.allowsIn })
    (declarators parse keyword inLoop (← stepsLeft))
  return .node (.variableList keyword) items

/-- A declaration. What follows it on the same line is a recorded flaw. -/
def declaration (parse : Productions) (keyword : VariableKeyword) : Parse Node := do
  let node ← declarationHead parse keyword false
  if !(← takeSemicolon) then
    recordHere (.expected ";" (← token).describe)
    discard (attempt (parse .expression))
    skipStatement (← stepsLeft)
  return node

/-! ## Loop heads -/

/-- The head of a loop: its kind and the parts in front of its body. -/
structure LoopHead where
  kind : Kind
  parts : List Node

/-- The rest of the head of a counting loop. -/
def countingHead (parse : Productions) (init : Node) : Parse LoopHead := do
  let test ←
    if ← take ";" then pure .absent
    else do
      let test ← withIn (parse .expression)
      expect ";"
      pure test
  let update ← if ← isAt ")" then pure .absent else withIn (parse .expression)
  return ⟨.forLoop, [init, test, update]⟩

/-- The rest of the head of a loop over values. -/
def valuesHead (parse : Productions) (isAwait : Bool) (target : Node) : Parse LoopHead := do
  if ← takeWord "of" then return ⟨.forOf isAwait, [target, ← withIn (parse .assignment)]⟩
  else
    expectWord "in"
    return ⟨.forIn, [target, ← withIn (parse .expression)]⟩

/-- Records declarations that a loop over values cannot have in its head. -/
def checkLoopDeclaration (start : Nat) (node : Node) : Parse Unit := do
  match node.parts with
  | [.node .declarator [_, value]] =>
    if !value.isAbsent && ((← context).strict || (← isAtWord "of")) then record start .initializerInLoopHead
  | _ => record start .manyDeclarationsInLoopHead

/-- The head of a loop that begins with a declaration. -/
def declaringHead (parse : Productions) (keyword : VariableKeyword) (isAwait : Bool) : Parse LoopHead := do
  let start ← startOffset
  let node ← declarationHead parse keyword true
  if ← isAtLoopWord then
    checkLoopDeclaration start node
    valuesHead parse isAwait node
  else
    expect ";"
    countingHead parse node

/-- The head of a loop that begins with an expression or with nothing. -/
def plainHead (parse : Productions) (isAwait : Bool) : Parse LoopHead := do
  if ← take ";" then countingHead parse .absent
  else
    let start ← startOffset
    let init ← within (fun c => { c with allowsIn := false, inAwaitingHead := isAwait }) (parse .expression)
    if ← isAtLoopWord then
      match init.toTarget? (← context).strict with
      | some target => valuesHead parse isAwait target
      | none => failAt start .invalidTarget
    else
      expect ";"
      countingHead parse init

/-- The head of a loop. -/
def loopHead (parse : Productions) (isAwait : Bool) : Parse LoopHead := do
  match ← variableKeyword? with
  | some .lexical =>
    if ← isAtLetDeclaration then declaringHead parse .lexical isAwait else plainHead parse isAwait
  | some keyword => declaringHead parse keyword isAwait
  | none => plainHead parse isAwait

end Stencil.Script.Grammar
