import Stencil.Script.Scan.Token
import Stencil.Script.Tree
/-!
# Parsing steps

A step of parsing reads tokens one at a time and knows the context it stands in. It may record a flaw and go
on, or give up with one; the state survives giving up, because some forms resume where an operand failed.

The grammar is a table of productions: `Symbol` lists the forms that contain each other, a production may ask
for any of them, and the depth of such requests is bounded by the length of the text.
-/

namespace Stencil.Script.Grammar

/-- What the place in the script allows. -/
structure Context where
  strict : Bool := false
  isAsync : Bool := false
  isGenerator : Bool := false
  inFunction : Bool := false
  inParameters : Bool := false
  inStaticBlock : Bool := false
  /-- Whether this is the initial value of a field or a static block, where no `arguments` exist. -/
  inClassField : Bool := false
  /-- Whether this is the head of a loop that awaits its values, which `async` may begin. -/
  inAwaitingHead : Bool := false
  /-- Whether a script may return from its outermost level. -/
  allowsReturn : Bool := false
  allowsSuper : Bool := false
  allowsNewTarget : Bool := false
  allowsBreak : Bool := false
  allowsContinue : Bool := false
  /-- Whether `in` is an operator here. It is in most expressions, which say so, and in all that a function
  with its own `this` holds. -/
  allowsIn : Bool := false

/-- The state of parsing. -/
structure State where
  current : Lexeme
  /-- Where the last token taken began. -/
  lastStart : Nat
  /-- The length of the text. -/
  size : Nat
  /-- The line comments passed, the last one first. -/
  comments : List Comment
  /-- The flaws recorded, the last one first. -/
  flaws : List Flaw
  context : Context
  /-- The labels in force. -/
  labels : List String
  /-- Where an expression began that may turn out to be the head of an arrow function. -/
  arrowStart : Option Nat

/-- A step of parsing. -/
abbrev Parse := EStateM Flaw State

/-- The forms that productions refer to. -/
inductive Symbol where
  /-- Assignment expressions separated by commas. -/
  | expression
  | assignment
  /-- An operand of a binary operator. -/
  | unary
  /-- The callee of `new`: an expression without calls. -/
  | member
  /-- An expression without operators, perhaps with calls. -/
  | leftHandSide
  /-- A statement; `declares` says whether declarations are allowed, `outermost` whether it is one of the
  script's own. -/
  | statement (declares outermost : Bool)
  /-- An identifier or pattern that is bound. -/
  | binding
deriving DecidableEq, Repr

/-- How a production reaches the others. -/
abbrev Productions := Symbol → Parse Node

/-! ## The current token -/

/-- The current token. -/
def token : Parse Token := return (← get).current.token

/-- The context. -/
def context : Parse Context := return (← get).context

/-- The offset of the current token. -/
def startOffset : Parse Nat := return (← get).current.start.offset

/-- Where a flaw shows: at the current token, or at the last one when none is left. -/
def here : Parse Nat := do
  let s ← get
  return if s.current.token = .done then s.lastStart else s.current.start.offset

/-- Whether a line ended before the current token; the end of the text counts as such. -/
def afterLine : Parse Bool := do
  let s ← get
  return s.current.afterLine || s.current.token = .done

/-- Makes the token after a place the current one. -/
def scanFrom (cur : Cursor) : Parse Unit :=
  modify fun s =>
    let next := Scan.lexeme s.context.strict cur false
    { s with
      current := next
      comments := next.comments ++ s.comments
      flaws := next.flaws.reverse ++ s.flaws }

/-- Reads the current token again, in the context that holds now. -/
def rescan : Parse Unit :=
  modify fun s =>
    let next := Scan.rescan s.context.strict s.current
    { s with
      current := next
      flaws := (next.flaws.filter fun flaw => !s.current.flaws.contains flaw).reverse ++ s.flaws }

/-- Takes the current token. -/
def advance : Parse Unit := do
  let s ← get
  set { s with lastStart := s.current.start.offset }
  scanFrom s.current.stop

/-- The token after the current one. -/
def nextLexeme : Parse Lexeme := do
  let s ← get
  return Scan.lexeme s.context.strict s.current.stop false

/-- Whether the current token is the punctuator. -/
def isAt (text : String) : Parse Bool := return (← token) = .punctuator text

/-- Whether the current token is one of the punctuators. -/
def isAtOne (texts : List String) : Parse Bool := do
  match ← token with
  | .punctuator text => return texts.contains text
  | _ => return false

/-- Whether the current token is the word, written without escapes. -/
def isAtWord (name : String) : Parse Bool := return (← token) = .word name false

/-- Whether nothing is left. -/
def isDone : Parse Bool := return (← token) = .done

/-! ## Flaws -/

/-- Gives up at an offset; characters that make no token come first. -/
def failAt {α : Type} (offset : Nat) (cause : Cause) : Parse α := do
  match ← token with
  | .broken flaw => throw flaw
  | _ => throw ⟨offset, cause⟩

/-- Gives up at the current token. -/
def fail {α : Type} (cause : Cause) : Parse α := do failAt (← here) cause

/-- Records a flaw and goes on; characters that make no token are recorded in its place and passed. -/
def recordFlaw (flaw : Flaw) : Parse Unit := do
  match ← token with
  | .broken other =>
    advance
    modify fun s => { s with flaws := other :: s.flaws }
  | _ => modify fun s => { s with flaws := flaw :: s.flaws }

/-- Records a flaw at an offset. -/
def record (offset : Nat) (cause : Cause) : Parse Unit := recordFlaw ⟨offset, cause⟩

/-- Records a flaw at the current token. -/
def recordHere (cause : Cause) : Parse Unit := do record (← here) cause

/-- The current token, which must be there and be a token. -/
def requireToken : Parse Token := do
  match ← token with
  | .done => throw ⟨(← get).size, .unexpectedEnd⟩
  | .broken flaw => throw flaw
  | t => return t

/-! ## Taking tokens -/

/-- Takes the punctuator if it is there. -/
def take (text : String) : Parse Bool := do
  if ← isAt text then
    advance
    return true
  else return false

/-- Takes the word if it is there. -/
def takeWord (name : String) : Parse Bool := do
  if ← isAtWord name then
    advance
    return true
  else return false

/-- Takes the punctuator, which must be there. -/
def expect (text : String) : Parse Unit := do
  if !(← take text) then fail (.expected text (← token).describe)

/-- Takes the word, which must be there. -/
def expectWord (name : String) : Parse Unit := do
  if !(← takeWord name) then fail (.expected name (← token).describe)

/-- Gives up on a token that the form cannot begin with. -/
def failUnexpected {α : Type} (wanted : String) : Parse α := do
  let t ← requireToken
  fail (.unexpectedToken t.describe wanted)

/-- Whether a statement may end here: at a semicolon, a closing brace, a new line or the end. -/
def atStatementEnd : Parse Bool := do
  return (← isAtOne [";", "\x7d"]) || (← afterLine)

/-- Takes the end of a statement if it is there; a semicolon need not be written. -/
def takeSemicolon : Parse Bool := do
  if ← isAt ";" then
    advance
    return true
  else atStatementEnd

/-- Takes the end of a statement, which must be there. -/
def expectSemicolon : Parse Unit := do
  if !(← takeSemicolon) then fail (.expected ";" (← token).describe)

/-! ## Repetition and context -/

/-- Repeats a step as long as the test holds. -/
def repeatWhile {α : Type} (test : Parse Bool) (step : Parse α) : Nat → Parse (List α)
  | 0 => return []
  | steps + 1 => do
    if ← test then
      let item ← step
      return item :: (← repeatWhile test step steps)
    else return []

/-- How many steps can be taken at most: each takes a character at least. -/
def stepsLeft : Parse Nat := do
  let s ← get
  return s.size - s.current.start.offset + 2

/-- Repeats a step as long as the test holds and text is left. -/
def many {α : Type} (test : Parse Bool) (step : Parse α) : Parse (List α) := do
  repeatWhile test step (← stepsLeft)

/-- Runs a step in another context. -/
def within {α : Type} (change : Context → Context) (step : Parse α) : Parse α := do
  let old ← context
  modify fun s => { s with context := change s.context }
  let result ← step
  modify fun s => { s with context := old }
  return result

/-- Runs a step in the body of a function: labels and loops around it do not reach inside. -/
def withinBody {α : Type} (change : Context → Context) (step : Parse α) : Parse α := do
  let labels := (← get).labels
  modify fun s => { s with labels := [] }
  let result ← within (fun c => { change c with allowsBreak := false, allowsContinue := false }) step
  modify fun s => { s with labels := labels }
  return result

/-- Runs a step and says how it went; where it gave up, the context around it is back in force. -/
def attempt {α : Type} (step : Parse α) : Parse (Except Flaw α) := do
  let s ← get
  try return .ok (← step)
  catch flaw =>
    modify fun failed => { failed with context := s.context, labels := s.labels }
    return .error flaw

/-- Runs a step where `in` is an operator. -/
def withIn {α : Type} (step : Parse α) : Parse α := within (fun c => { c with allowsIn := true }) step

/-! ## Identifiers -/

/-- Words that strict code keeps for later. -/
def reservedWhenStrict : List String :=
  ["let", "yield", "implements", "interface", "package", "private", "protected", "public"]

/-- Whether a word may be read as an identifier. -/
def isIdentifierWord (c : Context) (name : String) : Bool :=
  if name = "yield" && c.isGenerator then false
  else if name = "await" then !c.isAsync && !c.inStaticBlock
  else if c.strict && reservedWhenStrict.contains name then false
  else name != "enum" && !keywords.contains name

/-- Whether the current token may be read as an identifier. -/
def isAtIdentifier : Parse Bool := do
  match ← token with
  | .word name _ => return isIdentifierWord (← context) name
  | _ => return false

/-- Records a use of `arguments` where none exist. -/
def checkArguments (start : Nat) (name : String) : Parse Unit := do
  if name = "arguments" && (← context).inClassField then record start .argumentsInField

/-- An identifier that is bound, assigned to or used as a label. -/
def identifier : Parse String := do
  match ← requireToken with
  | .word name escaped =>
    let start ← startOffset
    let c ← context
    advance
    if name = "enum" then record start (.reservedWord name)
    if keywords.contains name then
      throw ⟨start, if escaped then .escapedKeyword else .identifierExpected⟩
    else if name = "yield" ∧ c.isGenerator then throw ⟨start, .identifierExpected⟩
    else if name = "await" ∧ (c.isAsync ∨ c.inStaticBlock) then throw ⟨start, .reservedWord name⟩
    else
      checkArguments start name
      return name
  | _ => fail .identifierExpected

/-- A name that may be any word. -/
def identifierName : Parse String := do
  match ← requireToken with
  | .word name _ =>
    advance
    return name
  | _ => fail .identifierExpected

end Stencil.Script.Grammar
