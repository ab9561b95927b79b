import Stencil.Script.Grammar.Function
/-!
# Literals

Regular expressions, templates, array and object literals. An object literal may hold a shorthand property
with a default value, which makes sense only if the literal turns out to be a pattern; it is accepted in any
literal that does not stand directly in parentheses.
-/

namespace Stencil.Script.Grammar

/-- An assignment expression, perhaps spread. -/
def spreadable (parse : Productions) : Parse Node := do
  if ← take "..." then return .node (.spread false) [← withIn (parse .assignment)]
  else withIn (parse .assignment)

/-- The comma after an item, unless the list ends here. A spread item keeps a note of a comma at the end. -/
def separated (closing : String) (item : Node) : Parse Node := do
  if ← isAt closing then return item
  else
    expect ","
    return if ← isAt closing then item.withComma else item

/-! ## Regular expressions -/

/-- A regular expression, whose opening slash is the current token. -/
def regularExpression : Parse Node := do
  let s ← get
  let start := s.current.start
  match Scan.regex? start with
  | some (body, flags, stop) =>
    set { s with lastStart := start.offset }
    scanFrom stop
    if !Scan.validFlags flags.toList then record start.offset .regexFlags
    return .atom (.regex body flags)
  | none =>
    let flaw : Flaw := ⟨start.offset, .unterminatedRegex⟩
    set { s with current := { s.current with token := .broken flaw } }
    throw flaw

/-! ## Templates -/

/-- The text of a template after the current token, and whether an expression follows it. -/
def templateText (isTagged : Bool) : Parse (String × Bool) := do
  let s ← get
  let start := s.current.stop
  match Scan.templateText? start.rest with
  | none => throw ⟨s.size, .unexpectedEnd⟩
  | some text =>
    if !isTagged && !text.isValid then throw ⟨start.offset, .malformedEscape⟩
    set { s with lastStart := start.offset }
    scanFrom (start.forward text.length)
    return (String.ofList text.raw, text.opensExpression)

/-- The expressions of a template and the texts behind them, as long as expressions follow. -/
def templateRest (parse : Productions) (isTagged : Bool) : Nat → Bool → Parse (List (Node × String))
  | 0, _ => return []
  | _, false => return []
  | steps + 1, true => do
    let expression ← withIn (parse .expression)
    if !(← isAt "\x7d") then fail (.expected "\x7d" (← token).describe)
    let (text, opens) ← templateText isTagged
    return (expression, text) :: (← templateRest parse isTagged steps opens)

/-- A template, whose opening quote is the current token: its texts and the expressions between them. -/
def templateParts (parse : Productions) (isTagged : Bool) : Parse (List String × List Node) := do
  let (text, opens) ← templateText isTagged
  let rest ← templateRest parse isTagged (← stepsLeft) opens
  return (text :: rest.map Prod.snd, rest.map Prod.fst)

/-- A template that no tag reads. -/
def template (parse : Productions) : Parse Node := do
  let (texts, expressions) ← templateParts parse false
  return .node (.template texts) expressions

/-- A template that a tag reads. -/
def taggedTemplate (parse : Productions) (tag : Node) : Parse Node := do
  let (texts, expressions) ← templateParts parse true
  return .node (.tagged texts) (tag :: expressions)

/-! ## Arrays -/

/-- An element of an array literal with the comma after it. -/
def element (parse : Productions) : Parse Node := do
  if ← take "," then return .atom .hole else separated "]" (← spreadable parse)

/-- An array literal. -/
def arrayLiteral (parse : Productions) : Parse Node := do
  expect "["
  let elements ← many (return !(← isDone) && !(← isAt "]")) (element parse)
  expect "]"
  return .node .array elements

/-! ## Objects -/

/-- A method of an object literal, from its parameters on. -/
def objectMethod (parse : Productions) (access : Access) (key : Node) : Parse Node := do
  return .node (.method access) (key :: (← methodTail parse access))

/-- A property that is named by a word and has neither value nor parameters behind it. -/
def propertyAfterName (parse : Productions) (name : String) : Parse Node := do
  if ← take "=" then
    return .node .coverInitializer [.binding name, ← withIn (parse .assignment)]
  else if ← isAtOne [",", "\x7d"] then return .shorthand name
  else if name = "get" then objectMethod parse .getter (← propertyKey parse)
  else if name = "set" then objectMethod parse .setter (← propertyKey parse)
  else if name = "async" then
    let calling : Calling := { isAsync := true, isGenerator := ← take "*" }
    objectMethod parse (.method calling) (← propertyKey parse)
  else failUnexpected "... , *,  (, [, :, , ?, = or an identifier"

/-- A property of an object literal. -/
def property (parse : Productions) : Parse Node := do
  if ← take "..." then return .node (.spread false) [← withIn (parse .assignment)]
  else if ← take "*" then objectMethod parse (.method { isGenerator := true }) (← propertyKey parse)
  else
    let key ← propertyKey parse
    if ← take ":" then return .node .property [key, ← withIn (parse .assignment)]
    else if ← isAt "(" then objectMethod parse (.method {}) key
    else match key with
      | .name name => propertyAfterName parse name
      | _ => failUnexpected "identifier"

/-- An object literal. -/
def objectLiteral (parse : Productions) : Parse Node := do
  expect "\x7b"
  let properties ← many (return !(← isAt "\x7d")) (do separated "\x7d" (← property parse))
  expect "\x7d"
  return .node .object properties

end Stencil.Script.Grammar
