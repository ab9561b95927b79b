import Stencil.Script.Grammar.Parse
/-!
# Bound patterns and keys

What a declaration or a parameter binds: an identifier, or a pattern of an array or an object; and the keys
that patterns share with object literals and classes.
-/

namespace Stencil.Script.Grammar

/-- The key of a property: a name, a literal or an expression in brackets. -/
def propertyKey (parse : Productions) : Parse Node := do
  match ← requireToken with
  | .word name _ =>
    advance
    return .name name
  | .string value raw =>
    advance
    return .text value (some raw)
  | .number raw =>
    advance
    return .atom (.number raw)
  | .bigInt raw =>
    advance
    return .atom (.bigInt raw)
  | .punctuator "[" =>
    advance
    let key ← withIn (parse .assignment)
    expect "]"
    return .node .computed [key]
  | _ => failUnexpected "identifier, string literal, numeric literal or [ for the computed key"

/-- A pattern and its default value, if it has one. -/
def bindingElement (parse : Productions) : Parse Node := do
  let pattern ← parse .binding
  if ← take "=" then return .node .defaulted [pattern, ← withIn (parse .assignment)]
  else return pattern

/-- The comma after an element, unless the list ends here. -/
def separator (closing : String) : Parse Unit := do
  if !(← isAt closing) then expect ","

/-- What follows the dots of a rest element, which nothing may follow. -/
def restElement (parse : Productions) (closing : String) : Parse Node := do
  let start ← here
  let inner ← parse .binding
  if !(← isAt closing) then
    expect ","
    record start .restNotLast
  return .node .rest [inner]

/-- An element of an array pattern with the comma after it. -/
def arrayElement (parse : Productions) : Parse Node := do
  if ← take "," then return .atom .hole
  else if ← take "..." then restElement parse "]"
  else
    let element ← bindingElement parse
    separator "]"
    return element

/-- A property of an object pattern with the comma after it. What the others leave over goes to a single
name. -/
def patternProperty (parse : Productions) : Parse Node := do
  if ← take "..." then
    let start ← here
    let rest ← restElement parse "\x7d"
    if !(rest matches .node .rest [.binding _]) then record start .restNotIdentifier
    return rest
  else
    let key ← propertyKey parse
    let property ←
      if ← take ":" then pure (.node .propertyPattern [key, ← bindingElement parse])
      else match key with
        | .name name =>
          if ← take "=" then
            pure (.node .shorthandPattern [.binding name, ← withIn (parse .assignment)])
          else pure (.node .shorthandPattern [.binding name, .absent])
        | _ => failUnexpected "an identifier"
    separator "\x7d"
    return property

/-- An identifier or pattern that is bound. -/
def bindingPattern (parse : Productions) : Parse Node := do
  match ← requireToken with
  | .word _ _ => return .binding (← identifier)
  | .punctuator "[" =>
    advance
    let elements ← many (return !(← isDone) && !(← isAt "]")) (arrayElement parse)
    expect "]"
    return .node .arrayPattern elements
  | .punctuator "\x7b" =>
    advance
    let properties ← many (return !(← isAt "\x7d")) (patternProperty parse)
    expect "\x7d"
    return .node .objectPattern properties
  | _ => failUnexpected "yield, an identifier, [ or \x7b"

end Stencil.Script.Grammar
