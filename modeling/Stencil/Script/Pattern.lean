import Stencil.Script.Tree
/-!
# Expressions read as patterns

The target of an assignment and the parameters of an arrow function are read as expressions first, because
nothing tells them apart before the `=` or `=>` behind them. Here they become what they turned out to be.
-/

namespace Stencil.Script

/-- Names that strict code may not assign to. -/
def isProtectedName (name : String) : Bool := name = "eval" || name = "arguments"

namespace Node

/-- Whether an expression may be assigned to as a whole: an identifier or a member, perhaps in parentheses. -/
def isSimpleTarget (strict : Bool) : Node → Bool
  | .ref id => !(strict && isProtectedName id)
  | .node (.dot .plain) _ => true
  | .node (.index .plain) _ => true
  | .node .paren [inner] => isSimpleTarget strict inner
  | _ => false

/-- Whether a node is a spread element. -/
def isSpread : Node → Bool
  | .node (.spread _) _ => true
  | _ => false

/-- An element with the note that a comma follows it at the end of the list, which matters for a spread. -/
def withComma : Node → Node
  | .node (.spread _) parts => .node (.spread true) parts
  | other => other

/-- Whether an expression, perhaps spread, is an object literal that gives a shorthand property a default
value. -/
def hasCoverInitializer : Node → Bool
  | .node .object properties => properties.any fun p => p.kind? = some .coverInitializer
  | .node (.spread _) [.node .object properties] => properties.any fun p => p.kind? = some .coverInitializer
  | _ => false

/-- The elements without the holes at their end, which take nothing from the value. -/
def withoutLastHoles (elements : List Node) : List Node :=
  (elements.reverse.dropWhile fun element => element matches .atom .hole).reverse

mutual

/-- An expression as the target of an assignment; none if it cannot be one. -/
def toTarget? (strict : Bool) : Node → Option Node
  | .ref id => if strict && isProtectedName id then none else some (.binding id)
  | .node .array elements => return .node .arrayPattern (withoutLastHoles (← toElements? strict elements))
  | .node .object properties => return .node .objectPattern (← toProperties? strict properties)
  | .node .paren [inner] => if isSimpleTarget strict inner then some (.node .paren [inner]) else none
  | .node (.dot .plain) parts => some (.node (.dot .plain) parts)
  | .node (.index .plain) parts => some (.node (.index .plain) parts)
  | _ => none

/-- An expression as a target inside a pattern, where it may have a default value. -/
def toElement? (strict : Bool) : Node → Option Node
  | .node (.assign .plain) [target, value] => some (.node .defaulted [target, value])
  | inner => toTarget? strict inner

/-- The elements of an array literal as those of a pattern. A rest element is the last one, and no comma
follows it. -/
def toElements? (strict : Bool) : List Node → Option (List Node)
  | [] => some []
  | [.node (.spread false) [inner]] => return [.node .rest [← toTarget? strict inner]]
  | .atom .hole :: rest => return .atom .hole :: (← toElements? strict rest)
  | element :: rest => return (← toElement? strict element) :: (← toElements? strict rest)

/-- The properties of an object literal as those of a pattern. -/
def toProperties? (strict : Bool) : List Node → Option (List Node)
  | [] => some []
  | [.node (.spread false) [inner]] => return [.node .rest [← toTarget? strict inner]]
  | property :: rest => return (← toProperty? strict property) :: (← toProperties? strict rest)

/-- One property of an object literal as that of a pattern. -/
def toProperty? (strict : Bool) : Node → Option Node
  | .shorthand id => some (.node .shorthandPattern [.binding id, absent])
  | .node .coverInitializer [target, value] => some (.node .shorthandPattern [target, value])
  | .node .property [key, value] => return .node .propertyPattern [key, ← toElement? strict value]
  | _ => none

end

/-- Whether a node is an array or object pattern. -/
def isPattern : Node → Bool
  | .node .arrayPattern _ | .node .objectPattern _ => true
  | _ => false

/-- Whether a target binds names only, as the parameters of a function must. The pattern in front of a default
value was the target of an assignment, and is one for good. -/
def isBindingPattern : Node → Bool
  | .binding _ => true
  | .atom .hole => true
  | .node .arrayPattern elements => allBind elements
  | .node .objectPattern properties => allBindKeys properties
  | .node .defaulted [.binding _, _] => true
  | .node .defaulted [target, _] => target.isPattern
  | .node .rest [inner] => isBindingPattern inner
  | _ => false
where
  /-- Whether all of them bind names only. -/
  allBind : List Node → Bool
    | [] => true
    | pattern :: rest => isBindingPattern pattern && allBind rest
  /-- Whether all properties bind names only; what they leave over goes to a single name. -/
  allBindKeys : List Node → Bool
    | [] => true
    | .node .rest [.binding _] :: rest => allBindKeys rest
    | .node .shorthandPattern _ :: rest => allBindKeys rest
    | .node .propertyPattern [_, inner] :: rest => isBindingPattern inner && allBindKeys rest
    | _ => false

/-- Whether parameters are identifiers and nothing else. -/
def areSimpleParameters (parameters : List Node) : Bool :=
  parameters.all fun p => match p with
    | .binding _ => true
    | _ => false

end Node

end Stencil.Script
