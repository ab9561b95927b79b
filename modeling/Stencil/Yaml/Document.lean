import Stencil.Yaml.Reader
/-!
# YAML documents

Block mappings and sequences are told by their indentation, flow collections stand in brackets. The grammar is
a table over the places where a node may stand; its depth is bounded by the length of the text.
-/

namespace Stencil.Yaml

open Read

/-- Where a node may stand. -/
inductive Place where
  /-- In a flow collection. -/
  | flow
  /-- On the line of its key, or below it; columns from `least` on belong to it, and those of sequences from
  `leastItem` on. A compact node may be a block collection that begins on the line. -/
  | block (least leastItem : Nat) (isCompact : Bool)

/-- How a form reaches the nodes in it. -/
abbrev Nodes := Place → Read Yaml

/-! ## Flow collections -/

/-- Whether a flow collection has no node here. -/
def hasNoNode : List Char → Bool
  | [] => true
  | c :: rest => c == ',' || c == ']' || c == '\x7d' || (c == ':' && endsKey true rest)

/-- The comma after an item, unless the collection ends here. -/
def flowSeparator (closing : Char) : Read Unit := do
  skipGap true
  match ← rest with
  | ',' :: _ => skip 1
  | c :: _ => if c != closing then throw .unterminatedFlow
  | [] => throw .unterminatedFlow

/-- Whether the mark of a key on its own stands here. -/
def isKeyMark : List Char → Bool
  | '?' :: rest => endsToken rest
  | _ => false

/-- A key with the value behind its colon, if there is one. -/
def flowPair (node : Nodes) : Read (Yaml × Option Yaml) := do
  if isKeyMark (← rest) then
    skip 1
    skipGap true
  let key ← node .flow
  let isQuoted := key matches .scalar _ false
  skipGap true
  match ← rest with
  | ':' :: after =>
    if isQuoted || endsKey true after then
      skip 1
      skipGap true
      return (key, some (← node .flow))
    else return (key, none)
  | _ => return (key, none)

/-- The pairs of a flow collection up to its bracket. -/
def flowPairs (node : Nodes) (closing : Char) : Nat → Read (List (Yaml × Option Yaml))
  | 0 => throw .unterminatedFlow
  | steps + 1 => do
    skipGap true
    match ← rest with
    | [] => throw .unterminatedFlow
    | c :: _ =>
      if c == closing then
        skip 1
        return []
      else if c == ',' then throw (.unexpectedCharacter c)
      else
        let pair ← flowPair node
        flowSeparator closing
        return pair :: (← flowPairs node closing steps)

/-- An item of a flow sequence, which may be a mapping of one pair. -/
def flowItem : Yaml × Option Yaml → Yaml
  | (key, none) => key
  | (key, some value) => .mapping [(key, value)]

/-- An entry of a flow mapping. -/
def flowEntry : Yaml × Option Yaml → Yaml × Yaml
  | (key, value) => (key, value.getD .empty)

/-- A node in a flow collection. -/
def flowNode (node : Nodes) : Read Yaml := do
  let cs ← rest
  if hasNoNode cs then return .empty
  else match cs with
    | '[' :: _ =>
      skip 1
      return .sequence ((← flowPairs node ']' cs.length).map flowItem)
    | '\x7b' :: _ =>
      skip 1
      return .mapping ((← flowPairs node '\x7d' cs.length).map flowEntry)
    | '"' :: _ => quoted
    | '\'' :: _ => quoted
    | '*' :: _ => anchored
    | '&' :: _ =>
      let name ← propertyName
      skipGap true
      let value ← node .flow
      remember name value
      return value
    | '!' :: _ =>
      let tag ← propertyName
      skipGap true
      return .tagged tag (← node .flow)
    | _ => plain true 0

/-! ## Block collections -/

/-- Whether an item of a block sequence begins here. -/
def isItem : List Char → Bool
  | '-' :: rest => endsToken rest
  | _ => false

/-- Checks that no tab indents the line. -/
def checkTab : Read Unit := do
  if (← get).isTabbed then throw .tabIndentation

/-- The items of a block sequence at a column. -/
def blockItems (node : Nodes) (indent : Nat) : Nat → Read (List Yaml)
  | 0 => throw .tooDeep
  | steps + 1 => do
    checkTab
    skip 1
    let item ← node (.block (indent + 1) (indent + 1) true)
    skipGap true
    if (← atEnd) || (← column) < indent then return [item]
    else if (← column) = indent && isItem (← rest) then return item :: (← blockItems node indent steps)
    else if (← column) = indent then return [item]
    else throw .badIndentation

/-- A key of a block mapping: a scalar on one line. -/
def blockKey : Read Yaml := do
  let cs ← rest
  if isKey false cs then
    let key ← match cs.head? with
      | some '"' => quoted
      | some '\'' => quoted
      | _ =>
        if startsPlain false cs then
          let line := plainLine false cs
          skip line.length
          pure (.scalar (String.ofList (dropBlanksRight line)) true)
        else if cs.head? = some ':' then pure .empty
        else throw .badIndentation
    skipBlanks
    skip 1
    return key
  else throw .colonMissing

/-- The colon at a column, before the value of a key on its own. -/
def isValueMark (indent : Nat) : Read Bool := do
  match ← rest with
  | ':' :: after => return (← column) = indent && endsToken after
  | _ => return false

/-- An entry whose key stands after a mark, and whose value, if it has one, after a colon on a line below. -/
def markedEntry (node : Nodes) (indent : Nat) : Read (Yaml × Yaml) := do
  skip 1
  let key ← node (.block (indent + 1) (indent + 1) true)
  skipGap true
  if ← isValueMark indent then
    skip 1
    return (key, ← node (.block (indent + 1) (indent + 1) true))
  else return (key, .empty)

/-- An entry of a block mapping at a column. -/
def blockEntry (node : Nodes) (indent : Nat) : Read (Yaml × Yaml) := do
  if isKeyMark (← rest) then markedEntry node indent
  else
    let key ← blockKey
    return (key, ← node (.block (indent + 1) indent false))

/-- The entries of a block mapping at a column. -/
def blockEntries (node : Nodes) (indent : Nat) : Nat → Read (List (Yaml × Yaml))
  | 0 => throw .tooDeep
  | steps + 1 => do
    checkTab
    let entry ← blockEntry node indent
    skipGap true
    if (← atEnd) || (← column) < indent then return [entry]
    else if (← column) = indent then return entry :: (← blockEntries node indent steps)
    else throw .badIndentation

/-- A node that is written at the current place; `isCompact` says whether block collections may begin here. -/
def content (node : Nodes) (least leastItem : Nat) (isCompact : Bool) : Read Yaml := do
  let cs ← rest
  match cs with
  | '&' :: _ =>
    let name ← propertyName
    let value ← node (.block least leastItem isCompact)
    remember name value
    return value
  | '!' :: _ =>
    let tag ← propertyName
    return .tagged tag (← node (.block least leastItem isCompact))
  | '*' :: _ => anchored
  | '|' :: _ => blockScalar least
  | '>' :: _ => blockScalar least
  | '[' :: _ => flowNode node
  | '\x7b' :: _ => flowNode node
  | _ =>
    if isKeyMark cs || isKey false cs then
      if isCompact then return .mapping (← blockEntries node (← column) cs.length) else throw .misplacedKey
    else match cs with
      | '"' :: _ => quoted
      | '\'' :: _ => quoted
      | _ => plain false least

/-- A node on the line of its key, or below it. -/
def blockNode (node : Nodes) (least leastItem : Nat) (isCompact : Bool) : Read Yaml := do
  let before ← get
  let isFresh := before.column = 0
  skipBlanks
  let cur ← get
  let lineIsOver := cur.rest.isEmpty || cur.rest.head? = some '\n' ||
    (cur.rest.head? = some '#' && (isFresh || cur.column != before.column))
  if !lineIsOver && !isFresh then
    if isItem cur.rest && before.rest.length != cur.rest.length && isCompact then
      return .sequence (← blockItems node cur.column cur.rest.length)
    else content node least leastItem isCompact
  else
    set before
    skipGap true
    let cs ← rest
    let here ← column
    if ← atEnd then return .empty
    else if isItem cs && leastItem ≤ here then return .sequence (← blockItems node here cs.length)
    else if here < least then return .empty
    else content node least leastItem true

/-- The grammar as one table, given the nodes of smaller depth. -/
def production (node : Nodes) : Nodes
  | .flow => flowNode node
  | .block least leastItem isCompact => blockNode node least leastItem isCompact

/-- The nodes up to a depth. -/
def nodes : Nat → Nodes
  | 0 => fun _ => throw .tooDeep
  | depth + 1 => production (nodes depth)

/-! ## Documents -/

/-- Passes the lines in front of a document that begin with a percent sign. -/
def skipDirectives : Nat → Read Unit
  | 0 => return ()
  | lines + 1 => do
    skipGap true
    if (← column) = 0 && (← rest).head? = some '%' then
      skip ((← rest).takeWhile (· != '\n')).length
      skipDirectives lines

/-- What may follow the only document: an end marker, blanks and comments. -/
def finish : Read Unit := do
  skipGap true
  checkTab
  match ← rest with
  | [] => return ()
  | '.' :: '.' :: '.' :: _ =>
    skip 3
    skipGap true
    if !(← rest).isEmpty then throw .manyDocuments
  | cs => if isMarker cs then throw .manyDocuments else throw .trailingContent

/-- The only document. -/
def document (size : Nat) : Read Yaml := do
  skipDirectives size
  let cs ← rest
  let isOpened := cs.take 3 = ['-', '-', '-'] && (← atEnd)
  if isOpened then skip 3
  else if (← atEnd) && !cs.isEmpty then throw .nodeMissing
  let value ← nodes (size + 1) (.block 0 0 (!isOpened))
  finish
  return value

/-- Line ends of all kinds as line feeds. -/
def normalizeLines : List Char → List Char
  | [] => []
  | '\r' :: '\n' :: rest => '\n' :: normalizeLines rest
  | c :: rest =>
    (if ['\r', '\u0085', '\u2028', '\u2029'].contains c then '\n' else c) :: normalizeLines rest

/-- The value that a text holds; nothing written is an empty scalar. -/
def parse (text : String) : Except Fault Yaml :=
  let cs := normalizeLines text.toList
  let cs := if cs.head? = some '\ufeff' then cs.drop 1 else cs
  if cs.all isAllowed then (document cs.length).run' ⟨cs, 0, false, []⟩ else .error .controlCharacter

end Stencil.Yaml
