/-!
# YAML values

Scalars keep their text and whether they were written plainly; what a scalar means depends on who asks.
-/

namespace Stencil

/-- A YAML value. -/
inductive Yaml where
  /-- A text; `isPlain` says that it was written without quotes. -/
  | scalar (text : String) (isPlain : Bool)
  /-- A value with a tag of its own. -/
  | tagged (tag : String) (inner : Yaml)
  | sequence (items : List Yaml)
  | mapping (entries : List (Yaml × Yaml))
deriving Repr

namespace Yaml

/-- Why a text is no YAML document, or not the one wanted. -/
inductive Fault where
  | controlCharacter
  | nodeMissing
  | unexpectedCharacter (c : Char)
  | unterminatedQuote
  | invalidEscape
  | unterminatedFlow
  | misplacedKey
  | colonMissing
  | badIndentation
  | tabIndentation
  | unknownAlias (name : String)
  | trailingContent
  | manyDocuments
  | tooDeep
  | invalidType (found expected : String)
  | unknownVariant (name allowed : String)
  | duplicateField (name : String)
deriving DecidableEq, Repr

/-- The wording of a fault. -/
def Fault.message : Fault → String
  | .controlCharacter => "control characters are not allowed"
  | .nodeMissing => "did not find expected node content while parsing a block node"
  | .unexpectedCharacter c => "found character that cannot start any token: " ++ c.toString
  | .unterminatedQuote => "found unexpected end of stream while scanning a quoted scalar"
  | .invalidEscape => "found unknown escape character while parsing a quoted scalar"
  | .unterminatedFlow => "did not find expected ',' or closing bracket while parsing a flow collection"
  | .misplacedKey => "mapping values are not allowed in this context"
  | .colonMissing => "could not find expected ':'"
  | .badIndentation => "did not find expected key while parsing a block mapping"
  | .tabIndentation => "found character that cannot start any token: a tab"
  | .unknownAlias name => "unknown anchor: " ++ name
  | .trailingContent => "did not find expected <document start>"
  | .manyDocuments => "deserializing from YAML containing more than one document is not supported"
  | .tooDeep => "recursion limit exceeded"
  | .invalidType found expected => "invalid type: " ++ found ++ ", expected " ++ expected
  | .unknownVariant name allowed => "unknown variant `" ++ name ++ "`, expected " ++ allowed
  | .duplicateField name => "duplicate field `" ++ name ++ "`"

/-- The scalar that stands where nothing is written. -/
def empty : Yaml := .scalar "" true

/-- What a value is, in the words of a message. -/
def describe : Yaml → String
  | .scalar text _ => "string \"" ++ text ++ "\""
  | .tagged _ _ => "enum"
  | .sequence _ => "sequence"
  | .mapping _ => "map"

end Yaml

end Stencil
