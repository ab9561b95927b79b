import Stencil.Script.Fault
/-!
# Tokens

A token is scanned from a place in the text and says where the next one can be scanned. Which token a slash
begins, or a closing brace inside a template, depends on the grammar; the scanner reads them as punctuators
and the grammar asks for a regular expression or for template text when it wants one.
-/

namespace Stencil.Script

/-- A place in the text: how many characters precede it, and those that follow. -/
structure Cursor where
  offset : Nat
  rest : List Char

/-- The place `count` characters further on. -/
def Cursor.forward (cur : Cursor) (count : Nat) : Cursor :=
  ⟨cur.offset + count, cur.rest.drop count⟩

/-- The characters between two places of one text. -/
def Cursor.slice (start stop : Cursor) : List Char :=
  start.rest.take (stop.offset - start.offset)

/-- The units of a script text. -/
inductive Token where
  /-- The end of the text. -/
  | done
  /-- An identifier or keyword; `escaped` says that it was written with an escape. -/
  | word (name : String) (escaped : Bool)
  /-- The name of a private member. -/
  | privateName (name : String)
  | punctuator (text : String)
  | number (raw : String)
  | bigInt (raw : String)
  | string (value raw : String)
  /-- Characters that make no token. -/
  | broken (flaw : Flaw)
deriving DecidableEq, Repr

/-- How a token is named in a message. -/
def Token.describe : Token → String
  | .done => "<eof>"
  | .word name _ => name
  | .privateName name => "#" ++ name
  | .punctuator text => text
  | .number raw => "numeric literal (" ++ raw ++ ", " ++ raw ++ ")"
  | .bigInt raw => "bigint literal (" ++ raw ++ ", " ++ raw ++ ")"
  | .string value raw => "string literal (" ++ value ++ ", " ++ raw ++ ")"
  | .broken _ => "<lexing error>"

/-- A line comment: where it begins and what follows its marker. -/
structure Comment where
  offset : Nat
  text : String
deriving DecidableEq, Repr

/-- A token in its place. -/
structure Lexeme where
  token : Token
  /-- The place of its first character. -/
  start : Cursor
  /-- The place after its last character. -/
  stop : Cursor
  /-- Whether a line ended between it and the token before. -/
  afterLine : Bool
  /-- The line comments in front of it. -/
  comments : List Comment
  /-- Flaws that do not keep the token from being used. -/
  flaws : List Flaw

/-- The keywords that never are identifiers. -/
def keywords : List String :=
  ["break", "case", "catch", "class", "const", "continue", "debugger", "default", "delete", "do", "else",
   "export", "extends", "false", "finally", "for", "function", "if", "import", "in", "instanceof", "new",
   "null", "return", "super", "switch", "this", "throw", "true", "try", "typeof", "var", "void", "while",
   "with"]

end Stencil.Script
