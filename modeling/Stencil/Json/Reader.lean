import Stencil.Json.Value
/-!
# Reading JSON

The reader walks over the characters and counts lines and bytes, so that an error can say where it stands:
either at the bytes read so far, or at the byte that comes next.
-/

namespace Stencil.Json

/-- What is wrong with a JSON text, or with the value in it. -/
inductive Cause where
  | endInList
  | endInObject
  | endInString
  | endInValue
  | expectedColon
  | expectedListEnd
  | expectedObjectEnd
  | expectedIdent
  | expectedValue
  | invalidEscape
  | invalidNumber
  | numberOutOfRange
  | invalidCodePoint
  | controlCharacter
  | keyNotString
  | loneSurrogate
  | trailingComma
  | trailingCharacters
  | unexpectedEscapeEnd
  | invalidType (found expected : String)
  | unknownVariant (name : String) (allowed : String)
  | duplicateField (name : String)
deriving DecidableEq, Repr

/-- The wording of a cause. -/
def Cause.message : Cause → String
  | .endInList => "EOF while parsing a list"
  | .endInObject => "EOF while parsing an object"
  | .endInString => "EOF while parsing a string"
  | .endInValue => "EOF while parsing a value"
  | .expectedColon => "expected `:`"
  | .expectedListEnd => "expected `,` or `]`"
  | .expectedObjectEnd => "expected `,` or `\x7d`"
  | .expectedIdent => "expected ident"
  | .expectedValue => "expected value"
  | .invalidEscape => "invalid escape"
  | .invalidNumber => "invalid number"
  | .numberOutOfRange => "number out of range"
  | .invalidCodePoint => "invalid unicode code point"
  | .controlCharacter => "control character (\\u0000-\\u001F) found while parsing a string"
  | .keyNotString => "key must be a string"
  | .loneSurrogate => "lone leading surrogate in hex escape"
  | .trailingComma => "trailing comma"
  | .trailingCharacters => "trailing characters"
  | .unexpectedEscapeEnd => "unexpected end of hex escape"
  | .invalidType found expected => "invalid type: " ++ found ++ ", expected " ++ expected
  | .unknownVariant name allowed => "unknown variant `" ++ name ++ "`, expected " ++ allowed
  | .duplicateField name => "duplicate field `" ++ name ++ "`"

/-- A cause and the place where it showed. -/
structure Fault where
  cause : Cause
  line : Nat
  column : Nat
deriving DecidableEq, Repr

/-- The cause with its place. -/
def Fault.message (f : Fault) : String :=
  f.cause.message ++ " at line " ++ toString f.line ++ " column " ++ toString f.column

/-- What is left to read, and how much has been read. -/
structure Cursor where
  rest : List Char
  line : Nat := 1
  /-- Bytes read on the current line. -/
  column : Nat := 0

/-- The start of a text. -/
def Cursor.start (text : String) : Cursor := { rest := text.toList }

/-- A step of reading. -/
abbrev Read (α : Type) := StateT Cursor (Except Fault) α

namespace Read

/-- The next character. -/
def peek : Read (Option Char) := do return (← get).rest.head?

/-- Takes the next character. -/
def skip : Read Unit :=
  modify fun cur =>
    match cur.rest with
    | [] => cur
    | c :: rest =>
      if c = '\n' then ⟨rest, cur.line + 1, 0⟩ else ⟨rest, cur.line, cur.column + c.utf8Size⟩

/-- Fails at the bytes read so far. -/
def fail {α : Type} (cause : Cause) : Read α := do
  let cur ← get
  throw ⟨cause, cur.line, cur.column⟩

/-- Fails at the byte that comes next, or at the end. -/
def failNext {α : Type} (cause : Cause) : Read α := do
  let cur ← get
  throw ⟨cause, cur.line, if cur.rest.isEmpty then cur.column else cur.column + 1⟩

/-- The cursor after the blanks in front of it. -/
def skipBlanks : Cursor → Cursor
  | ⟨' ' :: rest, line, column⟩ => skipBlanks ⟨rest, line, column + 1⟩
  | ⟨'\t' :: rest, line, column⟩ => skipBlanks ⟨rest, line, column + 1⟩
  | ⟨'\r' :: rest, line, column⟩ => skipBlanks ⟨rest, line, column + 1⟩
  | ⟨'\n' :: rest, line, _⟩ => skipBlanks ⟨rest, line + 1, 0⟩
  | cur => cur
termination_by cur => cur.rest.length

/-- Skips blanks and shows the next character. -/
def next : Read (Option Char) := do
  modify skipBlanks
  peek

/-! ## Scalars -/

/-- Takes the given letters, of a literal whose first letter was taken. -/
def letters : List Char → Read Unit
  | [] => return
  | c :: rest => do
    match ← peek with
    | some d =>
      skip
      if d = c then letters rest else fail .expectedIdent
    | none => fail .endInValue

/-- The value of a hexadecimal digit. -/
def hexValue? (c : Char) : Option Nat :=
  if c.isDigit then some (c.toNat - 48)
  else if 'a' ≤ c ∧ c ≤ 'f' then some (c.toNat - 87)
  else if 'A' ≤ c ∧ c ≤ 'F' then some (c.toNat - 55)
  else none

/-- Reads hexadecimal digits. -/
def hexDigits : Nat → Nat → Read Nat
  | 0, value => return value
  | count + 1, value => do
    match ← peek with
    | none => fail .endInString
    | some c =>
      skip
      match hexValue? c with
      | some d => hexDigits count (value * 16 + d)
      | none => fail .invalidEscape

/-- Reads the rest of a unicode escape; two surrogates make one character. -/
def unicodeEscape : Read Char := do
  let high ← hexDigits 4 0
  if 0xDC00 ≤ high ∧ high ≤ 0xDFFF then fail .loneSurrogate
  else if 0xD800 ≤ high ∧ high ≤ 0xDBFF then
    if (← peek) != some '\\' then skip; fail .unexpectedEscapeEnd
    skip
    if (← peek) != some 'u' then skip; fail .unexpectedEscapeEnd
    skip
    let low ← hexDigits 4 0
    if low < 0xDC00 ∨ 0xDFFF < low then fail .loneSurrogate
    else return Char.ofNat (0x10000 + (high - 0xD800) * 0x400 + (low - 0xDC00))
  else return Char.ofNat high

/-- Reads the character after a backslash. -/
def escape : Read Char := do
  match ← peek with
  | none => fail .endInString
  | some c =>
    skip
    match c with
    | '"' => return '"'
    | '\\' => return '\\'
    | '/' => return '/'
    | 'b' => return '\x08'
    | 'f' => return '\x0c'
    | 'n' => return '\n'
    | 'r' => return '\r'
    | 't' => return '\t'
    | 'u' => unicodeEscape
    | _ => fail .invalidEscape

/-- Reads the characters of a string up to its closing quote. -/
def stringBody : Nat → List Char → Read String
  | 0, _ => fail .endInString
  | steps + 1, seen => do
    match ← peek with
    | none => fail .endInString
    | some '"' =>
      skip
      return String.ofList seen.reverse
    | some '\\' =>
      skip
      let c ← escape
      stringBody steps (c :: seen)
    | some c =>
      if c.toNat < 0x20 then
        skip
        fail .controlCharacter
      else
        skip
        stringBody steps (c :: seen)

/-- Reads a string whose opening quote comes next. -/
def string : Read String := do
  skip
  stringBody ((← get).rest.length + 1) []

/-- Reads decimal digits. -/
def digits : Read (List Char) := do
  let cur ← get
  let ds := cur.rest.takeWhile Char.isDigit
  set { cur with rest := cur.rest.drop ds.length, column := cur.column + ds.length }
  return ds

/-- The number that decimal digits write. -/
def ofDigits (ds : List Char) : Nat := ds.foldl (fun n c => n * 10 + (c.toNat - 48)) 0

/-- Reads one digit at least. -/
def someDigits : Read (List Char) := do
  let ds ← digits
  if ds.isEmpty then
    match ← peek with
    | none => failNext .endInValue
    | some _ => failNext .invalidNumber
  else return ds

/-- The exponent part, if there is one. -/
def exponentPart : Read (Option Int) := do
  match ← peek with
  | some c =>
    if c = 'e' ∨ c = 'E' then
      skip
      let sign ← peek
      if sign = some '+' ∨ sign = some '-' then skip
      let ds ← someDigits
      let n : Int := ofDigits ds
      return some (if sign = some '-' then -n else n)
    else return none
  | none => return none

/-- The fraction part, if there is one. -/
def fractionPart : Read (Option (List Char)) := do
  if (← peek) = some '.' then
    skip
    let ds ← someDigits
    return some ds
  else return none

/-- The parts that the text of a number has. -/
structure Numeral where
  negative : Bool
  whole : List Char
  fraction : Option (List Char)
  exponent : Option Int

/-- Adds digits to a significand while it fits 64 bits. Returns it with the number of digits added. -/
def collect : Nat → List Char → Nat × Nat
  | significand, [] => (significand, 0)
  | significand, c :: rest =>
    let grown := significand * 10 + (c.toNat - 48)
    if grown < 0x10000000000000000 then
      let (result, count) := collect grown rest
      (result, count + 1)
    else (significand, 0)

/-- The magnitude of a number: the leading digits that fit 64 bits, scaled. -/
def Numeral.magnitude (n : Numeral) : Binary64 :=
  let places := n.fraction.getD []
  let (front, counted) := collect 0 n.whole
  let (significand, added) := collect front places
  Binary64.scaled significand (n.exponent.getD 0 + (n.whole.length - counted : Nat) - added)

/-- The number that a text stands for, unless it is beyond all doubles. -/
def Numeral.number? (n : Numeral) : Option Number :=
  let size := ofDigits n.whole
  let inRange := if n.negative then 0 < size ∧ size ≤ 0x8000000000000000 else size < 0x10000000000000000
  if n.fraction.isNone ∧ n.exponent.isNone ∧ inRange then
    some (.integer (if n.negative then -(size : Int) else size))
  else match n.magnitude with
    | .infinite => none
    | magnitude => some (.float n.negative magnitude)

/-- Reads the text of a number. -/
def numeral : Read Numeral := do
  let negative := (← peek) = some '-'
  if negative then skip
  let whole ← someDigits
  if whole.head? = some '0' ∧ 1 < whole.length then
    modify fun cur => { cur with column := cur.column + 2 - whole.length }
    fail .invalidNumber
  let fraction ← fractionPart
  let exponent ← exponentPart
  return { negative, whole, fraction, exponent }

/-- Reads a number. -/
def number : Read Number := do
  match (← numeral).number? with
  | some number => return number
  | none => fail .numberOutOfRange

/-! ## Values -/

/-- The colon between a name and its value. -/
def colon : Read Unit := do
  match ← next with
  | some ':' => skip
  | some _ => failNext .expectedColon
  | none => failNext .endInObject

/-- Reads a value; `depth` bounds the nesting. -/
def value : Nat → Read Json
  | 0 => failNext .expectedValue
  | depth + 1 => do
    match ← next with
    | none => failNext .endInValue
    | some 'n' =>
      skip
      letters ['u', 'l', 'l']
      return .null
    | some 't' =>
      skip
      letters ['r', 'u', 'e']
      return .bool true
    | some 'f' =>
      skip
      letters ['a', 'l', 's', 'e']
      return .bool false
    | some '"' => return .string (← string)
    | some '[' =>
      skip
      let items ← elements depth (← get).rest.length true
      return .array items
    | some '\x7b' =>
      skip
      let members ← entries depth (← get).rest.length true
      return Json.ofMembers members
    | some c => if c = '-' ∨ c.isDigit then return .number (← number) else failNext .expectedValue
where
  /-- The items of an array up to its end. -/
  elements (depth : Nat) : Nat → Bool → Read (List Json)
    | 0, _ => failNext .endInList
    | steps + 1, first => do
      match ← next with
      | none => failNext .endInList
      | some ']' =>
        skip
        return []
      | some c =>
        if !first then
          if c != ',' then failNext .expectedListEnd
          skip
          if (← next) = some ']' then failNext .trailingComma
        let item ← value depth
        return item :: (← elements depth steps false)
  /-- The members of an object up to its end. -/
  entries (depth : Nat) : Nat → Bool → Read (List (String × Json))
    | 0, _ => failNext .endInObject
    | steps + 1, first => do
      match ← next with
      | none => failNext .endInObject
      | some '\x7d' =>
        skip
        return []
      | some c =>
        if !first then
          if c != ',' then failNext .expectedObjectEnd
          skip
          if (← next) = some '\x7d' then failNext .trailingComma
        match ← next with
        | none => failNext .endInValue
        | some '"' =>
          let name ← string
          colon
          let item ← value depth
          return (name, item) :: (← entries depth steps false)
        | some _ => failNext .keyNotString

/-! ## Passing over values -/

/-- The characters that may follow a backslash and stand for one character. -/
def escapeLetters : List Char := ['"', '\\', '/', 'b', 'f', 'n', 'r', 't']

/-- Passes over what follows a backslash. -/
def passEscape : Read Unit := do
  match ← peek with
  | none => fail .endInString
  | some c =>
    skip
    if c = 'u' then discard (hexDigits 4 0)
    else if !escapeLetters.contains c then fail .invalidEscape

/-- Passes over the characters of a string and its closing quote. -/
def passString : Nat → Read Unit
  | 0 => fail .endInString
  | steps + 1 => do
    match ← peek with
    | none => fail .endInString
    | some '"' => skip
    | some '\\' =>
      skip
      passEscape
      passString steps
    | some c =>
      skip
      if c.toNat < 0x20 then fail .controlCharacter
      passString steps

/-- Passes over a value, which has to be well formed but may hold a number beyond all doubles or half a
surrogate pair. -/
def pass : Nat → Read Unit
  | 0 => failNext .expectedValue
  | depth + 1 => do
    match ← next with
    | none => failNext .endInValue
    | some 'n' =>
      skip
      letters ['u', 'l', 'l']
    | some 't' =>
      skip
      letters ['r', 'u', 'e']
    | some 'f' =>
      skip
      letters ['a', 'l', 's', 'e']
    | some '"' =>
      skip
      passString ((← get).rest.length + 1)
    | some '[' =>
      skip
      if (← next) = some ']' then skip else elements depth (← get).rest.length
    | some '\x7b' =>
      skip
      if (← next) = some '\x7d' then skip else entries depth (← get).rest.length
    | some c => if c = '-' ∨ c.isDigit then discard numeral else failNext .expectedValue
where
  /-- The items of an array, of which there is one at least. -/
  elements (depth : Nat) : Nat → Read Unit
    | 0 => failNext .endInList
    | steps + 1 => do
      if (← next) = none then failNext .endInList
      pass depth
      match ← next with
      | none => failNext .endInList
      | some ']' => skip
      | some ',' =>
        skip
        if (← next) = none then failNext .endInValue
        elements depth steps
      | some _ => failNext .expectedListEnd
  /-- The members of an object, of which there is one at least. -/
  entries (depth : Nat) : Nat → Read Unit
    | 0 => failNext .endInObject
    | steps + 1 => do
      match ← next with
      | none => failNext .endInObject
      | some '"' =>
        skip
        passString ((← get).rest.length + 1)
        colon
        pass depth
        match ← next with
        | none => failNext .endInObject
        | some '\x7d' => skip
        | some ',' =>
          skip
          entries depth steps
        | some _ => failNext .expectedObjectEnd
      | some _ => failNext .keyNotString

/-- Nothing but blanks is left. -/
def finish : Read Unit := do
  match ← next with
  | some _ => failNext .trailingCharacters
  | none => return

end Read

/-- The value that a text holds. -/
def parse (text : String) : Except Fault Json := do
  let cur := Cursor.start text
  let (value, rest) ← (Read.value (cur.rest.length + 1)).run cur
  let _ ← Read.finish.run rest
  return value

end Stencil.Json
