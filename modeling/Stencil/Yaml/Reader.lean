import Stencil.Yaml.Scalar
/-!
# Reading YAML scalars

Steps over the characters of a text that keep track of the column, and the scalars at a place: plain, quoted,
as a block, or by a name given before.
-/

namespace Stencil.Yaml

/-- What is left to read, the column of the next character, and the values that have names. -/
structure Cursor where
  rest : List Char
  column : Nat
  /-- Whether a tab indents one of the lines that were passed last. -/
  isTabbed : Bool := false
  anchors : List (String × Yaml) := []

/-- A step of reading. -/
abbrev Read (α : Type) := StateT Cursor (Except Fault) α

namespace Read

/-- Takes one character. -/
def step (cur : Cursor) : Cursor :=
  match cur.rest with
  | [] => cur
  | '\n' :: rest => { cur with rest := rest, column := 0, isTabbed := false }
  | _ :: rest => { cur with rest := rest, column := cur.column + 1, isTabbed := false }

/-- Takes characters. -/
def forward : Nat → Cursor → Cursor
  | 0, cur => cur
  | count + 1, cur => forward count (step cur)

/-- Takes characters. -/
def skip (count : Nat) : Read Unit := modify (forward count)

/-- The characters that are left. -/
def rest : Read (List Char) := return (← get).rest

/-- The column of the next character. -/
def column : Read Nat := return (← get).column

/-- Passes the blanks that are next. -/
def skipBlanks : Read Unit := do skip ((← rest).takeWhile isBlank).length

/-- How many characters of blanks, line ends and comments are next, and whether a tab indents one of their lines.
A comment begins after a blank or at the start of a line. -/
def gapLength (afterBlank inComment indents : Bool) : List Char → Nat × Bool
  | '\n' :: rest => let (n, t) := gapLength true false true rest; (n + 1, t)
  | c :: rest =>
    if inComment then let (n, t) := gapLength true true false rest; (n + 1, t)
    else if isBlank c then let (n, t) := gapLength true false indents rest; (n + 1, t || (indents && c == '\t'))
    else if c == '#' && afterBlank then let (n, t) := gapLength true true false rest; (n + 1, t)
    else (0, false)
  | [] => (0, false)

/-- Passes blanks, line ends and comments; `afterBlank` says whether a comment may begin at once. -/
def skipGap (afterBlank : Bool) : Read Unit := do
  let cur ← get
  let (count, tabbed) := gapLength (afterBlank || cur.column = 0) false (cur.column = 0) cur.rest
  skip count
  if 0 < count then modify fun cur => { cur with isTabbed := tabbed }

/-- Whether the characters are a marker between documents. -/
def isMarker : List Char → Bool
  | '-' :: '-' :: '-' :: rest => endsToken rest
  | '.' :: '.' :: '.' :: rest => endsToken rest
  | _ => false

/-- Whether the document ends here. -/
def atEnd : Read Bool := do
  let cur ← get
  return cur.rest.isEmpty || (cur.column = 0 && isMarker cur.rest)

/-- Whether a key stands at the start of the characters, with its colon on the same line. -/
def isKey (inFlow : Bool) (cs : List Char) : Bool :=
  let afterKey := match cs with
    | '"' :: more => (doubleQuoted? more).map fun (q : Quote) => (more.take q.length, more.drop q.length)
    | '\'' :: more => (singleQuoted? more).map fun (q : Quote) => (more.take q.length, more.drop q.length)
    | _ => some (plainLine inFlow cs, cs.drop (plainLine inFlow cs).length)
  match afterKey with
  | none => false
  | some (key, more) =>
    match more.dropWhile isBlank with
    | ':' :: tail => !key.contains '\n' && endsKey inFlow tail
    | _ => false

/-- Characters that no plain text begins with. -/
def reservedStarts : List Char :=
  [',', '[', ']', '\x7b', '\x7d', '#', '&', '*', '!', '|', '>', '\'', '"', '%', '@', '`']

/-- Whether a plain text begins with the characters. -/
def startsPlain (inFlow : Bool) : List Char → Bool
  | [] => false
  | c :: rest =>
    if c == '-' || c == '?' || c == ':' then
      !endsToken rest && !(inFlow && (rest.head?).any isFlowIndicator)
    else !reservedStarts.contains c

/-! ## Scalars -/

/-- A quoted text. -/
def quoted : Read Yaml := do
  match ← rest with
  | '"' :: more =>
    match doubleQuoted? more with
    | some q =>
      skip (q.length + 1)
      let hasBreak := (more.take q.length).contains '\n'
      return .scalar (String.ofList (if hasBreak then foldLines q.text else q.text)) false
    | none => throw .unterminatedQuote
  | '\'' :: more =>
    match singleQuoted? more with
    | some q =>
      skip (q.length + 1)
      return .scalar (String.ofList (foldLines q.text)) false
    | none => throw .unterminatedQuote
  | _ => throw .unterminatedQuote

/-- Further lines of a plain text, as long as they are indented far enough. -/
def plainLines (inFlow : Bool) (least : Nat) : Nat → Read (List Char)
  | 0 => return []
  | lines + 1 => do
    let cur ← get
    let (breaks, length) := breakLength cur.rest
    let next := forward length cur
    let isOver := breaks = 0 || next.rest.isEmpty || next.column < least || next.rest.head? = some '#' ||
      (next.column = 0 && isMarker next.rest)
    if isOver || (inFlow && (next.rest.head?).any isFlowIndicator) then return []
    else
      let line := plainLine inFlow next.rest
      if line.isEmpty then return []
      else if !inFlow && isKey false next.rest then throw .misplacedKey
      else
        set (forward line.length next)
        return folded breaks ++ dropBlanksRight line ++ (← plainLines inFlow least lines)

/-- A plain text of one line or several. -/
def plain (inFlow : Bool) (least : Nat) : Read Yaml := do
  let cs ← rest
  if startsPlain inFlow cs then
    let line := plainLine inFlow cs
    skip line.length
    let more ← plainLines inFlow least cs.length
    return .scalar (String.ofList (dropBlanksRight line ++ more)) true
  else
    match cs with
    | c :: _ => throw (.unexpectedCharacter c)
    | [] => throw .colonMissing

/-- The marks after the sign of a block. -/
def blockMarks (marks : List Char) : Option (Chomp × Option Nat) :=
  marks.foldlM (fun (found : Chomp × Option Nat) c =>
    if c = '-' then some (.strip, found.2)
    else if c = '+' then some (.keep, found.2)
    else if '1' ≤ c ∧ c ≤ '9' then some (found.1, some (c.toNat - 48))
    else none) (Chomp.clip, none)

/-- A block of lines, whose sign comes next. -/
def blockScalar (least : Nat) : Read Yaml := do
  match ← rest with
  | sign :: more =>
    let header := more.takeWhile (· != '\n')
    let marks := header.takeWhile fun c => !isBlank c && c != '#'
    match blockMarks marks with
    | none => throw (.unexpectedCharacter sign)
    | some (chomp, indicated) =>
      let lines := splitLines (more.drop (header.length + 1))
      let firstIndent := ((lines.find? fun line => !isEmptyLine line).map indentOf).getD least
      let indent := match indicated with
        | some n => least - 1 + n
        | none => max firstIndent least
      let taken := blockLines indent lines
      let length := (taken.map fun line => line.length + 1).foldl (· + ·) 0
      skip (1 + header.length + length)
      let taken := if taken.length = lines.length then taken.dropLast ++ (taken.getLast?.toList.filter (!·.isEmpty))
        else taken
      let text := blockText (sign == '>') chomp (taken.map (·.drop indent))
      return .scalar (String.ofList text) false
  | [] => throw .colonMissing

/-- The name after an ampersand, an asterisk or an exclamation mark. -/
def propertyName : Read String := do
  skip 1
  let name := (← rest).takeWhile fun c => !isBlank c && c != '\n' && !isFlowIndicator c
  skip name.length
  return String.ofList name

/-- The value that an asterisk refers to by its name. -/
def anchored : Read Yaml := do
  let name ← propertyName
  match (← get).anchors.find? fun entry => entry.1 = name with
  | some entry => return entry.2
  | none => throw (.unknownAlias name)

/-- Gives a value a name. -/
def remember (name : String) (value : Yaml) : Read Unit :=
  modify fun cur => { cur with anchors := (name, value) :: cur.anchors }

end Read

end Stencil.Yaml
