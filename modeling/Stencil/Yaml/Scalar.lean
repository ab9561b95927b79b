import Stencil.Yaml.Value
/-!
# YAML scalars

The three ways to write a text: plainly, between quotes, and as a block of lines. Lines of plain and quoted
texts are folded: one line break becomes a space, and of several all but the first remain.
-/

namespace Stencil.Yaml

/-- The characters that a document may hold. -/
def isAllowed (c : Char) : Bool :=
  let n := c.toNat
  n == 0x09 || n == 0x0A || n == 0x0D || (0x20 ≤ n && n ≤ 0x7E) || n == 0x85 ||
    (0xA0 ≤ n && n != 0xFEFF && n != 0xFFFE && n != 0xFFFF)

/-- A blank within a line. -/
def isBlank (c : Char) : Bool := c == ' ' || c == '\t'

/-- Whether a place is followed by a blank, a line end or nothing. -/
def endsToken : List Char → Bool
  | [] => true
  | c :: _ => isBlank c || c == '\n'

/-- Whether a place is followed by what separates the items of a flow collection. -/
def isFlowIndicator (c : Char) : Bool := c == ',' || c == '[' || c == ']' || c == '\x7b' || c == '\x7d'

/-- Whether the colon at a place ends a key. -/
def endsKey (inFlow : Bool) (afterColon : List Char) : Bool :=
  endsToken afterColon || (inFlow && (afterColon.head?).any isFlowIndicator)

/-- The text without the blanks at its end. -/
def dropBlanksRight (cs : List Char) : List Char := (cs.reverse.dropWhile isBlank).reverse

/-- What line breaks between two lines of a folded text become. -/
def folded (breaks : Nat) : List Char := if breaks ≤ 1 then [' '] else List.replicate (breaks - 1) '\n'

/-! ## Plain text -/

/-- The characters of a plain text on one line. -/
def plainLine (inFlow : Bool) : List Char → List Char
  | [] => []
  | '\n' :: _ => []
  | ':' :: rest => if endsKey inFlow rest then [] else ':' :: plainLine inFlow rest
  | ' ' :: '#' :: _ => []
  | '\t' :: '#' :: _ => []
  | c :: rest => if inFlow && isFlowIndicator c then [] else c :: plainLine inFlow rest

/-! ## Quotes -/

/-- A text that was read, and how many characters it took. -/
structure Quote where
  text : List Char
  length : Nat

/-- Puts characters in front. -/
def Quote.prepend (cs : List Char) (length : Nat) (q : Quote) : Quote := ⟨cs ++ q.text, length + q.length⟩

/-- How many line breaks and other characters stand before the next text. -/
def breakLength : List Char → Nat × Nat
  | '\n' :: rest => let (breaks, length) := breakLength rest; (breaks + 1, length + 1)
  | ' ' :: rest => let (breaks, length) := breakLength rest; (breaks, length + 1)
  | '\t' :: rest => let (breaks, length) := breakLength rest; (breaks, length + 1)
  | _ => (0, 0)

/-- Reads a text up to its single quote; two quotes stand for one. -/
def singleQuoted? : List Char → Option Quote
  | [] => none
  | '\'' :: '\'' :: rest => (singleQuoted? rest).map (·.prepend ['\''] 2)
  | '\'' :: _ => some ⟨[], 1⟩
  | c :: rest => (singleQuoted? rest).map (·.prepend [c] 1)

/-- The character that one letter after a backslash stands for. -/
def simpleEscape? (c : Char) : Option Char :=
  (([('0', '\x00'), ('a', '\x07'), ('b', '\x08'), ('t', '\t'), ('\t', '\t'), ('n', '\n'), ('v', '\x0b'),
    ('f', '\x0c'), ('r', '\r'), ('e', '\x1b'), (' ', ' '), ('"', '"'), ('/', '/'), ('\\', '\\'), ('N', '\u0085'),
    ('_', '\u00a0'), ('L', '\u2028'), ('P', '\u2029')]).find? (·.1 = c)).map (·.2)

/-- How many hexadecimal digits follow a letter after a backslash. -/
def escapeDigits? (c : Char) : Option Nat :=
  if c = 'x' then some 2 else if c = 'u' then some 4 else if c = 'U' then some 8 else none

/-- The value of hexadecimal digits. -/
def hexNumber? (digits : List Char) : Option Nat :=
  digits.foldl (fun n c => do
    let n ← n
    if c.isDigit then return n * 16 + (c.toNat - 48)
    else if 'a' ≤ c ∧ c ≤ 'f' then return n * 16 + (c.toNat - 87)
    else if 'A' ≤ c ∧ c ≤ 'F' then return n * 16 + (c.toNat - 55)
    else none) (some 0)

/-- The character of an escape by its code, and how many characters follow the letter. -/
def codeEscape? (c : Char) (rest : List Char) : Option (Char × Nat) := do
  let count ← escapeDigits? c
  let digits := rest.take count
  if digits.length < count then none
  else
    let n ← hexNumber? digits
    if n.isValidChar then some (Char.ofNat n, count) else none

/-- Reads a text up to its double quote. -/
def doubleQuoted? : List Char → Option Quote
  | [] => none
  | '"' :: _ => some ⟨[], 1⟩
  | '\\' :: '\n' :: rest =>
    let blanks := (rest.takeWhile isBlank).length
    (doubleQuoted? (rest.drop blanks)).map (·.prepend [] (2 + blanks))
  | '\\' :: c :: rest =>
    match simpleEscape? c with
    | some d => (doubleQuoted? rest).map (·.prepend [d] 2)
    | none =>
      match codeEscape? c rest with
      | some (d, length) => (doubleQuoted? (rest.drop length)).map (·.prepend [d] (2 + length))
      | none => none
  | c :: rest => (doubleQuoted? rest).map (·.prepend [c] 1)
termination_by cs => cs.length
decreasing_by all_goals (simp [List.length_drop]; try omega)

/-- Folds the lines of a quoted text. -/
def foldLines : List Char → List Char
  | [] => []
  | c :: rest =>
    if isBlank c || c == '\n' then
      let (breaks, length) := breakLength (c :: rest)
      if breaks = 0 then c :: foldLines rest
      else folded breaks ++ foldLines (rest.drop (length - 1))
    else c :: foldLines rest
termination_by cs => cs.length
decreasing_by all_goals (simp [List.length_drop]; try omega)

/-! ## Blocks -/

/-- What becomes of the line breaks at the end of a block. -/
inductive Chomp where
  /-- One stays. -/
  | clip
  /-- None stays. -/
  | strip
  /-- All stay. -/
  | keep
deriving DecidableEq

/-- The lines of a text. -/
def splitLines : List Char → List (List Char)
  | [] => [[]]
  | '\n' :: rest => [] :: splitLines rest
  | c :: rest =>
    match splitLines rest with
    | [] => [[c]]
    | line :: lines => (c :: line) :: lines

/-- How far a line is indented. -/
def indentOf (line : List Char) : Nat := (line.takeWhile (· == ' ')).length

/-- Whether a line holds blanks only. -/
def isEmptyLine (line : List Char) : Bool := line.all (· == ' ')

/-- The lines that belong to a block: empty ones, and those indented far enough. -/
def blockLines (indent : Nat) (lines : List (List Char)) : List (List Char) :=
  lines.takeWhile fun line => isEmptyLine line || indent ≤ indentOf line

/-- Joins lines; folded ones meet in a space unless one of them is empty or further indented. -/
def joinLines (isFolded : Bool) : List (List Char) → List Char
  | [] => []
  | [line] => line
  | line :: next :: rest =>
    let tail := joinLines isFolded (next :: rest)
    if isFolded && !line.isEmpty && !next.isEmpty && !(line.head?).any isBlank && !(next.head?).any isBlank then
      line ++ ' ' :: tail
    else if isFolded && !line.isEmpty && next.isEmpty then line ++ tail
    else line ++ '\n' :: tail

/-- The text of a block of lines. -/
def blockText (isFolded : Bool) (chomp : Chomp) (lines : List (List Char)) : List Char :=
  let content := (lines.reverse.dropWhile List.isEmpty).reverse
  let empties := lines.length - content.length
  let body := joinLines isFolded content
  match chomp with
  | .strip => body
  | .clip => if content.isEmpty then [] else body ++ ['\n']
  | .keep => if content.isEmpty then List.replicate empties '\n' else body ++ List.replicate (empties + 1) '\n'

end Stencil.Yaml
