import Stencil.Script.StringLiteral
/-!
# Quoted text

Two ways to write a text as a string literal: between single quotes with only the necessary escapes, and
between the quotes that need fewer escapes. Also the shortest way to write the text of a template.
-/

namespace Stencil.Script.Quoted

/-- The two hexadecimal digits of a number below 256. -/
def twoDigits (n : Nat) : List Char :=
  let digits := Nat.toDigits 16 n
  if digits.length < 2 then '0' :: digits else digits

/-- The escape of a character by its code. -/
def hexEscape (c : Char) : List Char := '\\' :: 'x' :: twoDigits c.toNat

/-! ## Single quotes -/

/-- A character between single quotes. -/
def escapeSingle (c : Char) : List Char :=
  if c = '\\' then ['\\', '\\']
  else if c = '\'' then ['\\', '\'']
  else if c = '\n' then ['\\', 'n']
  else if c = '\r' then ['\\', 'r']
  else if c = '\u2028' then ['\\', 'u', '2', '0', '2', '8']
  else if c = '\u2029' then ['\\', 'u', '2', '0', '2', '9']
  else if c < ' ' then hexEscape c
  else [c]

/-- A text between single quotes. -/
def single (value : String) : String :=
  String.ofList ('\'' :: value.toList.flatMap escapeSingle ++ ['\''])

/-! ## The shorter quotes -/

/-- Whether the characters after a backslash make it the escape of a surrogate. -/
def beginsSurrogate (rest : List Char) : Bool :=
  let digits := match rest with
    | 'u' :: '\x7b' :: more => more.take 4
    | 'u' :: more => more.take 4
    | _ => []
  match digits with
  | [d, a, b, c] =>
    (d = 'd' || d = 'D') && (hexNumber? [d, a, b, c]).any Escape.isSurrogate
  | _ => false

/-- A character between quotes, given those after it. The escape of a surrogate stands for itself. -/
def escapeAny (c : Char) (rest : List Char) : List Char :=
  if c = '\x00' then
    if (rest.head?).any Char.isDigit then hexEscape c else ['\\', '0']
  else if c = '\x08' then ['\\', 'b']
  else if c = '\x0c' then ['\\', 'f']
  else if c = '\n' then ['\\', 'n']
  else if c = '\r' then ['\\', 'r']
  else if c = '\x0b' then ['\\', 'v']
  else if c = '\t' then ['\t']
  else if c = '\\' then if beginsSurrogate rest then ['\\'] else ['\\', '\\']
  else if c < ' ' then hexEscape c
  else if c = '\u2028' then ['\\', 'u', '2', '0', '2', '8']
  else if c = '\u2029' then ['\\', 'u', '2', '0', '2', '9']
  else if c = '\ufeff' then ['\\', 'u', 'F', 'E', 'F', 'F']
  else [c]

/-- The characters of a text between the given quotes. -/
def escapeBetween (quote : Char) : List Char → List Char
  | [] => []
  | c :: rest =>
    (if c = quote then ['\\', c] else escapeAny c rest) ++ escapeBetween quote rest

/-- A text between double quotes, or between single quotes when it holds more double ones. -/
def short (value : String) : String :=
  let cs := value.toList
  let quote := if cs.count '"' > cs.count '\'' then '\'' else '"'
  String.ofList (quote :: escapeBetween quote cs ++ [quote])

/-! ## Templates -/

/-- The text that a hexadecimal escape of that value has in a template, given the character behind it. -/
def templateHex (value : Nat) (next : Option Char) : List Char :=
  if value = 0 then
    if next.any fun c => '1' ≤ c && c ≤ '9' then ['\\', 'x', '0', '0'] else ['\\', '0']
  else if 32 ≤ value ∧ value ≤ 126 then [Char.ofNat value]
  else '\\' :: 'x' :: twoDigits value

/-- A plain character in the text of a template. -/
def templateChar (c : Char) (rest : List Char) : List Char :=
  if c = '\x00' then
    if (rest.head?).any fun d => '1' ≤ d && d ≤ '9' then ['\\', 'x', '0', '0'] else ['\\', '0']
  else if c = '\x08' then ['\\', 'b']
  else if c = '\x0c' then ['\\', 'f']
  else if c = '\x0b' then ['\\', 'v']
  else if '\x7f' ≤ c ∧ c ≤ '\u00ff' then hexEscape c
  else if c = '\u2028' then ['\\', 'u', '2', '0', '2', '8']
  else if c = '\u2029' then ['\\', 'u', '2', '0', '2', '9']
  else if c = '\ufeff' then ['\\', 'u', 'F', 'E', 'F', 'F']
  else [c]

/-- Escapes that a template keeps as they are written. -/
def keptEscapes : List Char :=
  ['\\', 'r', 'v', 'b', 'f', 'u', '\r', '\n', '`', '0', '1', '2', '3', '4', '5', '6', '7']

/-- The text of a template with as few escapes as possible; `hasDollar` says that a dollar sign came before,
so that a brace must not follow it. -/
def shortTemplate (hasDollar : Bool) : List Char → List Char
  | [] => []
  | ['\\'] => ['\\']
  | '\\' :: 'x' :: rest =>
    let digits := (rest.take 2).takeWhile fun c => (hexValue? c).isSome
    let after := rest.drop digits.length
    let value := digits.foldl (fun n c => n * 16 + (hexValue? c).getD 0) 0
    templateHex value after.head? ++ after.take 1 ++ shortTemplate hasDollar (after.drop 1)
  | '\\' :: c :: rest =>
    if c = '\u2028' ∨ c = '\u2029' then shortTemplate hasDollar rest
    else if keptEscapes.contains c then '\\' :: c :: shortTemplate hasDollar rest
    else if c = '$' ∧ rest.head? = some '\x7b' then '\\' :: '$' :: shortTemplate hasDollar rest
    else if c = '\x7b' ∧ hasDollar then '\\' :: '\x7b' :: shortTemplate false rest
    else if c = 'n' then '\n' :: shortTemplate hasDollar rest
    else if c = 't' then '\t' :: shortTemplate hasDollar rest
    else templateChar c rest ++ shortTemplate (hasDollar || c = '$') rest
  | c :: rest => templateChar c rest ++ shortTemplate (hasDollar || c = '$') rest
termination_by cs => cs.length
decreasing_by all_goals (simp only [List.length_drop, List.length_cons]; omega)

end Stencil.Script.Quoted
