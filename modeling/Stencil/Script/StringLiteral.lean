import Stencil.Text.CharClass
/-!
# String literals

What the characters between the quotes of a string literal stand for. `Escape.read?` gives the meaning of a
backslash and what follows it, and `StringBody.read` goes on to the closing quote.

An escape of half a surrogate pair stands for no character; it is kept in the value as it is written.
-/

namespace Stencil.Script

/-! ## Hexadecimal digits -/

/-- The value of a hexadecimal digit. -/
def hexValue? (c : Char) : Option Nat :=
  if c.isDigit then some (c.toNat - 48)
  else if 'a' ≤ c ∧ c ≤ 'f' then some (c.toNat - 87)
  else if 'A' ≤ c ∧ c ≤ 'F' then some (c.toNat - 55)
  else none

/-- The number that hexadecimal digits write; none if there is another character among them. -/
def hexNumber? (digits : List Char) : Option Nat :=
  digits.foldl (fun n c => do return (← n) * 16 + (← hexValue? c)) (some 0)

/-! ## Escapes -/

/-- The meaning of an escape. -/
structure Escape where
  /-- The characters it stands for: none for a line continuation. -/
  value : List Char
  /-- How many characters follow the backslash. -/
  length : Nat
  /-- Whether it is written with octal digits, which strict code refuses. -/
  isOctal : Bool := false
deriving DecidableEq, Repr

namespace Escape

/-- A code point written in braces or with four digits: its value and the number of characters. -/
def codePoint? : List Char → Option (Nat × Nat)
  | '\x7b' :: rest =>
    let digits := rest.takeWhile (· != '\x7d')
    if digits.isEmpty ∨ digits.length = rest.length then none
    else (hexNumber? digits).bind fun n => if n ≤ 0x10FFFF then some (n, digits.length + 2) else none
  | a :: b :: c :: d :: _ => (hexNumber? [a, b, c, d]).map fun n => (n, 4)
  | _ => none

/-- Whether a code point is half of a surrogate pair. -/
def isSurrogate (n : Nat) : Bool := 0xD800 ≤ n && n ≤ 0xDFFF

/-- An octal digit. -/
def isOctalDigit (c : Char) : Bool := '0' ≤ c && c ≤ '7'

/-- The octal digits of an escape: three at most, and a number below 256. -/
def octalDigits : List Char → List Char
  | a :: b :: c :: _ =>
    if isOctalDigit b then if isOctalDigit c && a ≤ '3' then [a, b, c] else [a, b] else [a]
  | [a, b] => if isOctalDigit b then [a, b] else [a]
  | digits => digits

/-- The escape that starts with an octal digit. `\0` alone is no octal escape. -/
def octal (cs : List Char) : Escape :=
  let digits := octalDigits cs
  let value := digits.foldl (fun n c => n * 8 + (c.toNat - 48)) 0
  let alone := digits = ['0'] ∧ ¬ ((cs[1]?).any Char.isDigit)
  ⟨[Char.ofNat value], digits.length, ¬ alone⟩

/-- Reads what follows a backslash. -/
def read? : List Char → Option Escape
  | [] => none
  | 'n' :: _ => some ⟨['\n'], 1, false⟩
  | 'r' :: _ => some ⟨['\r'], 1, false⟩
  | 't' :: _ => some ⟨['\t'], 1, false⟩
  | 'b' :: _ => some ⟨['\x08'], 1, false⟩
  | 'v' :: _ => some ⟨['\x0b'], 1, false⟩
  | 'f' :: _ => some ⟨['\x0c'], 1, false⟩
  | '\r' :: '\n' :: _ => some ⟨[], 2, false⟩
  | 'x' :: a :: b :: _ => (hexNumber? [a, b]).map fun n => ⟨[Char.ofNat n], 3, false⟩
  | 'x' :: _ => none
  | 'u' :: rest =>
    (codePoint? rest).map fun (n, length) =>
      if isSurrogate n then ⟨'\\' :: 'u' :: rest.take length, length + 1, false⟩
      else ⟨[Char.ofNat n], length + 1, false⟩
  | c :: rest =>
    if Text.isLineEnd c then some ⟨[], 1, false⟩
    else if isOctalDigit c then some (octal (c :: rest))
    else some ⟨[c], 1, false⟩

end Escape

/-! ## Bodies -/

/-- How a string literal ends. -/
inductive Ending where
  /-- With its quote. -/
  | closed
  /-- With a line or with the text. -/
  | open
  /-- At a backslash that begins no escape. -/
  | malformed
deriving DecidableEq, Repr

/-- The characters of a string literal after its opening quote. -/
structure StringBody where
  /-- What it stands for. -/
  value : List Char
  /-- How many characters it takes, the closing quote included. -/
  length : Nat
  ending : Ending
  hasOctal : Bool := false
deriving DecidableEq, Repr

namespace StringBody

/-- Puts an escape or a plain character in front. -/
def prepend (value : List Char) (length : Nat) (isOctal : Bool) (body : StringBody) : StringBody :=
  ⟨value ++ body.value, length + body.length, body.ending, isOctal || body.hasOctal⟩

/-- Reads on to the closing quote. -/
def read (quote : Char) : List Char → StringBody
  | [] => ⟨[], 0, .open, false⟩
  | c :: rest =>
    if c = quote then ⟨[], 1, .closed, false⟩
    else if c = '\n' ∨ c = '\r' then ⟨[], 0, .open, false⟩
    else if c = '\\' then
      match Escape.read? rest with
      | some e => prepend e.value (e.length + 1) e.isOctal (read quote (rest.drop e.length))
      | none => ⟨[], 1, .malformed, false⟩
    else prepend [c] 1 false (read quote rest)
termination_by cs => cs.length
decreasing_by all_goals (simp [List.length_drop]; try omega)

end StringBody

/-- The value of the text of a whole string literal, quotes included. -/
def stringValue? : List Char → Option (List Char)
  | [] => none
  | quote :: rest =>
    let body := StringBody.read quote rest
    if (quote = '\'' ∨ quote = '"') ∧ body.ending = .closed ∧ body.length = rest.length then some body.value
    else none

end Stencil.Script
