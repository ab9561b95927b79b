import Stencil.Script.Token
import Stencil.Text.CharClass
/-!
# Numerals

How far a number reaches in the text. The scanner decides the extent and whether it is well formed; what the
number stands for is told by its text.
-/

namespace Stencil.Script.Scan

/-- A digit of the radix. -/
def isDigitOf (radix : Nat) (c : Char) : Bool :=
  if c.isDigit then c.toNat - 48 < radix
  else radix = 16 && (('a' ≤ c && c ≤ 'f') || ('A' ≤ c && c ≤ 'F'))

/-- The longest run of digits and separators. -/
def digitRun (radix : Nat) (cs : List Char) : List Char :=
  cs.takeWhile fun c => isDigitOf radix c || c == '_'

/-- Separators stand alone between two digits. -/
def separated : List Char → Bool
  | [] => true
  | ['_'] => false
  | '_' :: '_' :: _ => false
  | _ :: rest => separated rest

/-- A run that begins with a digit and whose separators stand well. -/
def wellFormed (run : List Char) : Bool := run.head? != some '_' && separated run

/-- What a scan of a number found. -/
structure Extent where
  length : Nat
  isBig : Bool := false
  /-- Written with a leading zero, which strict code refuses. -/
  isLegacy : Bool := false
  isValid : Bool := true

/-- The radix that a letter after a leading zero announces. -/
def radixOf? (c : Char) : Option Nat :=
  if c = 'x' ∨ c = 'X' then some 16
  else if c = 'o' ∨ c = 'O' then some 8
  else if c = 'b' ∨ c = 'B' then some 2
  else none

/-- Digits after a radix mark. -/
def radixExtent (radix : Nat) (cs : List Char) : Extent :=
  let run := digitRun radix cs
  let big := (cs.drop run.length).head? = some 'n'
  { length := 2 + run.length + (if big then 1 else 0), isBig := big,
    isValid := !run.isEmpty && wellFormed run }

/-- The fraction after a whole part, its point included: length and validity. -/
def fractionExtent : List Char → Nat × Bool
  | '.' :: rest =>
    let run := digitRun 10 rest
    (1 + run.length, wellFormed run)
  | _ => (0, true)

/-- The exponent, its mark included: length and validity. -/
def exponentExtent : List Char → Nat × Bool
  | c :: rest =>
    if c = 'e' ∨ c = 'E' then
      let sign := if rest.head? = some '+' ∨ rest.head? = some '-' then 1 else 0
      let run := digitRun 10 (rest.drop sign)
      (1 + sign + run.length, !run.isEmpty && wellFormed run)
    else (0, true)
  | [] => (0, true)

/-- A whole part with fraction and exponent. -/
def decimalExtent (cs : List Char) : Extent :=
  let whole := digitRun 10 cs
  let rest := cs.drop whole.length
  if rest.head? = some 'n' ∧ ¬ whole.isEmpty then
    { length := whole.length + 1, isBig := true, isValid := wellFormed whole }
  else
    let (fraction, fractionOk) := fractionExtent rest
    let (exponent, exponentOk) := exponentExtent (rest.drop fraction)
    { length := whole.length + fraction + exponent, isValid := wellFormed whole && fractionOk && exponentOk }

/-- Digits after a leading zero: octal unless one of them is eight or nine. -/
def legacyExtent (cs : List Char) : Extent :=
  let whole := digitRun 10 cs
  if whole.all (fun c => '0' ≤ c && c ≤ '7') then { length := whole.length, isLegacy := true }
  else if whole.contains '_' then { length := whole.length, isLegacy := true, isValid := false }
  else
    let (fraction, fractionOk) := fractionExtent (cs.drop whole.length)
    let (exponent, exponentOk) := exponentExtent (cs.drop (whole.length + fraction))
    { length := whole.length + fraction + exponent, isLegacy := true, isValid := fractionOk && exponentOk }

/-- The extent of the number at the start of the characters. -/
def numberExtent : List Char → Extent
  | '0' :: c :: rest =>
    match radixOf? c with
    | some radix => radixExtent radix rest
    | none => if c.isDigit ∨ c = '_' then legacyExtent ('0' :: c :: rest) else decimalExtent ('0' :: c :: rest)
  | cs => decimalExtent cs

/-- The number token at a place, with the flaws that do not spoil it. -/
def number (strict : Bool) (cur : Cursor) : Token × Cursor × List Flaw :=
  let extent := numberExtent cur.rest
  let stop := cur.forward extent.length
  let raw := String.ofList (cur.slice stop)
  let follows := (stop.rest.head?).any fun c => Text.isIdentifierStart c || c == '\\'
  if !extent.isValid then (.broken ⟨cur.offset, .malformedNumber⟩, stop, [])
  else if follows then (.broken ⟨stop.offset, .identifierAfterNumber⟩, stop, [])
  else
    let flaws := if extent.isLegacy ∧ strict then [⟨cur.offset, .legacyOctal⟩] else []
    (if extent.isBig then .bigInt raw else .number raw, stop, flaws)

end Stencil.Script.Scan
