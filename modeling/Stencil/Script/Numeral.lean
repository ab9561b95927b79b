import Stencil.Decimal.Shortest
import Stencil.Script.Scan.Numeral
/-!
# Numbers

What the text of a number stands for, and the shortest text that stands for the same number.
-/

namespace Stencil.Script.Numeral

open Stencil.Decimal Stencil.Script.Scan

/-! ## Values -/

/-- The value of a digit in any radix up to sixteen. -/
def digitValue (c : Char) : Nat :=
  if c.isDigit then c.toNat - '0'.toNat
  else if 'a' ≤ c then c.toNat - 'a'.toNat + 10
  else c.toNat - 'A'.toNat + 10

/-- The number that digits stand for. -/
def ofDigits (radix : Nat) (digits : List Char) : Nat :=
  digits.foldl (fun n c => n * radix + digitValue c) 0

/-- The exponent after its mark. -/
def exponentValue : List Char → Int
  | [] => 0
  | _ :: '-' :: digits => -(ofDigits 10 digits : Int)
  | _ :: '+' :: digits => ofDigits 10 digits
  | _ :: digits => ofDigits 10 digits

/-- The number of a text with a whole part, a fraction and an exponent, each of which may be left out. -/
def decimalValue (cs : List Char) : Binary64 :=
  let whole := cs.takeWhile Char.isDigit
  let rest := cs.dropWhile Char.isDigit
  let (fraction, tail) := match rest with
    | '.' :: more => (more.takeWhile Char.isDigit, more.dropWhile Char.isDigit)
    | _ => ([], rest)
  Binary64.ofDecimal (ofDigits 10 (whole ++ fraction)) (exponentValue tail - fraction.length)

/-- The whole number that a text with a radix mark, or with a leading zero and octal digits, stands for. -/
def radixValue? : List Char → Option Nat
  | '0' :: c :: digits =>
    match radixOf? c with
    | some radix => some (ofDigits radix digits)
    | none => if (c :: digits).all (isDigitOf 8) then some (ofDigits 8 (c :: digits)) else none
  | _ => none

/-- The characters of a number without separators. -/
def significant (raw : String) : List Char := raw.toList.filter (· != '_')

/-- What the text of a number stands for. -/
def value (raw : String) : Binary64 :=
  match radixValue? (significant raw) with
  | some n => Binary64.ofDecimal n 0
  | none => decimalValue (significant raw)

/-- What the text of a big integer stands for. -/
def bigValue (raw : String) : Nat :=
  let cs := (significant raw).dropLast
  (radixValue? cs).getD (ofDigits 10 cs)

/-! ## Short texts -/

/-- A whole number in hexadecimal notation. -/
def hexadecimal (n : Nat) : String := "0x" ++ String.ofList (Nat.toDigits 16 n)

/-- The least whole number that is written in hexadecimal notation. -/
def hexadecimalFrom : Nat := 10000000

/-- The least big integer that is written in hexadecimal notation. -/
def bigHexadecimalFrom : Nat := 10000000000000000

/-- The greatest value of a machine word, where hexadecimal notation ends. -/
def greatestWord : Nat := 0xffffffffffffffff

/-- Three zeros or more at the end as an exponent. -/
def withExponent (text : List Char) : List Char :=
  let zeros := (text.reverse.takeWhile (· == '0')).length
  if zeros < 3 then text else text.take (text.length - zeros) ++ 'e' :: (toString zeros).toList

/-- A decimal text without a zero before its point, and with an exponent where more than two zeros follow it. -/
def shortened : List Char → List Char
  | '0' :: '.' :: fraction =>
    let zeros := (fraction.takeWhile (· == '0')).length
    if zeros > 2 then fraction.drop zeros ++ 'e' :: '-' :: (toString fraction.length).toList
    else '.' :: fraction
  | text => withExponent text

/-- The text of a finite magnitude in decimal notation, shortened. -/
def decimalText (mantissa : Nat) (exponent : Int) : String :=
  String.ofList (shortened ((shortest mantissa exponent).positional "").toList)

/-- Whether a whole number is written in hexadecimal notation. -/
def isHexadecimal (n : Nat) : Bool := hexadecimalFrom ≤ n && n ≤ greatestWord + 1 && n % 1000 != 0

/-- The short text of a number. One beyond all magnitudes keeps its own. -/
def short (raw : String) : String :=
  match value raw with
  | .infinite => raw
  | .finite mantissa exponent =>
    match (Binary64.finite mantissa exponent).toNat? with
    | some n =>
      if isHexadecimal n then hexadecimal (min n greatestWord) else decimalText mantissa exponent
    | none => decimalText mantissa exponent

/-- The short text of a big integer. -/
def shortBig (raw : String) : String :=
  let n := bigValue raw
  (if bigHexadecimalFrom ≤ n then hexadecimal n else toString n) ++ "n"

/-! ## Points -/

/-- Whether a dot right behind the text of a number would be read as its decimal point. -/
def takesPoint (minify : Bool) (raw : String) : Bool :=
  match value raw with
  | .infinite => false
  | _ =>
    if minify then
      let text := (short raw).toList
      !text.contains '.' && !text.contains 'e' && text.take 2 != ['0', 'x']
    else
      let text := significant raw
      text.all Char.isDigit && (text.length < 2 || text.head? != some '0')

end Stencil.Script.Numeral
