import Stencil.Script.Scan.Gap
import Stencil.Script.Scan.Numeral
import Stencil.Script.StringLiteral
/-!
# Scanning tokens

`lexeme` scans the token at a place together with the gap in front of it. Regular expressions and the texts of
templates have scanners of their own, for the grammar to call where it admits them.
-/

namespace Stencil.Script.Scan

/-! ## Words -/

/-- The characters of a word, escapes resolved. -/
structure WordBody where
  name : List Char
  length : Nat
  escaped : Bool
  isValid : Bool

/-- Puts a character in front. -/
def WordBody.prepend (c : Char) (length : Nat) (escaped : Bool) (body : WordBody) : WordBody :=
  ⟨c :: body.name, length + body.length, escaped || body.escaped, body.isValid⟩

/-- Reads the characters of a word; `first` says that none has been read yet. -/
def wordBody (first : Bool) : List Char → WordBody
  | [] => ⟨[], 0, false, true⟩
  | '\\' :: rest =>
    match rest with
    | 'u' :: digits =>
      match Escape.codePoint? digits with
      | some (code, length) =>
        let c := Char.ofNat code
        if !Escape.isSurrogate code && (if first then Text.isIdentifierStart c else Text.isIdentifierPart c) then
          (wordBody false (digits.drop length)).prepend c (length + 2) true
        else ⟨[], 0, true, false⟩
      | none => ⟨[], 0, true, false⟩
    | _ => ⟨[], 0, true, false⟩
  | c :: rest =>
    if (if first then Text.isIdentifierStart c else Text.isIdentifierPart c) then
      (wordBody false rest).prepend c 1 false
    else ⟨[], 0, false, true⟩
termination_by cs => cs.length
decreasing_by all_goals (simp [List.length_drop]; try omega)

/-- The word at a place. -/
def word (cur : Cursor) : Token × Cursor × List Flaw :=
  let body := wordBody true cur.rest
  if body.isValid then (.word (String.ofList body.name) body.escaped, cur.forward body.length, [])
  else (.broken ⟨cur.offset, .malformedEscape⟩, cur.forward (body.length + 1), [])

/-! ## Strings -/

/-- The string literal at a place. One that does not end is used as far as it goes. -/
def string (strict : Bool) (quote : Char) (cur : Cursor) : Token × Cursor × List Flaw :=
  let body := StringBody.read quote (cur.rest.drop 1)
  let stop := cur.forward (1 + body.length)
  let token := Token.string (String.ofList body.value) (String.ofList (cur.slice stop))
  let octal := if strict ∧ body.hasOctal then [⟨cur.offset, .legacyOctal⟩] else []
  match body.ending with
  | .closed => (token, stop, octal)
  | .open => (token, stop, octal ++ [⟨cur.offset, .unterminatedString⟩])
  | .malformed => (.broken ⟨stop.offset, .malformedEscape⟩, stop, [])

/-! ## Punctuators -/

/-- The punctuators, longer ones before their beginnings. -/
def punctuators : List String :=
  [">>>=", "...", "===", "!==", "**=", "<<=", ">>=", ">>>", "&&=", "||=", "??=",
   "=>", "==", "!=", "<=", ">=", "&&", "||", "??", "?.", "++", "--", "+=", "-=", "*=", "/=", "%=", "&=", "|=",
   "^=", "<<", ">>", "**",
   "\x7b", "\x7d", "(", ")", "[", "]", ".", ";", ",", "<", ">", "+", "-", "*", "/", "%", "&", "|", "^", "!", "~",
   "?", ":", "=", "@", "`"]

/-- Whether the characters begin with the punctuator. A question mark before a decimal point is no link. -/
def beginsWith (text : String) (cs : List Char) : Bool :=
  text.toList.isPrefixOf cs && !(text = "?." && ((cs.drop 2).head?).any Char.isDigit)

/-- The punctuator at a place. -/
def punctuator (c : Char) (cur : Cursor) : Token × Cursor × List Flaw :=
  match punctuators.find? (beginsWith · cur.rest) with
  | some text => (.punctuator text, cur.forward text.length, [])
  | none => (.broken ⟨cur.offset, .unexpectedCharacter c⟩, cur.forward 1, [])

/-! ## Tokens -/

/-- The private name at a place. -/
def privateName (cur : Cursor) : Token × Cursor × List Flaw :=
  match word (cur.forward 1) with
  | (.word "" _, stop, _) => (.broken ⟨cur.offset, .hashWithoutName⟩, stop, [])
  | (.word name _, stop, flaws) => (.privateName name, stop, flaws)
  | other => other

/-- The token at a place where no gap is. -/
def tokenAt (strict : Bool) (cur : Cursor) : Token × Cursor × List Flaw :=
  match cur.rest with
  | [] => (.done, cur, [])
  | c :: rest =>
    if c.isDigit || (c == '.' && (rest.head?).any Char.isDigit) then number strict cur
    else if c == '"' || c == '\'' then string strict c cur
    else if c == '#' then privateName cur
    else if Text.isIdentifierStart c || c == '\\' then word cur
    else punctuator c cur

/-- The token after a place. -/
def lexeme (strict : Bool) (cur : Cursor) (afterLine : Bool) : Lexeme :=
  let gap := gap cur afterLine
  match gap.flaw with
  | some flaw => ⟨.broken flaw, gap.stop, gap.stop, gap.afterLine, gap.comments, []⟩
  | none =>
    let (token, stop, flaws) := tokenAt strict gap.stop
    ⟨token, gap.stop, stop, gap.afterLine, gap.comments, flaws⟩

/-- A token read again at its place. -/
def rescan (strict : Bool) (lexeme : Lexeme) : Lexeme :=
  match lexeme.token with
  | .broken _ => lexeme
  | _ =>
    let (token, stop, flaws) := tokenAt strict lexeme.start
    { lexeme with token, stop, flaws }

/-! ## Regular expressions -/

/-- How many characters the body of a regular expression has, up to its closing slash. -/
def regexLength? (inClass : Bool) : List Char → Option Nat
  | [] => none
  | '\\' :: c :: rest => if Text.isLineEnd c then none else (regexLength? inClass rest).map (· + 2)
  | c :: rest =>
    if Text.isLineEnd c then none
    else if c = '/' ∧ ¬ inClass then some 0
    else (regexLength? (if c = '[' then true else if c = ']' then false else inClass) rest).map (· + 1)

/-- The flags that a regular expression may have, each once. -/
def regexFlags : List Char := ['d', 'g', 'i', 'm', 's', 'u', 'v', 'y']

/-- Whether flags are known and none is repeated. -/
def validFlags (flags : List Char) : Bool :=
  flags.all (regexFlags.contains ·) && flags.eraseDups.length == flags.length

/-- The regular expression whose opening slash is at a place: body, flags and the place after it. -/
def regex? (cur : Cursor) : Option (String × String × Cursor) :=
  (regexLength? false (cur.rest.drop 1)).map fun length =>
    let body := (cur.rest.drop 1).take length
    let flags := (wordBody false (cur.rest.drop (length + 2))).name
    (String.ofList body, String.ofList flags, cur.forward (length + 2 + flags.length))

/-! ## Templates -/

/-- A text between the expressions of a template. -/
structure TemplateText where
  /-- The text as written, with line ends as line feeds. -/
  raw : List Char
  length : Nat
  /-- Whether an expression follows, and not the end of the template. -/
  opensExpression : Bool
  /-- Whether every escape in it means something. -/
  isValid : Bool

/-- Puts characters in front. -/
def TemplateText.prepend (raw : List Char) (length : Nat) (isValid : Bool) (t : TemplateText) : TemplateText :=
  ⟨raw ++ t.raw, length + t.length, t.opensExpression, isValid && t.isValid⟩

/-- Whether an escape is allowed in a template that no tag reads. -/
def templateEscapeOk (cs : List Char) : Bool :=
  match Escape.read? cs with
  | some e => !e.isOctal && !(((cs.head?).any fun c => c == '8' || c == '9'))
  | none => false

/-- Reads template text up to its end or to an embedded expression. -/
def templateText? : List Char → Option TemplateText
  | [] => none
  | '`' :: _ => some ⟨[], 1, false, true⟩
  | '$' :: '\x7b' :: _ => some ⟨[], 2, true, true⟩
  | '\r' :: '\n' :: rest => (templateText? rest).map (·.prepend ['\n'] 2 true)
  | '\r' :: rest => (templateText? rest).map (·.prepend ['\n'] 1 true)
  | '\\' :: '\r' :: '\n' :: rest => (templateText? rest).map (·.prepend ['\\', '\n'] 3 true)
  | '\\' :: c :: rest =>
    (templateText? rest).map
      (·.prepend ['\\', if c = '\r' then '\n' else c] 2 (templateEscapeOk (c :: rest)))
  | c :: rest => (templateText? rest).map (·.prepend [c] 1 true)

end Stencil.Script.Scan
